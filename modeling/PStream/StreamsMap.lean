import Mathlib.Data.List.Sort
import PStream.StreamTree.Frame

/-!
# The streams map

`streams_map.go` keeps the streams of a session by ID, counts the streams each side opened, opens
the streams a peer's frame implies, and hands the scheduler the streams in the order of their
priority.  A session always builds it with `newStreamsMapTree`, so that every stream put into the
map is also added to the session's dependency tree.

A method returns the map it leaves behind together with its Go result: several of them change the
map and then fail (`GetOrOpenStream` keeps the streams it opened before the one that failed).  A
method that panics (through the tree) or never ends returns `none`.

The map is generic in the type `S` of the session's stream pointers; `StreamEnv` says what it reads
of a stream and how the session makes one.

Two things are simplified.  A `*Sync` opener waits on a condition variable while the stream limit
is reached; here it returns the `TooManyOpenStreams` error it would wait on, and leaves the map as
it is, which is what the map looks like until the wait ends.  `sort.Slice` may order streams of
equal weight in any way; `sortStreamPriorityOrder` uses insertion sort, which is stable.

The map and the tree keep their own records of a stream.  `RemoveStream` leaves the stream's node
in the tree, so a stream removed before it sent its FIN is still scheduled, and the iteration over
the schedule fails to find it.  And a stream's priority lives both in the stream and in its node:
a stream the peer opens gets the priority of its opener, its node the default weight on the root.
-/

set_option autoImplicit false

namespace PStream

/-- `protocol.Priority`. -/
structure Priority where
  Weight : UInt8
  Dependency : StreamID
  Exclusive : Bool
  deriving DecidableEq, Repr

/-- The priority `openRemoteStream` and `openStreamImpl` give a stream: `^uint8(0)`, on the root,
not exclusive. -/
def defaultStreamPriority : Priority := { Weight := 255, Dependency := 0, Exclusive := false }

/-- What the map reads of the `ConnectionParametersManager`. -/
structure ConnectionParameters where
  maxIncomingDynamicStreamsPerConnection : UInt32
  deriving DecidableEq, Repr

namespace ConnectionParameters

/-- `GetMaxOutgoingStreams`. -/
def GetMaxOutgoingStreams (h : ConnectionParameters) : UInt32 :=
  h.maxIncomingDynamicStreamsPerConnection

/-- `GetMaxIncomingStreams`: `max(100 + 10, uint32(100 * 1.1))`.  The float product is
`110.00000000000001`, which the conversion truncates to 110, as `100 * 11 / 10` does. -/
def GetMaxIncomingStreams (_ : ConnectionParameters) : UInt32 :=
  let maxStreams := Protocol.MaxIncomingDynamicStreamsPerConnection
  max (maxStreams.toUInt32 + Protocol.MaxStreamsMinimumIncrement.toUInt32)
    (maxStreams * 11 / 10).toUInt32

end ConnectionParameters

/-- What the map reads of a stream, and the session's `newStreamPrioritySize`. -/
structure StreamEnv (S : Type) extends StreamOps S where
  /-- `s.priority.Weight`. -/
  weight : S → UInt8
  /-- `session.newStreamPrioritySize`. -/
  newStreamPrioritySize : StreamID → Priority → S

/-- The state of a `streamsMap`.  `streams` is the Go map as a list of entries with distinct keys;
`openStreams` is the slice of the same IDs in the order they were put in, and `roundRobinIndex`
the position in it where `RoundRobinIterate` starts. -/
structure StreamsMap (S : Type) where
  perspective : Perspective
  connectionParameters : ConnectionParameters
  streams : List (StreamID × S)
  openStreams : List StreamID
  roundRobinIndex : UInt32
  nextStream : StreamID
  highestStreamOpenedByPeer : StreamID
  closeErr : Option String
  nextStreamToAccept : StreamID
  priorityOrder : List StreamID
  numOutgoingStreams : UInt32
  numIncomingStreams : UInt32
  streamTree : Option (StreamTree S)

/-- `newStreamsMapTree`: a client opens the odd streams from 1 on and accepts the even ones, a
server the other way round. -/
def newStreamsMapTree {S : Type} (pers : Perspective) (connectionParameters : ConnectionParameters)
    (streamTree : StreamTree S) : StreamsMap S :=
  { perspective := pers, connectionParameters, streams := [], openStreams := [], roundRobinIndex := 0
    nextStream := if pers = .client then 1 else 2
    highestStreamOpenedByPeer := 0, closeErr := none
    nextStreamToAccept := if pers = .client then 2 else 1
    priorityOrder := [], numOutgoingStreams := 0, numIncomingStreams := 0
    streamTree := some streamTree }

namespace StreamsMap

variable {S : Type} (env : StreamEnv S)

/-- `qerr.TooManyOpenStreams` as an error. -/
def TooManyOpenStreams : String := "TooManyOpenStreams"

/-- `errMapAccess`. -/
def errMapAccess : String := "streamsMap: Error accessing the streams map"

/-- `m.streams[id]`. -/
def lookup (m : StreamsMap S) (id : StreamID) : Option S := m.streams.lookup id

/-- Run a method of the tree when there is one (`if m.streamTree != nil`); a tree error is the
method's error. -/
def withTree (m : StreamsMap S) (f : StreamTree S → Option (Except String (StreamTree S))) :
    Option (StreamsMap S × Except String Unit) :=
  match m.streamTree with
  | none => some (m, .ok ())
  | some t => (f t).map fun
    | .ok t => ({ m with streamTree := some t }, .ok ())
    | .error e => (m, .error e)

/-- `m.streamTree.printTree()`, which dereferences the tree unconditionally and moves the
round-robin cursors as it goes. -/
def printTree (m : StreamsMap S) : Option (StreamsMap S) := do
  let t ← m.streamTree
  let t ← t.printTree
  pure { m with streamTree := some t }

/-- `putStream`: enter the stream in the map, the open list and the tree. -/
def putStream (m : StreamsMap S) (s : S) : Option (StreamsMap S × Except String Unit) :=
  let id := env.streamID s
  if (m.lookup id).isSome then some (m, .error s!"a stream with ID {id} already exists")
  else
    let m := { m with streams := m.streams ++ [(id, s)], openStreams := m.openStreams ++ [id] }
    m.withTree fun t => StreamTree.addNode env.toStreamOps t (some s)

/-! ## Opening streams -/

/-- The body the three `openRemoteStream*` methods share, for the priority the new stream gets.
The limit is checked on `numIncomingStreams`; the count that goes up is `numIncomingStreams` on a
server but `numOutgoingStreams` on a client.  The error of `putStream` is dropped. -/
def openRemoteStreamWith (priority : Priority) (m : StreamsMap S) (id : StreamID) :
    Option (StreamsMap S × Except String S) :=
  let highest := m.highestStreamOpenedByPeer
  if m.numIncomingStreams ≥ m.connectionParameters.GetMaxIncomingStreams then
    some (m, .error TooManyOpenStreams)
  else if id + Protocol.MaxNewStreamIDDelta < highest then
    some (m, .error (s!"InvalidStreamID: attempted to open stream {id}, which is a lot " ++
      s!"smaller than the highest opened stream, {highest}"))
  else
    let m := if m.perspective = .server then
        { m with numIncomingStreams := m.numIncomingStreams + 1 }
      else { m with numOutgoingStreams := m.numOutgoingStreams + 1 }
    let m := if id > m.highestStreamOpenedByPeer then { m with highestStreamOpenedByPeer := id }
      else m
    let s := env.newStreamPrioritySize id priority
    (putStream env m s).map fun r => (r.1, .ok s)

def openRemoteStream (m : StreamsMap S) (id : StreamID) : Option (StreamsMap S × Except String S) :=
  openRemoteStreamWith env defaultStreamPriority m id

def openRemoteStreamPriority (m : StreamsMap S) (id : StreamID) (priority : Priority) :
    Option (StreamsMap S × Except String S) :=
  openRemoteStreamWith env priority m id

def openRemoteStreamPrioritySize (m : StreamsMap S) (id : StreamID) (priority : Priority) :
    Option (StreamsMap S × Except String S) :=
  openRemoteStreamWith env priority m id

/-- `for ; sid <= id; sid += 2 { openRemote(sid) }`.  `sid` is a `uint32` and can wrap round
below `id`; `fuel` bounds a loop that never ends. -/
def openRemoteLoop (openRemote : StreamsMap S → StreamID → Option (StreamsMap S × Except String S))
    (id : StreamID) : Nat → StreamsMap S → StreamID → Option (StreamsMap S × Except String Unit)
  | 0, _, _ => none
  | fuel + 1, m, sid =>
    if sid ≤ id then
      match openRemote m sid with
      | none => none
      | some (m, .error e) => some (m, .error e)
      | some (m, .ok _) => openRemoteLoop openRemote id fuel m (sid + 2)
    else some (m, .ok ())

/-- The part the three `GetOrOpenStream*` methods share: return the stream if it exists, `nil` for
a stream of either side that must have been closed, an error for a stream the peer may not open,
and otherwise open every stream of the peer up to `id` and run `after` on the map. -/
def getOrOpenWith (openRemote : StreamsMap S → StreamID → Option (StreamsMap S × Except String S))
    (after : StreamsMap S → Option (StreamsMap S)) (m : StreamsMap S) (id : StreamID) :
    Option (StreamsMap S × Except String (Option S)) :=
  match m.lookup id with
  | some s => some (m, .ok (some s))
  | none =>
    if m.perspective = .server ∧ id % 2 = 0 then
      if id ≤ m.nextStream then some (m, .ok none)
      else some (m, .error s!"InvalidStreamID: attempted to open stream {id} from client-side")
    else if m.perspective = .server ∧ id ≤ m.highestStreamOpenedByPeer then some (m, .ok none)
    else if m.perspective = .client ∧ id % 2 = 1 then
      if id ≤ m.nextStream then some (m, .ok none)
      else some (m, .error s!"InvalidStreamID: attempted to open stream {id} from server-side")
    else if m.perspective = .client ∧ id ≤ m.highestStreamOpenedByPeer then some (m, .ok none)
    else
      let sid := m.highestStreamOpenedByPeer + 2
      let sid := if sid = 2 ∧ m.perspective = .server then 1 else sid
      match openRemoteLoop openRemote id (2 ^ 32) m sid with
      | none => none
      | some (m, .error e) => some (m, .error e)
      | some (m, .ok ()) => (after m).map fun m => (m, .ok (m.lookup id))

/-- `GetOrOpenStream`, which also prints the tree after opening streams. -/
def GetOrOpenStream (m : StreamsMap S) (id : StreamID) :
    Option (StreamsMap S × Except String (Option S)) :=
  getOrOpenWith (openRemoteStream env) printTree m id

def GetOrOpenStreamPriority (m : StreamsMap S) (id : StreamID) (priority : Priority) :
    Option (StreamsMap S × Except String (Option S)) :=
  getOrOpenWith (fun m sid => openRemoteStreamPriority env m sid priority) some m id

def GetOrOpenStreamPrioritySize (m : StreamsMap S) (id : StreamID) (priority : Priority) :
    Option (StreamsMap S × Except String (Option S)) :=
  getOrOpenWith (fun m sid => openRemoteStreamPrioritySize env m sid priority) some m id

/-- The part the three `openStream*Impl` methods share: the limit is checked on
`numOutgoingStreams`; the count that goes up is `numOutgoingStreams` on a server but
`numIncomingStreams` on a client. -/
def openStreamWith (priority : Priority) (m : StreamsMap S) :
    Option (StreamsMap S × Except String S) :=
  let id := m.nextStream
  if m.numOutgoingStreams ≥ m.connectionParameters.GetMaxOutgoingStreams then
    some (m, .error TooManyOpenStreams)
  else
    let m := if m.perspective = .server then
        { m with numOutgoingStreams := m.numOutgoingStreams + 1 }
      else { m with numIncomingStreams := m.numIncomingStreams + 1 }
    let m := { m with nextStream := m.nextStream + 2 }
    let s := env.newStreamPrioritySize id priority
    (putStream env m s).map fun r => (r.1, .ok s)

/-- Set the tree's weight and parent of stream `id` to `priority`, as `openStreamPriorityImpl`,
`openStreamPrioritySizeImpl` and `session.SetStreamPriority` do. -/
def setTreePriority (m : StreamsMap S) (id : StreamID) (priority : Priority) :
    Option (StreamsMap S × Except String Unit) := do
  let (m, r) ← m.withTree fun t => t.maybeSetWeight id priority.Weight
  match r with
  | .error e => pure (m, .error e)
  | .ok () => m.withTree fun t => t.maybeSetParent id priority.Dependency priority.Exclusive

def openStreamImpl (m : StreamsMap S) : Option (StreamsMap S × Except String S) :=
  openStreamWith env defaultStreamPriority m

def openStreamPriorityImpl (m : StreamsMap S) (priority : Priority) :
    Option (StreamsMap S × Except String S) := do
  let (m, r) ← openStreamWith env priority m
  match r with
  | .error e => pure (m, .error e)
  | .ok s =>
    let (m, r) ← setTreePriority m (env.streamID s) priority
    pure (m, r.map fun _ => s)

def openStreamPrioritySizeImpl (m : StreamsMap S) (priority : Priority) :
    Option (StreamsMap S × Except String S) := do
  let (m, r) ← openStreamPriorityImpl env m priority
  match r with
  | .error e => pure (m, .error e)
  | .ok s =>
    let m ← printTree m
    pure (m, .ok s)

/-- `OpenStream`: fails with the error the map was closed with, if any. -/
def OpenStream (m : StreamsMap S) : Option (StreamsMap S × Except String S) :=
  match m.closeErr with
  | some e => some (m, .error e)
  | none => openStreamImpl env m

def OpenStreamSync (m : StreamsMap S) : Option (StreamsMap S × Except String S) :=
  OpenStream env m

def OpenStreamPrioritySync (m : StreamsMap S) (priority : Priority) :
    Option (StreamsMap S × Except String S) :=
  match m.closeErr with
  | some e => some (m, .error e)
  | none => openStreamPriorityImpl env m priority

def OpenStreamPrioritySizeSync (m : StreamsMap S) (priority : Priority) :
    Option (StreamsMap S × Except String S) :=
  match m.closeErr with
  | some e => some (m, .error e)
  | none => openStreamPrioritySizeImpl env m priority

/-! ## Removing streams and scheduling -/

/-- The round-robin cursor after `RemoveStream` deletes `id` from `openStreams`: one back when the
position deleted lies before it. -/
def roundRobinIndexAfterRemove (openStreams : List StreamID) (roundRobinIndex : UInt32)
    (id : StreamID) : UInt32 :=
  match openStreams.idxOf? id with
  | some i => if UInt32.ofNat i < roundRobinIndex then roundRobinIndex - 1 else roundRobinIndex
  | none => roundRobinIndex

/-- `RemoveStream`: take the stream out of the map, the open list and the priority order, move the
round-robin cursor back over the gap, and count the stream down by the parity of its ID.  The
tree keeps its node. -/
def RemoveStream (m : StreamsMap S) (id : StreamID) : StreamsMap S × Except String Unit :=
  match m.lookup id with
  | none => (m, .error s!"attempted to remove non-existing stream: {id}")
  | some _ =>
    let m := if id % 2 = 0 then { m with numOutgoingStreams := m.numOutgoingStreams - 1 }
      else { m with numIncomingStreams := m.numIncomingStreams - 1 }
    ({ m with
      openStreams := m.openStreams.erase id
      roundRobinIndex := roundRobinIndexAfterRemove m.openStreams m.roundRobinIndex id
      priorityOrder := m.priorityOrder.erase id
      streams := m.streams.filter fun e => e.1 ≠ id }, .ok ())

/-- `sortStreamPriorityOrder`: schedule the tree, and when it reports streams, order their IDs by
descending weight.  `false` when the tree reports nothing. -/
def sortStreamPriorityOrder (m : StreamsMap S) : Option (StreamsMap S × Bool) := do
  let t ← m.streamTree
  let (t, streams) ← StreamTree.schedule env.toStreamOps t
  let m := { m with streamTree := some t }
  if streams = [] then pure (m, false) else
  let orders ← streams.mapM fun s => s.map fun s => (env.streamID s, env.weight s)
  let orders := orders.insertionSort fun a b => a.2 ≥ b.2
  pure ({ m with priorityOrder := orders.map Prod.fst }, true)

/-- `iterateFunc`: the stream of `id` goes to `fn`; a missing one is `errMapAccess`. -/
def iterateFunc (m : StreamsMap S) (id : StreamID) (fn : S → Bool × Option String) :
    Bool × Option String :=
  match m.lookup id with
  | none => (true, some errMapAccess)
  | some s => fn s

/-- `RoundRobinIterateSchedule`: `fn` for each stream of `priorityOrder`, until `fn` stops or
fails. -/
def RoundRobinIterateSchedule (m : StreamsMap S) (fn : S → Bool × Option String) :
    Bool × Option String :=
  go m.priorityOrder
where
  go : List StreamID → Bool × Option String
    | [] => (true, none)
    | id :: ids =>
      match m.iterateFunc id fn with
      | (_, some e) => (false, some e)
      | (false, none) => (false, none)
      | (true, none) => go ids

/-- The map's tree is untouched by `RemoveStream`: the node of a removed stream stays. -/
@[simp] theorem RemoveStream_streamTree (m : StreamsMap S) (id : StreamID) :
    (m.RemoveStream id).1.streamTree = m.streamTree := by
  unfold RemoveStream
  split
  · rfl
  · split <;> rfl

/-! ## Two copies of a priority

A stream carries the priority it was opened with, and the scheduler sorts by its weight; the tree
keeps a weight and a parent of its own.  The streams a peer opens are put into the tree by
`addNode`, which gives every node the default weight 15 on the root, whatever the stream carries.
-/

/-- Streams that carry the priority they were made with, as the session's streams do. -/
def priorityStreamEnv : StreamEnv (StreamID × Priority) :=
  { streamID := Prod.fst, finishedWriteAndSentFin := fun _ => false, checksize := fun _ => false
    weight := fun s => s.2.Weight, newStreamPrioritySize := fun id p => (id, p) }

/-- A stream not yet in the map goes into the tree through `addNode`, which cannot fail on a
stream. -/
theorem putStream_tree {m m' : StreamsMap S} {t : StreamTree S} {s : S} {r : Except String Unit}
    (ht : m.streamTree = some t) (hnew : m.lookup (env.streamID s) = none)
    (h : putStream env m s = some (m', r)) :
    ∃ t', m'.streamTree = some t' ∧ StreamTree.addNode env.toStreamOps t (some s) = some (.ok t') := by
  simp only [putStream, hnew, Option.isSome_none, Bool.false_eq_true, if_false, withTree, ht] at h
  rw [StreamTree.addNode_some] at h ⊢
  cases ha : StreamTree.addWeight _ _ StreamTree.root t.nodes.length with
  | none => simp [ha] at h
  | some t₂ =>
    simp only [ha, Option.bind_some, Option.map_some, Option.some.injEq] at h
    obtain ⟨rfl, -⟩ := Prod.mk.inj h
    exact ⟨_, rfl, rfl⟩

/-- The stream `openRemoteStreamWith` opens is the session's new stream with the given priority,
and it is added to the tree. -/
theorem openRemoteStreamWith_tree {priority : Priority} {m m' : StreamsMap S} {t : StreamTree S}
    {id : StreamID} {s : S} (ht : m.streamTree = some t)
    (hnew : m.lookup (env.streamID (env.newStreamPrioritySize id priority)) = none)
    (h : openRemoteStreamWith env priority m id = some (m', .ok s)) :
    s = env.newStreamPrioritySize id priority ∧
      ∃ t', m'.streamTree = some t' ∧ StreamTree.addNode env.toStreamOps t (some s) = some (.ok t') := by
  unfold openRemoteStreamWith at h
  -- the two refusals return errors
  by_cases hlim : m.numIncomingStreams ≥ m.connectionParameters.GetMaxIncomingStreams
  · rw [if_pos hlim] at h
    cases h
  rw [if_neg hlim] at h
  by_cases hdelta : id + Protocol.MaxNewStreamIDDelta < m.highestStreamOpenedByPeer
  · rw [if_pos hdelta] at h
    cases h
  rw [if_neg hdelta] at h
  obtain ⟨⟨m₂, r⟩, hput, hr⟩ := Option.map_eq_some_iff.1 h
  obtain ⟨rfl, hs⟩ := Prod.mk.inj hr
  cases hs
  -- the counters and the highest ID change, the streams and the tree do not
  refine ⟨rfl, putStream_tree env ?_ ?_ hput⟩
  · split_ifs <;> exact ht
  · split_ifs <;> exact hnew

/-- Whatever priority a peer's stream is opened with, its node has the default weight 15 and hangs
below the root.  `openRemoteStream` gives the stream the weight 255, and `GetOrOpenStreamPriority*`
the weight and dependency of the frame that opened it. -/
theorem openRemoteStreamWith_weight_differs {priority : Priority}
    {m m' : StreamsMap (StreamID × Priority)} {t : StreamTree (StreamID × Priority)} {id : StreamID}
    {s : StreamID × Priority} (ht : m.streamTree = some t) (hnew : m.lookup id = none)
    (h : openRemoteStreamWith priorityStreamEnv priority m id = some (m', .ok s)) :
    s.2 = priority ∧ ∃ t' n, m'.streamTree = some t' ∧ t'.nodeMap id = some n ∧
      (t'.node n).weight = Protocol.DefaultStreamWeight ∧ (t'.node n).parent = some StreamTree.root := by
  obtain ⟨rfl, t', ht', hadd⟩ := openRemoteStreamWith_tree priorityStreamEnv ht hnew h
  obtain ⟨hmap, -, hhead, -⟩ := StreamTree.addNode_spec hadd
  exact ⟨rfl, t', _, ht', hmap, Node.weight_eq_of_head_eq hhead, Node.parent_eq_of_head_eq hhead⟩

/-- A server opening the client's stream 5 for a STREAM frame: the stream has weight 255, its node
15. -/
theorem openRemoteStreamWith_weight_differs_five :
    ∃ m' s, openRemoteStreamWith priorityStreamEnv defaultStreamPriority
        (newStreamsMapTree .server ⟨100⟩ (newStreamTree _)) 5 = some (m', .ok s) ∧
      s.2.Weight = 255 ∧ ∃ t' n, m'.streamTree = some t' ∧ t'.nodeMap 5 = some n ∧
        (t'.node n).weight = 15 := by
  obtain ⟨m', s, h⟩ : ∃ m' s, openRemoteStreamWith priorityStreamEnv defaultStreamPriority
      (newStreamsMapTree .server ⟨100⟩ (newStreamTree _)) 5 = some (m', .ok s) := ⟨_, _, rfl⟩
  obtain ⟨hs, t', n, h1, h2, h3, -⟩ := openRemoteStreamWith_weight_differs rfl rfl h
  exact ⟨m', s, h, by rw [hs]; rfl, t', n, h1, h2, h3⟩

/-! ## The per-direction limits -/

/-- The streams a peer opens: the odd ones on a server, the even ones on a client. -/
def peerInitiated (pers : Perspective) (id : StreamID) : Bool :=
  if pers = .server then id % 2 = 1 else id % 2 = 0

/-- The number of open streams the peer opened. -/
def numPeerStreams (m : StreamsMap S) : Nat :=
  (m.streams.filter fun e => peerInitiated m.perspective e.1).length

/-- Streams that are their own IDs, with the default weight. -/
def idStreamEnv : StreamEnv StreamID :=
  { streamID := id, finishedWriteAndSentFin := fun _ => false, checksize := fun _ => false
    weight := fun _ => 255, newStreamPrioritySize := fun id _ => id }

/-- A client whose server sends a frame for stream 222 opens the 111 server streams 2, 4, ..., 222:
the limit check reads `numIncomingStreams`, which counts the client's own streams. -/
theorem getOrOpenStream_exceeds_incoming_limit :
    ((newStreamsMapTree .client ⟨100⟩ (newStreamTree StreamID)).GetOrOpenStream idStreamEnv
      222).map (fun r => (r.1.numPeerStreams, r.2.toOption)) = some (111, some (some 222)) ∧
    (ConnectionParameters.GetMaxIncomingStreams ⟨100⟩).toNat = 110 :=
  ⟨by decide +kernel, by decide⟩

/-! ## Removed streams stay in the tree -/

set_option synthInstance.maxSize 512 in
/-- A server gets a frame for stream 5 and opens the client streams 1, 3 and 5; stream 5 is
cancelled before it sends a FIN, so garbage collection removes it from the map, but its node stays
active in the tree.  The next scheduling round puts 5 into `priorityOrder`, and iterating over it
fails with `errMapAccess`. -/
theorem roundRobinIterateSchedule_removed_stream :
    ((newStreamsMapTree .server ⟨100⟩ (newStreamTree StreamID)).GetOrOpenStream idStreamEnv 5).bind
        (fun r => (sortStreamPriorityOrder idStreamEnv (r.1.RemoveStream 5).1).map fun r' =>
          (r.2.toOption, (r.1.RemoveStream 5).2.toOption, r'.1.priorityOrder, r'.1.lookup 5,
            r'.1.RoundRobinIterateSchedule fun _ => (true, none))) =
      some (some (some 5), some (), [1, 3, 5], none, (false, some errMapAccess)) := by
  decide +kernel

end StreamsMap
end PStream
