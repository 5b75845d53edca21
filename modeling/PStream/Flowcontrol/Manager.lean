import PStream.Lib.List
import PStream.Flowcontrol.Controller

/-!
# The flow control manager

`flowControlManager` (internal/flowcontrol/flow_control_manager.go) holds a flow controller for
every open stream and one for the connection.  Data received on, read from or sent on a stream
goes into the stream's books and, when the stream contributes to connection-level flow control,
into the connection's as well.

The Go map of controllers is a list of entries with distinct keys.  `GetWindowUpdates` ranges over
that map in an order the Go runtime picks; here the order is an argument, `order`, and every
result holds whatever it is.  The float product `float64(newIncrement) * 1.5` is read exactly and
truncated, as the conversion back to a `ByteCount` does.
-/

set_option autoImplicit false

namespace PStream.Flowcontrol

/-- The errors the manager returns: its own `errMapAccess`, and the two `qerr` codes, with the
message `qerr.Error` carries. -/
inductive Error where
  | errMapAccess
  | StreamDataAfterTermination
  | FlowControlReceivedTooMuchData (ErrorMessage : String)
  deriving DecidableEq, Repr

/-- A window update to send: `WindowUpdate`. -/
structure WindowUpdate where
  StreamID : StreamID
  Offset : ByteCount
  deriving DecidableEq, Repr

/-- The fields of a `flowControlManager` the modelled methods read. -/
structure flowControlManager where
  connectionParameters : ConnectionParametersManager
  streamFlowController : List (StreamID × flowController)
  connFlowController : flowController

def NewFlowControlManager (connectionParameters : ConnectionParametersManager) :
    flowControlManager where
  connectionParameters := connectionParameters
  streamFlowController := []
  connFlowController := newFlowController 0 false connectionParameters

/-- `protocol.ByteCount(float64(newIncrement) * protocol.ConnectionFlowControlMultiplier)`, the
multiplier being 1.5. -/
def connectionIncrement (newIncrement : ByteCount) : ByteCount :=
  (newIncrement.toNat * 3 / 2).toUInt64

namespace flowControlManager

variable (f : flowControlManager)

def getFlowController (streamID : StreamID) : Except Error flowController :=
  match f.streamFlowController.lookup streamID with
  | some fc => .ok fc
  | none => .error .errMapAccess

/-- Writing through the pointer `getFlowController` returned. -/
def setFlowController (streamID : StreamID) (fc : flowController) : flowControlManager :=
  { f with
    streamFlowController :=
      f.streamFlowController.map fun e => if e.1 = streamID then (streamID, fc) else e }

def setConnFlowController (fc : flowController) : flowControlManager :=
  { f with connFlowController := fc }

/-- `NewStream`: nothing if the stream has a controller already. -/
def NewStream (streamID : StreamID) (contributesToConnection : Bool) : flowControlManager :=
  match f.streamFlowController.lookup streamID with
  | some _ => f
  | none =>
    { f with
      streamFlowController := f.streamFlowController ++
        [(streamID, newFlowController streamID contributesToConnection f.connectionParameters)] }

def RemoveStream (streamID : StreamID) : flowControlManager :=
  { f with streamFlowController := f.streamFlowController.filter fun e => e.1 ≠ streamID }

/-! ## Receiving -/

/-- What `ResetStream` and `UpdateHighestReceived` do once the stream's controller has taken the
new offset: check the stream's window, then add the increment to the connection and check its
window. -/
def checkAndAccount (streamID : StreamID) (byteOffset : ByteCount) (fc : flowController)
    (increment : ByteCount) : flowControlManager × Option Error :=
  let f := f.setFlowController streamID fc
  if fc.CheckFlowControlViolation then
    let receiveWindow := fc.receiveWindow
    (f, some (.FlowControlReceivedTooMuchData
      s!"Received {byteOffset} bytes on stream {streamID}, allowed {receiveWindow} bytes"))
  else if fc.contributesToConnection then
    let conn := f.connFlowController.IncrementHighestReceived increment
    let f := f.setConnFlowController conn
    if conn.CheckFlowControlViolation then
      let highestReceived := conn.highestReceived
      let receiveWindow := conn.receiveWindow
      (f, some (.FlowControlReceivedTooMuchData
        s!"Received {highestReceived} bytes for the connection, allowed {receiveWindow} bytes"))
    else (f, none)
  else (f, none)

/-- `ResetStream`: an offset below the highest one received is `StreamDataAfterTermination`. -/
def ResetStream (streamID : StreamID) (byteOffset : ByteCount) :
    flowControlManager × Option Error :=
  match f.getFlowController streamID with
  | .error err => (f, some err)
  | .ok fc =>
    let (fc, increment, err) := fc.UpdateHighestReceived byteOffset
    if err.isSome then (f, some .StreamDataAfterTermination)
    else f.checkAndAccount streamID byteOffset fc increment

/-- `UpdateHighestReceived`: an offset below the highest one received is a reordered frame, and
counts with an increment of 0. -/
def UpdateHighestReceived (streamID : StreamID) (byteOffset : ByteCount) :
    flowControlManager × Option Error :=
  match f.getFlowController streamID with
  | .error err => (f, some err)
  | .ok fc =>
    -- an out-of-order frame is only counted, for debugging
    let (fc, increment, _) := fc.UpdateHighestReceived byteOffset
    f.checkAndAccount streamID byteOffset fc increment

def AddBytesRead (now : ℕ) (streamID : StreamID) (n : ByteCount) :
    flowControlManager × Option Error :=
  match f.getFlowController streamID with
  | .error err => (f, some err)
  | .ok fc =>
    let f := f.setFlowController streamID (fc.AddBytesRead now n)
    if fc.contributesToConnection then
      (f.setConnFlowController (f.connFlowController.AddBytesRead now n), none)
    else (f, none)

/-- One round of the loop of `GetWindowUpdates` over the streams. -/
def windowUpdateOfStream (clock : Clock) (force : Bool) (st : flowControlManager × List WindowUpdate)
    (id : StreamID) : flowControlManager × List WindowUpdate :=
  let (f, res) := st
  match f.streamFlowController.lookup id with
  | none => (f, res)
  | some fc =>
    let (fc, necessary, newIncrement, offset) := fc.MaybeUpdateWindow clock
    let f := f.setFlowController id fc
    if force || necessary then
      let res := res ++ [⟨id, offset⟩]
      if fc.contributesToConnection && newIncrement ≠ 0 then
        (f.setConnFlowController
          (f.connFlowController.EnsureMinimumWindowIncrement (connectionIncrement newIncrement)),
          res)
      else (f, res)
    else (f, res)

/-- `GetWindowUpdates`, visiting the streams in the order `order`. -/
def GetWindowUpdates (clock : Clock) (force : Bool) (order : List StreamID) :
    flowControlManager × List WindowUpdate :=
  let (f, res) := order.foldl (windowUpdateOfStream clock force) (f, [])
  let (conn, necessary, _, offset) := f.connFlowController.MaybeUpdateWindow clock
  let f := f.setConnFlowController conn
  if force || necessary then (f, res ++ [⟨0, offset⟩]) else (f, res)

/-! ## Sending -/

def AddBytesSent (streamID : StreamID) (n : ByteCount) : flowControlManager × Option Error :=
  match f.getFlowController streamID with
  | .error err => (f, some err)
  | .ok fc =>
    let f := f.setFlowController streamID (fc.AddBytesSent n)
    if fc.contributesToConnection then
      (f.setConnFlowController (f.connFlowController.AddBytesSent n), none)
    else (f, none)

def AddBytesRetrans (streamID : StreamID) (n : ByteCount) : flowControlManager × Option Error :=
  match f.getFlowController streamID with
  | .error err => (f, some err)
  | .ok fc =>
    let f := f.setFlowController streamID (fc.AddBytesRetrans n)
    if fc.contributesToConnection then
      (f.setConnFlowController (f.connFlowController.AddBytesRetrans n), none)
    else (f, none)

/-- `SendWindowSize` of a stream: the stream's window, and the connection's too if the stream
contributes to it. -/
def SendWindowSize (streamID : StreamID) : Except Error ByteCount :=
  match f.getFlowController streamID with
  | .error err => .error err
  | .ok fc =>
    let res := fc.SendWindowSize f.connectionParameters
    if fc.contributesToConnection then
      .ok (min res (f.connFlowController.SendWindowSize f.connectionParameters))
    else .ok res

def RemainingConnectionWindowSize : ByteCount :=
  f.connFlowController.SendWindowSize f.connectionParameters

/-- `UpdateWindow`: stream 0 is the connection. -/
def UpdateWindow (streamID : StreamID) (offset : ByteCount) :
    flowControlManager × Except Error Bool :=
  if streamID = 0 then
    let (fc, updated) := f.connFlowController.UpdateSendWindow offset
    (f.setConnFlowController fc, .ok updated)
  else
    match f.getFlowController streamID with
    | .error err => (f, .error err)
    | .ok fc =>
      let (fc, updated) := fc.UpdateSendWindow offset
      (f.setFlowController streamID fc, .ok updated)

/-! ## The map after each change -/

@[simp] theorem setFlowController_connFlowController (streamID : StreamID) (fc : flowController) :
    (f.setFlowController streamID fc).connFlowController = f.connFlowController := rfl

@[simp] theorem setFlowController_connectionParameters (streamID : StreamID)
    (fc : flowController) :
    (f.setFlowController streamID fc).connectionParameters = f.connectionParameters := rfl

@[simp] theorem setConnFlowController_streamFlowController (fc : flowController) :
    (f.setConnFlowController fc).streamFlowController = f.streamFlowController := rfl

@[simp] theorem setConnFlowController_connFlowController (fc : flowController) :
    (f.setConnFlowController fc).connFlowController = fc := rfl

@[simp] theorem setConnFlowController_connectionParameters (fc : flowController) :
    (f.setConnFlowController fc).connectionParameters = f.connectionParameters := rfl

@[simp] theorem NewStream_connFlowController (streamID : StreamID) (b : Bool) :
    (f.NewStream streamID b).connFlowController = f.connFlowController := by
  simp only [NewStream]
  split <;> rfl

@[simp] theorem NewStream_connectionParameters (streamID : StreamID) (b : Bool) :
    (f.NewStream streamID b).connectionParameters = f.connectionParameters := by
  simp only [NewStream]
  split <;> rfl

@[simp] theorem RemoveStream_connFlowController (streamID : StreamID) :
    (f.RemoveStream streamID).connFlowController = f.connFlowController := rfl

@[simp] theorem RemoveStream_connectionParameters (streamID : StreamID) :
    (f.RemoveStream streamID).connectionParameters = f.connectionParameters := rfl

theorem getFlowController_ok {streamID : StreamID} {fc : flowController} :
    f.getFlowController streamID = .ok fc ↔ f.streamFlowController.lookup streamID = some fc := by
  cases h : f.streamFlowController.lookup streamID <;> simp [getFlowController, h]

/-- The keys of the map are those it had. -/
@[simp] theorem keys_setFlowController (streamID : StreamID) (fc : flowController) :
    (f.setFlowController streamID fc).streamFlowController.map Prod.fst =
      f.streamFlowController.map Prod.fst := by
  simp only [setFlowController, List.map_map]
  congr 1
  funext e
  by_cases h : e.1 = streamID <;> simp [h]

/-- Writing a stream's controller changes that entry and no other. -/
theorem lookup_setFlowController (streamID id : StreamID) (fc : flowController) :
    (f.setFlowController streamID fc).streamFlowController.lookup id =
      if id = streamID then (f.streamFlowController.lookup id).map fun _ => fc
      else f.streamFlowController.lookup id :=
  List.lookup_map_replace _ _ _ _

/-- The map after a write holds the written controller and the entries it had. -/
theorem mem_setFlowController {streamID : StreamID} {fc : flowController}
    {e : StreamID × flowController} (he : e ∈ (f.setFlowController streamID fc).streamFlowController) :
    e.2 = fc ∨ e ∈ f.streamFlowController := by
  obtain ⟨e', he', rfl⟩ := List.mem_map.mp he
  split_ifs
  · exact .inl rfl
  · exact .inr he'

/-- A new stream's controller is found under its ID unless one was there already. -/
theorem lookup_NewStream (streamID id : StreamID) (b : Bool) :
    (f.NewStream streamID b).streamFlowController.lookup id =
      (f.streamFlowController.lookup id).or
        (if id = streamID then some (newFlowController streamID b f.connectionParameters)
          else none) := by
  simp only [NewStream]
  cases h : f.streamFlowController.lookup streamID with
  | some _ =>
    by_cases hid : id = streamID
    · subst hid
      simp [h]
    · simp [hid]
  | none =>
    by_cases hid : id = streamID
    · subst hid
      simp [h, List.lookup_append]
    · simp [hid, List.lookup_append, List.lookup_cons, beq_false_of_ne hid]

/-- Removing a stream's controller leaves the others. -/
theorem lookup_RemoveStream (streamID id : StreamID) :
    (f.RemoveStream streamID).streamFlowController.lookup id =
      if id = streamID then none else f.streamFlowController.lookup id :=
  List.lookup_filter_ne _ _ _

theorem mem_of_lookup {streamID : StreamID} {c : flowController}
    (hc : f.streamFlowController.lookup streamID = some c) :
    (streamID, c) ∈ f.streamFlowController := by
  obtain ⟨l₁, l₂, heq, -⟩ := List.lookup_eq_some_iff.mp hc
  rw [heq]
  simp

/-- `NewStream` keeps the keys distinct: it only adds a stream that has no controller. -/
theorem nodup_NewStream (hnodup : (f.streamFlowController.map Prod.fst).Nodup)
    (streamID : StreamID) (b : Bool) :
    ((f.NewStream streamID b).streamFlowController.map Prod.fst).Nodup := by
  simp only [NewStream]
  split
  · exact hnodup
  · rename_i hc
    simp only [List.map_append, List.map_cons, List.map_nil, List.nodup_append,
      List.nodup_singleton, List.mem_singleton]
    refine ⟨hnodup, trivial, fun a ha b hb => hb ▸ fun heq => ?_⟩
    obtain ⟨e, he, rfl⟩ := List.mem_map.mp ha
    simp only [List.lookup_eq_none_iff, bne_iff_ne, ne_eq] at hc
    exact hc e he heq.symm

theorem mem_NewStream {streamID : StreamID} {b : Bool} {e : StreamID × flowController}
    (he : e ∈ (f.NewStream streamID b).streamFlowController) :
    e ∈ f.streamFlowController ∨
      e = (streamID, newFlowController streamID b f.connectionParameters) := by
  simp only [NewStream] at he
  split at he
  · exact .inl he
  · simpa using he

theorem nodup_RemoveStream (hnodup : (f.streamFlowController.map Prod.fst).Nodup)
    (streamID : StreamID) : ((f.RemoveStream streamID).streamFlowController.map Prod.fst).Nodup :=
  (List.filter_sublist.map Prod.fst).nodup hnodup

theorem mem_RemoveStream {streamID : StreamID} {e : StreamID × flowController}
    (he : e ∈ (f.RemoveStream streamID).streamFlowController) : e ∈ f.streamFlowController :=
  List.mem_of_mem_filter he

/-! ## Totals over the controllers -/

section Total

variable {M : Type} [AddCommMonoid M] (g : flowController → M)

/-- The total of `g` over the streams' controllers and over `removed`, those of streams removed
before. -/
def total (removed : List flowController) : M :=
  (f.streamFlowController.map (g ∘ Prod.snd)).sum + (removed.map g).sum

@[simp] theorem total_setConnFlowController (fc : flowController) (removed : List flowController) :
    (f.setConnFlowController fc).total g removed = f.total g removed := rfl

/-- Writing one controller changes the total by what it changes that controller by. -/
theorem total_setFlowController (hnodup : (f.streamFlowController.map Prod.fst).Nodup)
    {streamID : StreamID} {c : flowController} (hc : f.streamFlowController.lookup streamID = some c)
    (c' : flowController) (removed : List flowController) :
    (f.setFlowController streamID c').total g removed + g c = f.total g removed + g c' := by
  have hreplace : _ = _ + g c' := List.sum_map_replace g hnodup hc
  simp only [total, setFlowController]
  rw [add_right_comm, hreplace, add_right_comm]

/-- Removing a stream moves its controller's share into the removed ones. -/
theorem total_RemoveStream (hnodup : (f.streamFlowController.map Prod.fst).Nodup)
    (streamID : StreamID) (removed : List flowController) :
    (f.RemoveStream streamID).total g (removed ++ (f.streamFlowController.lookup streamID).toList) =
      f.total g removed := by
  simp only [total, RemoveStream]
  cases hc : f.streamFlowController.lookup streamID with
  | none =>
    have hall : ∀ e ∈ f.streamFlowController, e.1 ≠ streamID := by
      intro e he heq
      simp only [List.lookup_eq_none_iff, bne_iff_ne, ne_eq] at hc
      exact hc e he heq.symm
    rw [List.filter_ne_of_forall_ne hall]
    simp
  | some c =>
    have hfilter := List.sum_map_filter_ne g hnodup hc
    simp only [Option.toList_some, List.map_append, List.map_cons, List.map_nil, List.sum_append,
      List.sum_cons, List.sum_nil, add_zero]
    rw [← add_assoc, add_right_comm, hfilter]

/-- A new stream adds nothing to a total its new controller has no share in. -/
theorem total_NewStream (streamID : StreamID) (b : Bool) (removed : List flowController)
    (hg : g (newFlowController streamID b f.connectionParameters) = 0) :
    (f.NewStream streamID b).total g removed = f.total g removed := by
  simp only [total, NewStream]
  split
  · rfl
  · simp [hg]

end Total

end flowControlManager

end PStream.Flowcontrol
