import Mathlib.Data.Rat.Defs
import Mathlib.Logic.Function.Basic
import PStream.Wire.Frames
import PStream.Flowcontrol.Manager

/-!
# The stream framer

The `streamFramer` (stream_framer.go) fills a packet's STREAM frames: first from its queue of
frames to retransmit, then with new data the streams have to send.

* A stream's send side (stream.go) holds the bytes of the `Write` in progress, `dataForWriting`,
  and the offset of the next byte to send, `writeOffset`.  `Write` hands over its bytes and waits
  until the framer has taken them all or its deadline has passed (`writeReturn`); at the deadline
  it returns 0 and leaves what the framer has not taken yet in `dataForWriting`.  `Close` marks
  the stream finished, and the framer sends a FIN once the last byte is out.
* The three `maybePopNormalFrames…` are one closure run on a sequence of streams.  They differ only
  in `maybePopNormalFramesOfPath`, which takes data only under its path scheduler's test and then
  lowers the stream's volume for the path; `popNormalFrame` takes that test and that update as
  arguments.
* The three `maybePopFramesForRetransmission…` pop frames off the retransmission queue while they
  fit, splitting the last one; the two that serve one path or one stream skip the frames of other
  streams and take the others out of the middle of the queue.

The streams map hands the closure its streams in an order of its own (round robin, weighted at
random, or a single stream): here that order is the argument `ids`, and every result holds
whatever it is.  A stream's float64 volume for a path is read as an exact rational.
-/

set_option autoImplicit false

namespace PStream

open Wire Flowcontrol

/-- The send side of a `stream`.  `dataForWriting` is `none` for Go's `nil`; `pathVolume` reads 0
at a path the Go map has no entry for. -/
structure stream where
  streamID : StreamID
  pathVolume : PathID → ℚ
  writeOffset : ByteCount
  err : Option String
  resetLocally : Bool
  finishedWriting : Bool
  dataForWriting : Option (List UInt8)
  finSent : Bool

/-- The send side of a stream `newStream` makes. -/
def newStream (streamID : StreamID) : stream where
  streamID := streamID
  pathVolume := fun _ => 0
  writeOffset := 0
  err := none
  resetLocally := false
  finishedWriting := false
  dataForWriting := none
  finSent := false

/-- The text of `errDeadline`. -/
def errDeadline : String := "deadline exceeded"

namespace stream

variable (s : stream)

/-- `Write` up to the point where it waits: its bytes are handed to the framer, in the place of
any bytes still there.  A write that ends in an error hands over nothing. -/
def Write (p : List UInt8) : stream × Option String :=
  if s.resetLocally ∨ s.err.isSome then (s, s.err)
  else if s.finishedWriting then
    let streamID := s.streamID
    (s, some s!"write on closed stream {streamID}")
  else if p = [] then (s, none)
  else ({ s with dataForWriting := some p }, none)

/-- The loop in which `Write(p)` waits, at one of its checks: `none` while it keeps waiting, else
what it returns.  Once the deadline has passed it returns `errDeadline` and 0 bytes written,
however many of them the framer has taken. -/
def writeReturn (p : List UInt8) (deadlinePassed : Bool) : Option (Nat × Option String) :=
  if deadlinePassed then some (0, some errDeadline)
  else if s.dataForWriting.isNone ∨ s.err.isSome then
    if s.err.isSome then some (p.length - (s.dataForWriting.getD []).length, s.err)
    else some (p.length, none)
  else none

def Close : stream := { s with finishedWriting := true }

def lenOfDataForWriting : ByteCount :=
  if s.err.isNone then ((s.dataForWriting.getD []).length).toUInt64 else 0

/-- `getDataForWriting`: at most `maxBytes` of the pending bytes, which then count as sent. -/
def getDataForWriting (maxBytes : ByteCount) : stream × Option (List UInt8) :=
  match s.err, s.dataForWriting with
  | none, some dataForWriting =>
    if dataForWriting.length.toUInt64 > maxBytes then
      let ret := dataForWriting.take maxBytes.toNat
      ({ s with dataForWriting := some (dataForWriting.drop maxBytes.toNat)
                writeOffset := s.writeOffset + ret.length.toUInt64 }, some ret)
    else
      ({ s with dataForWriting := none
                writeOffset := s.writeOffset + dataForWriting.length.toUInt64 }, some dataForWriting)
  | _, _ => (s, none)

def shouldSendFin : Bool :=
  s.finishedWriting && !s.finSent && s.err.isNone && s.dataForWriting.isNone

def sentFin : stream := { s with finSent := true }

@[simp] theorem sentFin_streamID : s.sentFin.streamID = s.streamID := rfl

@[simp] theorem getDataForWriting_streamID (maxBytes : ByteCount) :
    (s.getDataForWriting maxBytes).1.streamID = s.streamID := by
  simp only [getDataForWriting]
  split
  · split <;> rfl
  · rfl

/-- `getDataForWriting` hands out no more than it is asked for, counted as the `ByteCount` the
frame's `DataLen` will be. -/
theorem getDataForWriting_length_le {maxBytes : ByteCount} {data : List UInt8}
    (h : (s.getDataForWriting maxBytes).2 = some data) : data.length.toUInt64 ≤ maxBytes := by
  simp only [getDataForWriting] at h
  split at h
  · rename_i dataForWriting _ _
    split at h
    · -- the pending bytes do not fit: exactly `maxBytes` of them go
      rename_i hgt
      cases h
      have hlt := UInt64.lt_iff_toNat_lt.mp hgt
      rw [Nat.toUInt64_eq, UInt64.toNat_ofNat'] at hlt
      have hlen : (dataForWriting.take maxBytes.toNat).length = maxBytes.toNat := by
        rw [List.length_take]
        have := Nat.mod_le dataForWriting.length (2 ^ 64)
        omega
      rw [hlen, Nat.toUInt64_eq, UInt64.ofNat_toNat]
      exact UInt64.le_refl _
    · rename_i hle
      cases h
      exact UInt64.not_lt.mp hle
  · cases h

end stream

/-- The framer's state, with the session's streams (a Go map, as a function) and the flow control
manager, which its pops change. -/
structure streamFramer where
  streams : StreamID → Option stream
  flowControlManager : flowControlManager
  retransmissionQueue : List StreamFrame
  blockedFrameQueue : List BlockedFrame

namespace streamFramer

/-! ## New data -/

/-- What the closure of a `maybePopNormalFrames…` carries from one stream to the next. -/
structure PopState where
  framer : streamFramer
  currentLen : ByteCount
  res : List StreamFrame

/-- `s.pathVolume[pth.pathID] -= float64(frame.DataLen())`. -/
def lowerPathVolume (pathID : PathID) (s : stream) (dataLen : ByteCount) : stream :=
  { s with
    pathVolume := Function.update s.pathVolume pathID (s.pathVolume pathID - dataLen.toNat) }

/-- The frame the closure reserves room for: the stream's ID and write offset, with a data
length.  The Go closure reuses one frame object until it is sent, overwriting its stream ID and
offset each time and setting its FIN bit only right before sending it; it is built afresh here. -/
def headerFor (s : stream) : StreamFrame :=
  { StreamID := s.streamID, FinBit := false, DataLenPresent := true, Offset := s.writeOffset
    Data := [] }

/-- The stream's send window, asked for only when it has data, and the room `maxLen` left for
data, cut to that window. -/
def sendLimit (fcm : Flowcontrol.flowControlManager) (s : stream) (maxLen : ByteCount) :
    ByteCount × ByteCount :=
  let lenStreamData := s.lenOfDataForWriting
  let sendWindowSize :=
    if lenStreamData ≠ 0 then
      match fcm.SendWindowSize s.streamID with
      | .ok w => w
      | .error _ => 0
    else 0
  (sendWindowSize, if lenStreamData ≠ 0 then min maxLen sendWindowSize else maxLen)

/-- The data the closure takes from the stream, within `maxLen`, when it has some and `mayTake`
allows it. -/
def takeData (mayTake : stream → ByteCount → ByteCount → Bool) (s : stream)
    (maxLen : ByteCount) : stream × Option (List UInt8) :=
  let lenStreamData := s.lenOfDataForWriting
  if lenStreamData ≠ 0 ∧ mayTake s lenStreamData maxLen then s.getDataForWriting maxLen
  else (s, none)

/-- The end of the closure: the frame goes out with the data taken and a FIN if one is due, its
bytes are counted as sent, a BLOCKED frame is queued when the connection, or else the stream, is
now out of window, and `afterPop` is applied to the stream. -/
def sendFrame (afterPop : stream → ByteCount → stream) (maxBytes : ByteCount) (st : PopState)
    (s : stream) (header : StreamFrame) (data : Option (List UInt8)) (sendWindowSize : ByteCount) :
    PopState × stream × Bool :=
  let shouldSendFin := s.shouldSendFin
  let s := if shouldSendFin then s.sentFin else s
  let frame := { header with FinBit := shouldSendFin, Data := data.getD [] }
  let fcm := (st.framer.flowControlManager.AddBytesSent s.streamID frame.DataLen).1
  let blocked : List BlockedFrame :=
    if fcm.RemainingConnectionWindowSize = 0 then [⟨0⟩]
    else if !frame.FinBit ∧ sendWindowSize - frame.DataLen = 0 then [⟨s.streamID⟩]
    else []
  let currentLen :=
    st.currentLen + (header.MinLength Protocol.VersionWhatever + frame.DataLen)
  let framer :=
    { st.framer with
      flowControlManager := fcm
      blockedFrameQueue := st.framer.blockedFrameQueue ++ blocked }
  (⟨framer, currentLen, st.res ++ [frame]⟩, afterPop s frame.DataLen, currentLen ≠ maxBytes)

/-- The closure of the `maybePopNormalFrames…`, on the stream `s`, within `maxBytes`: the state,
the stream as the closure leaves it, and whether to go on with the next stream.  It takes data
only when `mayTake s lenStreamData maxLen`, and applies `afterPop` to the stream once the frame is
out. -/
def popNormalFrame (mayTake : stream → ByteCount → ByteCount → Bool)
    (afterPop : stream → ByteCount → stream) (maxBytes : ByteCount) (st : PopState) (s : stream) :
    PopState × stream × Bool :=
  -- the crypto stream is handled separately
  if s.streamID = 1 then (st, s, true) else
  let frame := headerFor s
  let frameHeaderBytes := frame.MinLength Protocol.VersionWhatever
  if st.currentLen + frameHeaderBytes > maxBytes then (st, s, false) else
  let limit := sendLimit st.framer.flowControlManager s (maxBytes - st.currentLen - frameHeaderBytes)
  if limit.2 = 0 then (st, s, true) else
  let taken := takeData mayTake s limit.2
  if taken.2.isNone ∧ ¬ taken.1.shouldSendFin then (st, taken.1, true) else
  sendFrame afterPop maxBytes st taken.1 frame taken.2 limit.1

section PopNormalFrame

variable {mayTake : stream → ByteCount → ByteCount → Bool} {afterPop : stream → ByteCount → stream}
  {maxBytes maxLen : ByteCount} {st : PopState} {s : stream}

@[simp] theorem takeData_streamID : (takeData mayTake s maxLen).1.streamID = s.streamID := by
  simp only [takeData]
  split <;> simp

/-- The data taken fits the room it was taken for. -/
theorem takeData_length_le {data : List UInt8} (h : (takeData mayTake s maxLen).2 = some data) :
    data.length.toUInt64 ≤ maxLen := by
  simp only [takeData] at h
  split at h
  · exact s.getDataForWriting_length_le h
  · cases h

/-- Data is taken only from a stream that has some, and then within the stream's send window. -/
theorem takeData_sendLimit_le {fcm : Flowcontrol.flowControlManager} {w : ByteCount}
    {data : List UInt8} (h : (takeData mayTake s (sendLimit fcm s maxLen).2).2 = some data)
    (hw : fcm.SendWindowSize s.streamID = .ok w) : data.length.toUInt64 ≤ w := by
  have hle := takeData_length_le h
  have hdata : s.lenOfDataForWriting ≠ 0 := by
    intro h0
    simp [takeData, h0] at h
  simp only [sendLimit, hdata, if_true, ne_eq, not_false_eq_true, hw] at hle
  exact UInt64.le_trans hle Std.min_le_right

/-- What one call of the closure does: nothing to the state, or send the frame `sendFrame`
builds, with data taken within the room left and the stream's window. -/
theorem popNormalFrame_cases (mayTake : stream → ByteCount → ByteCount → Bool)
    (afterPop : stream → ByteCount → stream) (maxBytes : ByteCount) (st : PopState) (s : stream) :
    (popNormalFrame mayTake afterPop maxBytes st s).1 = st ∨
      ∃ limit : ByteCount × ByteCount,
        limit = sendLimit st.framer.flowControlManager s
          (maxBytes - st.currentLen - (headerFor s).MinLength Protocol.VersionWhatever) ∧
        s.streamID ≠ 1 ∧
        ¬ st.currentLen + (headerFor s).MinLength Protocol.VersionWhatever > maxBytes ∧
        limit.2 ≠ 0 ∧
        ((takeData mayTake s limit.2).2.isSome ∨ (takeData mayTake s limit.2).1.shouldSendFin) ∧
        popNormalFrame mayTake afterPop maxBytes st s =
          sendFrame afterPop maxBytes st (takeData mayTake s limit.2).1 (headerFor s)
            (takeData mayTake s limit.2).2 limit.1 := by
  simp only [popNormalFrame]
  split_ifs with h1 h2 h3 h4
  · exact .inl rfl
  · exact .inl rfl
  · exact .inl rfl
  · exact .inl rfl
  · refine .inr ⟨_, rfl, h1, h2, h3, ?_, rfl⟩
    rw [not_and_or, Option.isNone_iff_eq_none, not_not] at h4
    rcases h4 with h4 | h4
    · exact .inl (Option.ne_none_iff_isSome.mp h4)
    · exact .inr h4

end PopNormalFrame

/-- The closure run on the streams `ids` in turn, until it says to stop; the stream it changes is
the one the map holds at that ID.  A stream missing from the map is passed over. -/
def popNormalLoop (mayTake : stream → ByteCount → ByteCount → Bool)
    (afterPop : stream → ByteCount → stream) (maxBytes : ByteCount) :
    PopState → List StreamID → PopState
  | st, [] => st
  | st, id :: ids =>
    match st.framer.streams id with
    | none => popNormalLoop mayTake afterPop maxBytes st ids
    | some s =>
      let (st, s, cont) := popNormalFrame mayTake afterPop maxBytes st s
      let st := { st with framer.streams := Function.update st.framer.streams id (some s) }
      if cont then popNormalLoop mayTake afterPop maxBytes st ids else st

def popNormalFrames (mayTake : stream → ByteCount → ByteCount → Bool)
    (afterPop : stream → ByteCount → stream) (f : streamFramer) (maxBytes : ByteCount)
    (ids : List StreamID) : streamFramer × List StreamFrame :=
  let st := popNormalLoop mayTake afterPop maxBytes ⟨f, 0, []⟩ ids
  (st.framer, st.res)

def maybePopNormalFrames (f : streamFramer) (maxBytes : ByteCount) (ids : List StreamID) :
    streamFramer × List StreamFrame :=
  popNormalFrames (fun _ _ _ => true) (fun s _ => s) f maxBytes ids

/-- On a path, a stream's data goes out under the `MultiPath` scheduler while the stream has volume
left on the path or its data fits the frame, and always under `SinglePath`. -/
def maybePopNormalFramesOfPath (f : streamFramer) (maxBytes : ByteCount) (pathID : PathID)
    (pathScheduler : String) (ids : List StreamID) : streamFramer × List StreamFrame :=
  popNormalFrames
    (fun s lenStreamData maxLen =>
      (pathScheduler = "MultiPath" ∧ (s.pathVolume pathID > 0 ∨ lenStreamData < maxLen)) ∨
        pathScheduler = "SinglePath")
    (lowerPathVolume pathID) f maxBytes ids

def maybePopNormalFramesOfOneStream (f : streamFramer) (maxBytes : ByteCount)
    (streamID : StreamID) : streamFramer × List StreamFrame :=
  popNormalFrames (fun _ _ _ => true) (fun s _ => s) f maxBytes [streamID]

/-! ## Retransmissions -/

/-- `maybeSplitOffFrame`: the first `n` bytes as a frame of their own, and what the deferred
function leaves of the frame; nothing when the frame has no more than `n` bytes. -/
def maybeSplitOffFrame (frame : StreamFrame) (n : ByteCount) : Option (StreamFrame × StreamFrame) :=
  if n ≥ frame.DataLen then none
  else
    some ({ FinBit := false, StreamID := frame.StreamID, Offset := frame.Offset
            Data := frame.Data.take n.toNat, DataLenPresent := frame.DataLenPresent },
          { frame with Data := frame.Data.drop n.toNat, Offset := frame.Offset + n })

/-- `AddBytesRetrans` of the frame's bytes; its error is dropped. -/
def addBytesRetrans (f : streamFramer) (frame : StreamFrame) : streamFramer :=
  { f with
    flowControlManager := (f.flowControlManager.AddBytesRetrans frame.StreamID frame.DataLen).1 }

/-- What the retransmission loops carry: the frames popped and their length. -/
structure RetransState where
  framer : streamFramer
  res : List StreamFrame
  currentLen : ByteCount

/-- One frame `frame` of the queue, taken for retransmission within `maxLen`: the state, what
stays in the queue in its place, and whether to go on.  The frame stays, marked as carrying its
data length, when its header does not fit; its first bytes are split off when its data does not
fit. -/
def retransmitOne (maxLen : ByteCount) (st : RetransState) (frame : StreamFrame) :
    RetransState × Option StreamFrame × Bool :=
  let frame := { frame with DataLenPresent := true }
  let frameHeaderLen := frame.MinLength Protocol.VersionWhatever
  if st.currentLen + frameHeaderLen ≥ maxLen then (st, some frame, false) else
  let currentLen := st.currentLen + frameHeaderLen
  match maybeSplitOffFrame frame (maxLen - currentLen) with
  | some (splitFrame, rest) =>
    (⟨addBytesRetrans st.framer splitFrame, st.res ++ [splitFrame],
      currentLen + splitFrame.DataLen⟩, some rest, false)
  | none =>
    (⟨addBytesRetrans st.framer frame, st.res ++ [frame], currentLen + frame.DataLen⟩, none, true)

/-- The loop of the retransmission pops over the queue `queue`, taking the frames `mine` selects
and passing over the others: the state, and the queue left. -/
def retransmitLoop (mine : StreamFrame → Bool) (maxLen : ByteCount) :
    RetransState → List StreamFrame → RetransState × List StreamFrame
  | st, [] => (st, [])
  | st, frame :: queue =>
    if !mine frame then
      let (st, queue) := retransmitLoop mine maxLen st queue
      (st, frame :: queue)
    else
      match retransmitOne maxLen st frame with
      | (st, left, false) => (st, left.toList ++ queue)
      | (st, _, true) => retransmitLoop mine maxLen st queue

/-- `maybePopFramesForRetransmission…`, for the frames `mine` selects: the framer with the queue
left, the frames popped, and their length. -/
def popFramesForRetransmission (mine : StreamFrame → Bool) (f : streamFramer)
    (maxLen : ByteCount) : streamFramer × List StreamFrame × ByteCount :=
  let (st, queue) := retransmitLoop mine maxLen ⟨f, [], 0⟩ f.retransmissionQueue
  ({ st.framer with retransmissionQueue := queue }, st.res, st.currentLen)

/-- `maybePopFramesForRetransmission`: from the front of the queue, while the frames fit. -/
def maybePopFramesForRetransmission (f : streamFramer) (maxLen : ByteCount) :
    streamFramer × List StreamFrame × ByteCount :=
  popFramesForRetransmission (fun _ => true) f maxLen

def maybePopFramesForRetransmissionOfPath (f : streamFramer) (maxLen : ByteCount)
    (streamIDs : List StreamID) : streamFramer × List StreamFrame × ByteCount :=
  popFramesForRetransmission (fun frame => streamIDs.contains frame.StreamID) f maxLen

def maybePopFramesForRetransmissionOfOneStream (f : streamFramer) (maxLen : ByteCount)
    (streamID : StreamID) : streamFramer × List StreamFrame × ByteCount :=
  popFramesForRetransmission (fun frame => frame.StreamID = streamID) f maxLen

/-! ## A packet's STREAM frames -/

def PopStreamFrames (f : streamFramer) (maxLen : ByteCount) (ids : List StreamID) :
    streamFramer × List StreamFrame :=
  let (f, fs, currentLen) := f.maybePopFramesForRetransmission maxLen
  let (f, normal) := f.maybePopNormalFrames (maxLen - currentLen) ids
  (f, fs ++ normal)

def PopStreamFramesOfOneStream (f : streamFramer) (maxLen : ByteCount) (streamID : StreamID) :
    streamFramer × List StreamFrame :=
  let (f, fs, currentLen) := f.maybePopFramesForRetransmissionOfOneStream maxLen streamID
  let (f, normal) := f.maybePopNormalFramesOfOneStream (maxLen - currentLen) streamID
  (f, fs ++ normal)

def PopStreamFramesOfPath (f : streamFramer) (maxLen : ByteCount) (pathID : PathID)
    (streamIDs : List StreamID) (pathScheduler : String) (ids : List StreamID) :
    streamFramer × List StreamFrame :=
  let (f, fs, currentLen) := f.maybePopFramesForRetransmissionOfPath maxLen streamIDs
  let (f, normal) := f.maybePopNormalFramesOfPath (maxLen - currentLen) pathID pathScheduler ids
  (f, fs ++ normal)

/-! ## The session's send side -/

/-- A stream of the map, changed through its pointer. -/
def updateStream (f : streamFramer) (streamID : StreamID) (g : stream → stream) : streamFramer :=
  match f.streams streamID with
  | none => f
  | some s => { f with streams := Function.update f.streams streamID (some (g s)) }

end streamFramer

/-- A call of the session on its send side: on the flow control manager, on a stream, or on the
framer.  The session removes a stream from its map and from flow control together. -/
inductive SendCall where
  | NewStream (streamID : StreamID) (contributesToConnection : Bool)
  | RemoveStream (streamID : StreamID)
  | UpdateWindow (streamID : StreamID) (offset : ByteCount)
  | Write (streamID : StreamID) (p : List UInt8)
  | Close (streamID : StreamID)
  | maybePopNormalFrames (maxBytes : ByteCount) (ids : List StreamID)
  | maybePopNormalFramesOfPath (maxBytes : ByteCount) (pathID : PathID) (pathScheduler : String)
      (ids : List StreamID)
  | maybePopNormalFramesOfOneStream (maxBytes : ByteCount) (streamID : StreamID)
  | maybePopFramesForRetransmission (maxLen : ByteCount)
  | maybePopFramesForRetransmissionOfPath (maxLen : ByteCount) (streamIDs : List StreamID)
  | maybePopFramesForRetransmissionOfOneStream (maxLen : ByteCount) (streamID : StreamID)

namespace streamFramer

/-- One call: the framer after it, and the STREAM frames it popped. -/
def step (f : streamFramer) : SendCall → streamFramer × List StreamFrame
  | .NewStream streamID b =>
    ({ f with flowControlManager := f.flowControlManager.NewStream streamID b }, [])
  | .RemoveStream streamID =>
    ({ f with
       streams := Function.update f.streams streamID none
       flowControlManager := f.flowControlManager.RemoveStream streamID }, [])
  | .UpdateWindow streamID offset =>
    ({ f with flowControlManager := (f.flowControlManager.UpdateWindow streamID offset).1 }, [])
  | .Write streamID p => (f.updateStream streamID fun s => (s.Write p).1, [])
  | .Close streamID => (f.updateStream streamID stream.Close, [])
  | .maybePopNormalFrames maxBytes ids => f.maybePopNormalFrames maxBytes ids
  | .maybePopNormalFramesOfPath maxBytes pathID pathScheduler ids =>
    f.maybePopNormalFramesOfPath maxBytes pathID pathScheduler ids
  | .maybePopNormalFramesOfOneStream maxBytes streamID =>
    f.maybePopNormalFramesOfOneStream maxBytes streamID
  | .maybePopFramesForRetransmission maxLen =>
    let (f, res, _) := f.maybePopFramesForRetransmission maxLen
    (f, res)
  | .maybePopFramesForRetransmissionOfPath maxLen streamIDs =>
    let (f, res, _) := f.maybePopFramesForRetransmissionOfPath maxLen streamIDs
    (f, res)
  | .maybePopFramesForRetransmissionOfOneStream maxLen streamID =>
    let (f, res, _) := f.maybePopFramesForRetransmissionOfOneStream maxLen streamID
    (f, res)

/-- The calls in turn: the framer after them, and the STREAM frames they popped, in order. -/
def run (f : streamFramer) : List SendCall → streamFramer × List StreamFrame
  | [] => (f, [])
  | call :: calls =>
    let (f, popped) := f.step call
    let (f, popped') := run f calls
    (f, popped ++ popped')

@[simp] theorem run_nil_fst (f : streamFramer) : (f.run []).1 = f := rfl

@[simp] theorem run_cons_fst (f : streamFramer) (call : SendCall) (calls : List SendCall) :
    (f.run (call :: calls)).1 = ((f.step call).1.run calls).1 := rfl

end streamFramer

end PStream
