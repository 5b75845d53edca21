import Mathlib.Logic.Function.Basic
import PStream.Wire.Frames

/-!
# The stream frame sorter

`streamFrameSorter` (stream_frame_sorter.go) puts back together a stream whose STREAM frames may
arrive in any order, overlap or repeat.  It keeps the frames it has accepted in a map keyed by
offset, the position up to which the stream has been read, and the list of byte ranges not yet
received, `gaps`, which starts as the single gap `[0, MaxByteCount)`.

`Push` trims an incoming frame to the gaps it fills, and shrinks, splits or removes those gaps;
`Pop` hands out the frame at the read position.  The Go code walks its doubly linked gap list with
two pointers, `gap` and `endGap`, and edits the elements in place.  Here the list is cut at `gap`:

* `findGap` is the first loop, which finds `gap`;
* `findEndGap` is the second loop, which walks on to `endGap` and reports where it left it (at
  `gap`, at the first gap still after `gap`, or at a gap it has already removed);
* `fillGap` is the closing case analysis, which edits `gap` and `endGap`.

An error Go returns after the state has changed keeps that change, so `Push` returns the new state
beside its error.  Go's `wasCut` only decides whether the trimmed data is copied to a fresh slice,
which an immutable list does not need.
-/

set_option autoImplicit false

namespace PStream

open Wire

/-- `utils.ByteInterval`: the bytes from `Start` up to, and not including, `End`. -/
structure ByteInterval where
  Start : ByteCount
  End : ByteCount
  deriving DecidableEq, Repr

/-- The sorter's fields.  Go's `map[ByteCount]*StreamFrame` is a function to `Option`. -/
structure streamFrameSorter where
  queuedFrames : ByteCount → Option StreamFrame
  readPosition : ByteCount
  gaps : List ByteInterval

def errTooManyGapsInReceivedStreamData : String := "Too many gaps in received StreamFrame data"

def errDuplicateStreamData : String := "Duplicate Stream Data"

def errEmptyStreamData : String := "Stream Data empty"

def newStreamFrameSorter : streamFrameSorter where
  queuedFrames := fun _ => none
  readPosition := 0
  gaps := [⟨0, Protocol.MaxByteCount⟩]

namespace streamFrameSorter

/-- The first loop of `Push`: the gaps before the first one the frame `[start, end)` reaches or
touches, that gap, and the gaps after it.  A frame that ends before that gap was received
already. -/
def findGap (start «end» : ByteCount) :
    List ByteInterval → Except String (List ByteInterval × ByteInterval × List ByteInterval)
  | [] => .error "StreamFrameSorter BUG: no gap found"
  | gap :: gaps =>
    if «end» ≤ gap.Start then .error errDuplicateStreamData
    else if «end» > gap.Start ∧ start ≤ gap.End then .ok ([], gap, gaps)
    else (findGap start «end» gaps).map fun (before, g, after) => (gap :: before, g, after)

/-- Where the second loop of `Push` leaves `endGap`. -/
inductive EndGapAt where
  /-- `endGap` is `gap` itself. -/
  | gap
  /-- `endGap` is the first of the gaps after `gap`. -/
  | next
  /-- The loop has removed `endGap` from the list. -/
  | removed
  deriving DecidableEq, Repr

/-- The gaps after `gap` while `endGap` is still in the list, followed by `rest`. -/
def keep (endGap : ByteInterval) (endGapAt : EndGapAt) (rest : List ByteInterval) :
    List ByteInterval :=
  if endGapAt = .gap then rest else endGap :: rest

/-- What the second loop of `Push` leaves behind: the queued frames, `endGap` and where it stands,
the gaps after `gap`, and the error it stopped with. -/
structure EndGapScan where
  queuedFrames : ByteCount → Option StreamFrame
  endGap : ByteInterval
  endGapAt : EndGapAt
  following : List ByteInterval
  err : Option String

/-- The second loop of `Push`, at `endGap` with the gaps `rest` after it: while the frame reaches
the end of `endGap`, step on to the next gap, removing `endGap` unless it is `gap`; when the frame
also passes the next gap's start, forget the frame queued where `endGap` ends. -/
def findEndGap («end» : ByteCount) (queuedFrames : ByteCount → Option StreamFrame)
    (endGap : ByteInterval) (endGapAt : EndGapAt) : List ByteInterval → EndGapScan
  | [] =>
    if «end» ≥ endGap.End then
      ⟨queuedFrames, endGap, endGapAt, keep endGap endGapAt [],
        some "StreamFrameSorter BUG: no end gap found"⟩
    else ⟨queuedFrames, endGap, endGapAt, keep endGap endGapAt [], none⟩
  | nextEndGap :: rest =>
    if «end» ≥ endGap.End then
      if «end» ≤ nextEndGap.Start then
        ⟨queuedFrames, endGap, if endGapAt = .gap then .gap else .removed, nextEndGap :: rest,
          none⟩
      else
        -- delete queued frames completely covered by the current frame
        findEndGap «end» (Function.update queuedFrames endGap.End none) nextEndGap .next rest
    else ⟨queuedFrames, endGap, endGapAt, keep endGap endGapAt (nextEndGap :: rest), none⟩

/-- `endGap.Value.Start = v`, wherever `endGap` stands: `gap` and the gaps after it, edited. -/
def setEndGapStart (endGapAt : EndGapAt) (v : ByteCount) (gap : ByteInterval)
    (following : List ByteInterval) : ByteInterval × List ByteInterval :=
  match endGapAt, following with
  | .gap, _ => ({ gap with Start := v }, following)
  | .next, g :: gs => (gap, { g with Start := v } :: gs)
  | _, _ => (gap, following)

/-- The closing case analysis of `Push`, for the frame's final bytes `[start, end)`: the gaps from
`gap` on. -/
def fillGap (start «end» : ByteCount) (gap endGap : ByteInterval) (endGapAt : EndGapAt)
    (following : List ByteInterval) : List ByteInterval :=
  if start = gap.Start then
    -- the frame covers the beginning of `endGap`, and fills `gap` if it reaches its end
    let (gap', following') :=
      if «end» < endGap.End then setEndGapStart endGapAt «end» gap following
      else (gap, following)
    if «end» ≥ gap.End then following' else gap' :: following'
  else if «end» = endGap.End then
    -- the frame covers the end of the gap
    { gap with End := start } :: following
  else if endGapAt = .gap then
    -- the frame lies within the current gap, splitting it into two
    { gap with End := start } :: { Start := «end», End := gap.End } :: following
  else
    let (gap', following') := setEndGapStart endGapAt «end» gap following
    { gap' with End := start } :: following'

/-- The frame without the bytes before `gap`. -/
def cutHead (gap : ByteInterval) (frame : StreamFrame) : StreamFrame :=
  let start := frame.Offset
  if start < gap.Start then
    let add := gap.Start - start
    { frame with Offset := frame.Offset + add, Data := frame.Data.drop add.toNat }
  else frame

/-- The frame `[frame.Offset, end)` without the bytes after `endGap`, and where it now ends. -/
def cutTail (endGap : ByteInterval) (frame : StreamFrame) («end» : ByteCount) :
    StreamFrame × ByteCount :=
  if «end» > endGap.End then
    let cutLen := «end» - endGap.End
    let len := frame.DataLen - cutLen
    ({ frame with Data := frame.Data.take len.toNat }, «end» - cutLen)
  else (frame, «end»)

/-- `Push` from the first loop on, for a frame that does not repeat one queued at its offset. -/
def pushFrame (s : streamFrameSorter) (frame : StreamFrame) :
    streamFrameSorter × Option String :=
  let start := frame.Offset
  let «end» := frame.Offset + frame.DataLen
  match findGap start «end» s.gaps with
  | .error e => (s, some e)
  | .ok (before, gap, after) =>
    let frame := cutHead gap frame
    let scan := findEndGap «end» s.queuedFrames gap .gap after
    match scan.err with
    | some e =>
      ({ s with queuedFrames := scan.queuedFrames, gaps := before ++ gap :: scan.following },
        some e)
    | none =>
      let (frame, «end») := cutTail scan.endGap frame «end»
      let gaps := before ++ fillGap frame.Offset «end» gap scan.endGap scan.endGapAt scan.following
      if gaps.length > Protocol.MaxStreamFrameSorterGaps then
        ({ s with queuedFrames := scan.queuedFrames, gaps }, some errTooManyGapsInReceivedStreamData)
      else
        let queuedFrames := Function.update scan.queuedFrames frame.Offset (some frame)
        ({ s with queuedFrames, gaps }, none)

/-- `streamFrameSorter.Push`: the new state, and the error returned. -/
def Push (s : streamFrameSorter) (frame : StreamFrame) : streamFrameSorter × Option String :=
  if frame.DataLen = 0 then
    if frame.FinBit then
      ({ s with queuedFrames := Function.update s.queuedFrames frame.Offset (some frame) }, none)
    else (s, some errEmptyStreamData)
  else
    match s.queuedFrames frame.Offset with
    | some oldFrame =>
      if frame.DataLen ≤ oldFrame.DataLen then (s, some errDuplicateStreamData)
      else
        pushFrame s { frame with Data := frame.Data.drop oldFrame.DataLen.toNat,
                                 Offset := frame.Offset + oldFrame.DataLen }
    | none => pushFrame s frame

def Head (s : streamFrameSorter) : Option StreamFrame :=
  s.queuedFrames s.readPosition

/-- `streamFrameSorter.Pop`: the new state, and the frame returned. -/
def Pop (s : streamFrameSorter) : streamFrameSorter × Option StreamFrame :=
  match s.Head with
  | some frame =>
    ({ s with readPosition := s.readPosition + frame.DataLen,
              queuedFrames := Function.update s.queuedFrames frame.Offset none }, some frame)
  | none => (s, none)

/-- A call made on the sorter by its stream. -/
inductive Call where
  | push (frame : StreamFrame)
  | pop

/-- What a sequence of calls leaves: the sorter, the frames `Pop` returned and the errors `Push`
returned, in order. -/
structure Outcome where
  sorter : streamFrameSorter
  popped : List StreamFrame
  errors : List String

/-- The calls, one after the other. -/
def run (s : streamFrameSorter) : List Call → Outcome
  | [] => ⟨s, [], []⟩
  | .push frame :: calls =>
    let (s', err) := s.Push frame
    let o := run s' calls
    ⟨o.sorter, o.popped, err.toList ++ o.errors⟩
  | .pop :: calls =>
    let (s', frame) := s.Pop
    let o := run s' calls
    ⟨o.sorter, frame.toList ++ o.popped, o.errors⟩

/-- The frames pushed by the calls. -/
def pushed : List Call → List StreamFrame
  | [] => []
  | .push frame :: calls => frame :: pushed calls
  | .pop :: calls => pushed calls

end streamFrameSorter

end PStream
