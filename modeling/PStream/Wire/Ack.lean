import PStream.Wire.Frames

/-!
# ACK and CLOSE_PATH frames

An ACK frame reports the packets received on a path as ranges, highest first; a CLOSE_PATH frame
reports the same ranges for a path that is being closed.  Both frames write their ranges the same
way: the first range as a block length, then for each further range the gap below the previous
range and the range's length.  A gap longer than 255 does not fit into the gap byte and is split
into blocks of length zero, and at most 255 blocks are written in all, so a frame with many ranges
loses its lowest ones.

`writeAckBlocks` is that shared loop, `numWritableNackRanges` the count of blocks it stops at, and
`parseAckBlocks` the parser's loop that rebuilds the ranges.  The two `Write`s differ in their
header, and in that the ACK frame masks its 48-bit fields while the CLOSE_PATH frame passes them
to a writer that panics above 2^48.

A frame whose first gap needs 255 blocks or more is valid, but its `Write` fails with the
writer's own "BUG" error: the count of blocks stops before that gap, the writer's loop does not.

`AckFrame.Write` reads the clock (`time.Since(f.PacketReceivedTime)`); the model takes the time of
the write as an argument.  Times are nanoseconds as an `Int`, and `time.Time.Sub` saturates at the
bounds of a `Duration`.
-/

set_option autoImplicit false

namespace PStream
namespace Wire

open Utils ExceptOption

/-- An `AckRange`: the packets `First` to `Last`. -/
structure AckRange where
  First : PacketNumber
  Last : PacketNumber
  deriving DecidableEq, Repr, Inhabited

/-- An ACK frame.  `PacketReceivedTime` is when the largest acknowledged packet arrived; it is not
written.  `DelayTime` is set by `Write` and by the parser. -/
structure AckFrame where
  PathID : PathID
  LargestAcked : PacketNumber
  LowestAcked : PacketNumber
  AckRanges : List AckRange
  PacketReceivedTime : Int
  DelayTime : Int64
  deriving DecidableEq, Repr

/-- A CLOSE_PATH frame. -/
structure ClosePathFrame where
  PathID : PathID
  LargestAcked : PacketNumber
  LowestAcked : PacketNumber
  AckRanges : List AckRange
  deriving DecidableEq, Repr

def ErrInvalidAckRanges : String := "AckFrame: ACK frame contains invalid ACK ranges"
def ErrInvalidFirstAckRange : String := "AckFrame: ACK frame has invalid first ACK range"
def errInconsistentAckLargestAcked : String :=
  "internal inconsistency: LargestAcked does not match ACK ranges"
def errInconsistentAckLowestAcked : String :=
  "internal inconsistency: LowestAcked does not match ACK ranges"

/-! ## What both frames compute from their ranges -/

/-- `validateAckRanges`: no ranges, or at least two, the first ending at `LargestAcked`, each
non-empty, and each one lower than the one before with a gap of at least one packet. -/
def validateAckRanges (largestAcked : PacketNumber) (ranges : List AckRange) : Bool :=
  match ranges with
  | [] => true
  | [_] => false
  | r :: rs =>
    r.Last == largestAcked && ranges.all (fun r => r.First ≤ r.Last) &&
      (ranges.zip rs).all fun (prev, r) => !(prev.First ≤ r.First) && !(prev.First ≤ r.Last + 1)

/-- The number of blocks the gap below `prev` down to `r` takes: `gap / 255` rounded up. -/
def gapBlocks (prev r : AckRange) : UInt64 :=
  let gap := prev.First - r.Last - 1
  let rangeLength := 1 + gap / 0xFF
  if gap % 0xFF = 0 then rangeLength - 1 else rangeLength

/-- The loop of `numWritableNackRanges`: add the blocks of each further range while the total
stays below 255. -/
def numWritableLoop : AckRange → List AckRange → UInt64 → UInt64
  | _, [], numRanges => numRanges
  | prev, r :: rs, numRanges =>
    let rangeLength := gapBlocks prev r
    if numRanges + rangeLength < 0xFF then numWritableLoop r rs (numRanges + rangeLength)
    else numRanges

/-- `numWritableNackRanges`: the number of blocks written, the first range's included. -/
def numWritableNackRanges (ranges : List AckRange) : UInt64 :=
  match ranges with
  | [] => 0
  | r :: rs => numWritableLoop r rs 0 + 1

/-- `getMissingSequenceNumberDeltaLen`: the width that holds the longest range. -/
def getMissingSequenceNumberDeltaLen (largestAcked lowestAcked : PacketNumber)
    (ranges : List AckRange) : PacketNumberLen :=
  let maxRangeLength : PacketNumber := if ranges ≠ [] then
      ranges.foldl (fun m r => if r.Last - r.First + 1 > m then r.Last - r.First + 1 else m) 0
    else largestAcked - lowestAcked + 1
  if maxRangeLength ≤ 0xFF then Protocol.PacketNumberLen1
  else if maxRangeLength ≤ 0xFFFF then Protocol.PacketNumberLen2
  else if maxRangeLength ≤ 0xFFFFFFFF then Protocol.PacketNumberLen4
  else Protocol.PacketNumberLen6

/-- `AcksPacket`. -/
def acksPacket (largestAcked lowestAcked : PacketNumber) (ranges : List AckRange)
    (p : PacketNumber) : Bool :=
  if p < lowestAcked ∨ p > largestAcked then false
  else if ranges ≠ [] then ranges.any fun r => p ≥ r.First && p ≤ r.Last
  else p ≥ lowestAcked && p ≤ largestAcked

/-! ## Writing -/

/-- A value in `len` bytes, as each `switch` on a length does; `mask48` is the ACK frame's
`& (1<<48 - 1)` on six-byte values.  A length outside 1, 2, 4, 6 matches no case. -/
def writeLen (o : ByteOrder) (mask48 : Bool) (len : PacketNumberLen) (v : UInt64) :
    Option (List UInt8) :=
  if len = Protocol.PacketNumberLen1 then some [v.toUInt8]
  else if len = Protocol.PacketNumberLen2 then some (o.WriteUint16 v.toUInt16)
  else if len = Protocol.PacketNumberLen4 then some (o.WriteUint32 v.toUInt32)
  else if len = Protocol.PacketNumberLen6 then
    o.WriteUint48 (if mask48 then v &&& (((1 : UInt64) <<< 48) - 1) else v)
  else some []

/-- The blocks of one range whose gap needs `num` blocks: `num - 1` blocks of gap 255 and length 0,
then the rest of the gap and the range's length.  `int(num)` of a `num` from 2^63 on is negative
and the loop does not run. -/
def longBlocks (o : ByteOrder) (mask48 : Bool) (len : PacketNumberLen) (num gap length : UInt64) :
    Option (List UInt8) := do
  let iters := if num.toNat < 2 ^ 63 then num.toNat else 0
  if iters = 0 then pure [] else
  let zero ← writeLen o mask48 len 0
  let last ← writeLen o mask48 len length
  pure ((List.replicate (iters - 1) ([0xFF] ++ zero)).flatten ++
    [(1 + (gap - 1) % 255).toUInt8] ++ last)

/-- The number of blocks `longBlocks` writes. -/
def longBlockCount (num : UInt64) : UInt64 := if num.toNat < 2 ^ 63 then num else 0

/-- The blocks of one range below `prev`, and how many there are: one block when the gap fits into
its byte, else `longBlocks`. -/
def rangeBlocks (o : ByteOrder) (mask48 : Bool) (len : PacketNumberLen) (prev r : AckRange) :
    Option (List UInt8 × UInt64) :=
  let length := r.Last - r.First + 1
  let gap := prev.First - r.Last - 1
  let num := gapBlocks prev r
  if num = 1 then do
    let l ← writeLen o mask48 len length
    pure ([gap.toUInt8] ++ l, 1)
  else do
    let bs ← longBlocks o mask48 len num gap length
    pure (bs, longBlockCount num)

/-- `for i, ackRange := range f.AckRanges` from the second range on: the blocks of each range, and
the count of blocks written, which stops the loop once it reaches `numRanges`. -/
def writeAckBlocks (o : ByteOrder) (mask48 : Bool) (len : PacketNumberLen) (numRanges : UInt64) :
    AckRange → List AckRange → UInt64 → Option (List UInt8 × UInt64)
  | _, [], written => some ([], written)
  | prev, r :: rs, written => do
    let (bytes, n) ← rangeBlocks o mask48 len prev r
    let written := written + n
    if written ≥ numRanges then pure (bytes, written) else do
    let (rest, written) ← writeAckBlocks o mask48 len numRanges r rs written
    pure (bytes ++ rest, written)

/-- The ranges part of both `Write`s, from the first block length on: the first block, then the
other blocks, and the check that exactly `numRanges` blocks went out. -/
def writeRanges (o : ByteOrder) (mask48 : Bool) (largestAcked lowestAcked : PacketNumber)
    (ranges : List AckRange) (len : PacketNumberLen) (numRanges : UInt64) (bugText : String) :
    ExceptT String Option (List UInt8) := do
  let (first, written) ← match ranges with
    | [] => pure (largestAcked - lowestAcked + 1, (0 : UInt64))
    | r :: rs =>
      if largestAcked ≠ r.Last then throw errInconsistentAckLargestAcked
      else if lowestAcked ≠ ((r :: rs).getLast (List.cons_ne_nil r rs)).First then
        throw errInconsistentAckLowestAcked
      else pure (largestAcked - r.First + 1, 1)
  let firstBytes ← (writeLen o mask48 len first : Option _)
  let (blocks, written) ← match ranges with
    | [] => pure ([], written)
    | r :: rs => (writeAckBlocks o mask48 len numRanges r rs written : Option _)
  if numRanges ≠ written then throw bugText
  else pure (firstBytes ++ blocks)

/-- The saturating `time.Time.Sub`. -/
def timeSub (t u : Int) : Int64 :=
  let d := t - u
  if d > Int64.maxValue.toInt then Int64.maxValue
  else if d < Int64.minValue.toInt then Int64.minValue
  else Int64.ofInt d

namespace AckFrame

def HasMissingRanges (f : AckFrame) : Bool := f.AckRanges ≠ []

def AcksPacket (f : AckFrame) (p : PacketNumber) : Bool :=
  acksPacket f.LargestAcked f.LowestAcked f.AckRanges p

def getMissingSequenceNumberDeltaLen (f : AckFrame) : PacketNumberLen :=
  Wire.getMissingSequenceNumberDeltaLen f.LargestAcked f.LowestAcked f.AckRanges

/-- The type byte of `Write`, `01MPLLmm`: the missing ranges bit, the path ID bit, and half the
lengths of `LargestAcked` and of the missing sequence number deltas. -/
def typeByte (f : AckFrame) : UInt8 :=
  let largestAckedLen := GetPacketNumberLength f.LargestAcked
  let missingLen := f.getMissingSequenceNumberDeltaLen
  let typeByte : UInt8 := 0x40
  let typeByte := if largestAckedLen ≠ Protocol.PacketNumberLen1 then
      typeByte ^^^ (largestAckedLen / 2) <<< 2 else typeByte
  let typeByte := if missingLen ≠ Protocol.PacketNumberLen1 then typeByte ^^^ missingLen / 2
    else typeByte
  let typeByte := if f.HasMissingRanges then typeByte ||| 0x20 else typeByte
  if f.PathID ≠ Protocol.InitialPathID then typeByte ||| 0x10 else typeByte

/-- `Write`, at time `now`.  The frame's `DelayTime` it sets is not returned: no caller reads it
back. -/
def Write (f : AckFrame) (version : VersionNumber) (now : Int) :
    ExceptT String Option (List UInt8) := do
  let o := GetByteOrder version
  let largestAckedLen := GetPacketNumberLength f.LargestAcked
  let missingLen := f.getMissingSequenceNumberDeltaLen
  let typeByte := f.typeByte
  let pathByte := if f.PathID ≠ Protocol.InitialPathID then [f.PathID] else []
  let largest ← (writeLen o true largestAckedLen f.LargestAcked : Option _)
  let delayTime := timeSub now f.PacketReceivedTime
  let delay := o.WriteUfloat16 (delayTime / 1000).toUInt64
  let numRanges := if f.HasMissingRanges then numWritableNackRanges f.AckRanges else 0
  if numRanges > 0xFF then (none : Option _) else
  let numRangesByte := if f.HasMissingRanges then [(numRanges - 1).toUInt8] else []
  let ranges ← writeRanges o true f.LargestAcked f.LowestAcked f.AckRanges missingLen numRanges
    "BUG: Inconsistent number of ACK ranges written"
  pure ([typeByte] ++ pathByte ++ largest ++ delay ++ numRangesByte ++ ranges ++ [0])

/-- `MinLength`. -/
def MinLength (f : AckFrame) (_ : VersionNumber) : ByteCount :=
  let length : ByteCount := 1 + 2 + 1 + (GetPacketNumberLength f.LargestAcked).toUInt64
  let missingLen : ByteCount := f.getMissingSequenceNumberDeltaLen.toUInt64
  let length := if f.HasMissingRanges then
      length + (1 + missingLen) * numWritableNackRanges f.AckRanges
    else length + missingLen
  if f.PathID ≠ Protocol.InitialPathID then length + 1 else length

end AckFrame

namespace ClosePathFrame

def HasMissingRanges (f : ClosePathFrame) : Bool := f.AckRanges ≠ []

def AcksPacket (f : ClosePathFrame) (p : PacketNumber) : Bool :=
  acksPacket f.LargestAcked f.LowestAcked f.AckRanges p

def getMissingSequenceNumberDeltaLen (f : ClosePathFrame) : PacketNumberLen :=
  Wire.getMissingSequenceNumberDeltaLen f.LargestAcked f.LowestAcked f.AckRanges

/-- The flags byte of `Write`, `000MLLmm`: the missing ranges bit and half the lengths of
`LargestAcked` and of the missing sequence number deltas. -/
def flags (f : ClosePathFrame) : UInt8 :=
  let largestAckedLen := GetPacketNumberLength f.LargestAcked
  let missingLen := f.getMissingSequenceNumberDeltaLen
  let flags : UInt8 := if f.HasMissingRanges then 0x10 else 0
  let flags := if largestAckedLen ≠ Protocol.PacketNumberLen1 then
      flags ^^^ (largestAckedLen / 2) <<< 2 else flags
  if missingLen ≠ Protocol.PacketNumberLen1 then flags ^^^ missingLen / 2 else flags

def Write (f : ClosePathFrame) (version : VersionNumber) : ExceptT String Option (List UInt8) := do
  let o := GetByteOrder version
  let largestAckedLen := GetPacketNumberLength f.LargestAcked
  let missingLen := f.getMissingSequenceNumberDeltaLen
  let flags := f.flags
  let numRanges := if f.HasMissingRanges then numWritableNackRanges f.AckRanges else 0
  if numRanges > 0xFF then (none : Option _) else
  let numRangesByte := if f.HasMissingRanges then [(numRanges - 1).toUInt8] else []
  let largest ← (writeLen o false largestAckedLen f.LargestAcked : Option _)
  let ranges ← writeRanges o false f.LargestAcked f.LowestAcked f.AckRanges missingLen numRanges
    "BUG: Inconsistent number of ACK ranges written in ClosePath"
  pure ([0x11, f.PathID, flags] ++ numRangesByte ++ largest ++ ranges)

def MinLength (f : ClosePathFrame) (_ : VersionNumber) : ByteCount :=
  let length : ByteCount := 1 + 1 + 1 + (GetPacketNumberLength f.LargestAcked).toUInt64
  let missingLen : ByteCount := f.getMissingSequenceNumberDeltaLen.toUInt64
  if f.HasMissingRanges then length + (1 + missingLen) * numWritableNackRanges f.AckRanges
  else length + missingLen

end ClosePathFrame

/-! ## A first gap of 255 blocks or more

`numWritableNackRanges` counts the blocks of a range only while the total stays below 255, so for
a first gap that needs 255 blocks or more it counts the first range alone.  The writer's loop
writes the blocks of every range it starts, checks the count only after them, and so writes all
the blocks of that gap; the final comparison of the counts then fails with the writer's "BUG"
error.  The ACK frame masks its 48-bit values, so nothing before that check can panic.
-/

/-- With the mask, every length field is written. -/
theorem writeLen_mask_isSome (o : ByteOrder) (len : PacketNumberLen) (v : UInt64) :
    ∃ bs, writeLen o true len v = some bs := by
  unfold writeLen
  split_ifs with h1 h2 h4 h6 hm
  all_goals try exact ⟨_, rfl⟩
  · refine ⟨_, ByteOrder.WriteUint48_eq_some ?_⟩
    have hmask : ((((1 : UInt64) <<< 48) - 1)).toNat = 2 ^ 48 - 1 := by decide
    rw [UInt64.toNat_and, hmask]
    exact Nat.lt_of_le_of_lt Nat.and_le_right (by decide)
  · exact absurd rfl hm

/-- A range whose gap needs 255 blocks or more: the loop of `numWritableNackRanges` stops before
it. -/
theorem numWritableNackRanges_long_first_gap {r₀ r₁ : AckRange} (rs : List AckRange)
    (hnum : 255 ≤ (gapBlocks r₀ r₁).toNat) : numWritableNackRanges (r₀ :: r₁ :: rs) = 1 := by
  have : ¬ (0 : UInt64) + gapBlocks r₀ r₁ < 0xFF := by
    rw [UInt64.zero_add, UInt64.lt_iff_toNat_lt]
    simpa using hnum
  simp only [numWritableNackRanges, numWritableLoop, this, if_false]
  rfl

/-- With the mask, the blocks of a long gap are written. -/
theorem longBlocks_mask_isSome (o : ByteOrder) (len : PacketNumberLen) (num gap length : UInt64) :
    ∃ bs, longBlocks o true len num gap length = some bs := by
  obtain ⟨z, hz⟩ := writeLen_mask_isSome o len 0
  obtain ⟨l, hl⟩ := writeLen_mask_isSome o len length
  unfold longBlocks
  simp only [hz, hl]
  split_ifs <;> exact ⟨_, rfl⟩

/-- The blocks of a first gap of `num ≥ 255` blocks are all written, although the count allows one
block only. -/
theorem writeAckBlocks_long_first_gap (o : ByteOrder) (len : PacketNumberLen) {r₀ r₁ : AckRange}
    (rs : List AckRange) (hnum : 255 ≤ (gapBlocks r₀ r₁).toNat)
    (hnum' : (gapBlocks r₀ r₁).toNat < 2 ^ 63) :
    ∃ bs, writeAckBlocks o true len 1 r₀ (r₁ :: rs) 1 = some (bs, 1 + gapBlocks r₀ r₁) := by
  have hne : gapBlocks r₀ r₁ ≠ 1 := by
    intro h
    rw [h] at hnum
    simp at hnum
  have hcount : longBlockCount (gapBlocks r₀ r₁) = gapBlocks r₀ r₁ := by
    rw [longBlockCount, if_pos hnum']
  have hstop : 1 + gapBlocks r₀ r₁ ≥ 1 := by
    rw [ge_iff_le, UInt64.le_iff_toNat_le, UInt64.toNat_add]
    simp only [UInt64.toNat_one]
    omega
  obtain ⟨bs, hbs⟩ := longBlocks_mask_isSome o len (gapBlocks r₀ r₁) (r₀.First - r₁.Last - 1)
    (r₁.Last - r₁.First + 1)
  have hrange : rangeBlocks o true len r₀ r₁ = some (bs, gapBlocks r₀ r₁) := by
    simp [rangeBlocks, hne, hbs, hcount]
  refine ⟨bs, ?_⟩
  simp [writeAckBlocks, hrange, hstop]

theorem writeRanges_long_first_gap (o : ByteOrder) (len : PacketNumberLen) (bugText : String)
    {largestAcked lowestAcked : PacketNumber} {r₀ r₁ : AckRange} {rs : List AckRange}
    (hlarge : largestAcked = r₀.Last)
    (hlow : lowestAcked = ((r₀ :: r₁ :: rs).getLast (List.cons_ne_nil _ _)).First)
    (hnum : 255 ≤ (gapBlocks r₀ r₁).toNat) (hnum' : (gapBlocks r₀ r₁).toNat < 2 ^ 63) :
    (writeRanges o true largestAcked lowestAcked (r₀ :: r₁ :: rs) len 1 bugText).run =
      some (.error bugText) := by
  obtain ⟨bs, hbs⟩ := writeAckBlocks_long_first_gap o len rs hnum hnum'
  obtain ⟨fb, hfb⟩ := writeLen_mask_isSome o len (r₀.Last - r₀.First + 1)
  have hwritten : (1 : UInt64) ≠ 1 + gapBlocks r₀ r₁ := by
    intro h
    have := congrArg UInt64.toNat h
    rw [UInt64.toNat_add, UInt64.toNat_one] at this
    omega
  simp only [writeRanges, hlarge, hlow, ne_eq, not_true_eq_false, if_false]
  rw [run_bind_of_returns (returns_pure.2 rfl)]
  dsimp only
  rw [run_bind_of_returns (returns_liftOption.2 hfb), run_bind_of_returns (returns_liftOption.2 hbs)]
  simp only [hwritten, not_false_eq_true, if_true]
  rfl

theorem AckFrame.write_bug_long_first_gap {f : AckFrame} {version : VersionNumber} {now : Int}
    {r₀ r₁ : AckRange} {rs : List AckRange} (hr : f.AckRanges = r₀ :: r₁ :: rs)
    (hlarge : f.LargestAcked = r₀.Last)
    (hlow : f.LowestAcked = ((r₀ :: r₁ :: rs).getLast (List.cons_ne_nil _ _)).First)
    (hnum : 255 ≤ (gapBlocks r₀ r₁).toNat) (hnum' : (gapBlocks r₀ r₁).toNat < 2 ^ 63) :
    (f.Write version now).run = some (.error "BUG: Inconsistent number of ACK ranges written") := by
  have hmiss : f.HasMissingRanges = true := by simp [AckFrame.HasMissingRanges, hr]
  obtain ⟨lb, hlb⟩ := writeLen_mask_isSome (GetByteOrder version)
    (GetPacketNumberLength f.LargestAcked) f.LargestAcked
  simp only [AckFrame.Write, hmiss, if_true, hr, numWritableNackRanges_long_first_gap rs hnum]
  rw [run_bind_of_returns (returns_liftOption.2 hlb), if_neg (by decide)]
  exact run_bind_of_fails (writeRanges_long_first_gap _ _ _ hlarge hlow hnum hnum')

/-- The ranges 1..10 and 100000: the gap of 99989 packets needs 393 blocks. -/
theorem AckFrame.write_bug_long_first_gap_100000 :
    validateAckRanges 100000 [⟨100000, 100000⟩, ⟨1, 10⟩] = true ∧
      ((⟨0, 100000, 1, [⟨100000, 100000⟩, ⟨1, 10⟩], 0, 0⟩ : AckFrame).Write Protocol.VersionMP
        0).run = some (.error "BUG: Inconsistent number of ACK ranges written") :=
  ⟨by decide, AckFrame.write_bug_long_first_gap rfl rfl rfl (by decide) (by decide)⟩

/-! ## Parsing -/

/-- The state of the parser's block loop: the ranges so far, `inLongBlock` and
`lastRangeComplete`. -/
structure BlockState where
  ranges : List AckRange
  inLongBlock : Bool
  lastRangeComplete : Bool
  deriving DecidableEq, Repr

/-- One gap byte and block length, read into the ranges: a block after a zero-length one extends
the last range downwards, any other opens a new range below it. -/
def BlockState.step (st : BlockState) (gap : UInt8) (ackBlockLength : UInt64) : BlockState :=
  let length : PacketNumber := ackBlockLength
  let last := st.ranges.getLastD default
  let (ranges, complete) := if st.inLongBlock then
      (st.ranges.dropLast ++
        [{ First := last.First - (gap.toUInt64 + length), Last := last.Last - gap.toUInt64 }],
        st.lastRangeComplete)
    else
      let newLast := last.First - gap.toUInt64 - 1
      (st.ranges ++ [{ First := newLast - length + 1, Last := newLast }], false)
  { ranges, inLongBlock := ackBlockLength = 0, lastRangeComplete := complete || length > 0 }

/-- `for i := uint8(0); i < numAckBlocks; i++`. -/
def parseAckBlocks (o : ByteOrder) (missingLen : UInt8) : Nat → BlockState → Parser BlockState
  | 0, st => pure st
  | k + 1, st => do
    let gap ← ReadByte
    let ackBlockLength ← o.ReadUintN missingLen
    parseAckBlocks o missingLen k (st.step gap ackBlockLength)

/-- What both parsers do after the header: the first block length and its checks, the blocks, and
`LowestAcked`.  The result is `(LowestAcked, AckRanges)`, to be validated by the caller. -/
def parseRanges (o : ByteOrder) (hasMissingRanges : Bool) (numAckBlocks : UInt8)
    (missingLen : UInt8) (largestAcked : UInt64) : Parser (PacketNumber × List AckRange) := do
  let ackBlockLength ← o.ReadUintN missingLen
  if largestAcked > 0 ∧ ackBlockLength < 1 then throw ErrInvalidFirstAckRange
  if ackBlockLength > largestAcked then throw ErrInvalidAckRanges
  if hasMissingRanges then
    let st ← parseAckBlocks o missingLen numAckBlocks.toNat
      { ranges := [{ First := largestAcked - ackBlockLength + 1, Last := largestAcked }],
        inLongBlock := false, lastRangeComplete := false }
    let ranges := if st.lastRangeComplete then st.ranges else st.ranges.dropLast
    pure ((ranges.getLastD default).First, ranges)
  else
    pure (if largestAcked = 0 then 0 else largestAcked + 1 - ackBlockLength, [])

/-- The two length fields of a type or flags byte. -/
def lengthsOf (b : UInt8) : UInt8 × UInt8 :=
  let largestAckedLen : UInt8 := 2 * ((b &&& 0x0C) >>> (2 : UInt8))
  let missingLen : UInt8 := 2 * (b &&& 0x03)
  (if largestAckedLen = 0 then 1 else largestAckedLen, if missingLen = 0 then 1 else missingLen)

/-- `ParseAckFrame`. -/
def ParseAckFrame (version : VersionNumber) : Parser AckFrame := do
  let o := GetByteOrder version
  let typeByte ← ReadByte
  let hasMissingRanges := typeByte &&& 0x20 = 0x20
  let (largestAckedLen, missingLen) := lengthsOf typeByte
  let pathID ← if typeByte &&& 0x10 = 0x10 then ReadByte else pure 0
  let largestAcked ← o.ReadUintN largestAckedLen
  let delay ← o.ReadUfloat16
  let numAckBlocks ← if hasMissingRanges then ReadByte else pure 0
  if hasMissingRanges ∧ numAckBlocks = 0 then throw ErrInvalidAckRanges
  let (lowestAcked, ranges) ← parseRanges o hasMissingRanges numAckBlocks missingLen largestAcked
  if !validateAckRanges largestAcked ranges then throw ErrInvalidAckRanges
  let numTimestamp ← ReadByte
  if numTimestamp > 0 then
    let _ ← ReadByte
    let _ ← o.ReadUint32
    for _ in List.range (numTimestamp.toNat - 1) do
      let _ ← ReadByte
      let _ ← o.ReadUint16
  pure
    { PathID := pathID, LargestAcked := largestAcked, LowestAcked := lowestAcked,
      AckRanges := ranges, PacketReceivedTime := 0, DelayTime := delay.toInt64 * 1000 }

/-- `ParseClosePathFrame`. -/
def ParseClosePathFrame (version : VersionNumber) : Parser ClosePathFrame := do
  let o := GetByteOrder version
  let _ ← ReadByte
  let pathID ← ReadByte
  let flags ← ReadByte
  let hasMissingRanges := flags &&& 0x10 = 0x10
  let (largestAckedLen, missingLen) := lengthsOf flags
  let numAckBlocks ← if hasMissingRanges then ReadByte else pure 0
  if hasMissingRanges ∧ numAckBlocks = 0 then throw ErrInvalidAckRanges
  let largestAcked ← o.ReadUintN largestAckedLen
  let (lowestAcked, ranges) ← parseRanges o hasMissingRanges numAckBlocks missingLen largestAcked
  if !validateAckRanges largestAcked ranges then throw ErrInvalidAckRanges
  pure
    { PathID := pathID, LargestAcked := largestAcked, LowestAcked := lowestAcked,
      AckRanges := ranges }

end Wire
end PStream
