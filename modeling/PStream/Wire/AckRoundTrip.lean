import Mathlib.Data.List.Chain
import PStream.Lib.Monads
import PStream.Lib.List
import PStream.Wire.AckBlocks

/-!
# ACK and CLOSE_PATH frames read back

`ParseAckFrame_Write` and `ParseClosePathFrame_Write` say what the parsers return on the bytes
`Write` wrote: the frame as `received` describes it.  The path ID and `LargestAcked` come back as
they were, the ACK delay rounded through `ufloat16`, and the ranges as `writtenAckRanges` gives
them: all of them when the count of `numWritableNackRanges` covers their blocks, else the first
ones, down to the range whose blocks reach the count.  `LowestAcked` is then the first packet of
the lowest range read.

The frames this holds for are those `RangesWellFormed` describes: ranges that pass
`validateAckRanges`, lie at or below `LargestAcked`, below 2^48, and a `LowestAcked` between 1
and `LargestAcked`.  The ACK frame masks its 48-bit fields, so a `LargestAcked` of 2^48 or more
is written, and read back as another number; the CLOSE_PATH frame's writer fails on it.

The rest of the module are the facts the two proofs share: `validateAckRanges` as a chain of
`Separated` neighbours, the widths `getMissingSequenceNumberDeltaLen` chooses, the type and
flags bytes, and what `writeRanges` writes and `parseRanges` reads.
-/

set_option autoImplicit false

namespace PStream
namespace Wire

open Utils Utils.ByteOrder ExceptOption

/-! ## Valid ranges -/

/-- The test `validateAckRanges` makes of two neighbouring ranges. -/
def Separated (prev r : AckRange) : Prop :=
  ¬ prev.First ≤ r.First ∧ ¬ prev.First ≤ r.Last + 1

/-- `validateAckRanges` of two ranges or more, as a chain. -/
theorem validateAckRanges_cons_cons {LA : PacketNumber} {r r' : AckRange} {rs : List AckRange} :
    validateAckRanges LA (r :: r' :: rs) = true ↔
      r.Last = LA ∧ (∀ x ∈ r :: r' :: rs, x.First ≤ x.Last) ∧
        List.IsChain Separated (r :: r' :: rs) := by
  simp only [validateAckRanges, Bool.and_eq_true, beq_iff_eq]
  rw [List.all_zip_iff_isChain]
  simp only [List.all_eq_true, decide_eq_true_eq, Bool.and_eq_true, Bool.not_eq_true',
    decide_eq_false_iff_not, and_assoc]
  rfl

/-- Separated ranges that do not end at the top of the number space lie below each other. -/
theorem isChain_below {l : List AckRange} (hs : List.IsChain Separated l)
    (hne : ∀ x ∈ l, x.First ≤ x.Last) (htop : ∀ x ∈ l, x.Last.toNat + 1 < 2 ^ 64) :
    List.IsChain Below l := by
  refine hs.imp_of_mem_imp ?_
  intro a b _ hb ⟨_, hgap⟩
  refine ⟨UInt64.le_iff_toNat_le.1 (hne b hb), ?_⟩
  have h1 := htop b hb
  rw [UInt64.not_le, UInt64.lt_iff_toNat_lt, UInt64.toNat_add, UInt64.toNat_one,
    Nat.mod_eq_of_lt h1] at hgap
  exact hgap

/-- The ranges the writer writes are the first ones of the list, at least one if there is one. -/
theorem isPrefix_writtenRanges (numRanges : UInt64) :
    ∀ (prev : AckRange) (rs : List AckRange) (written : UInt64),
      writtenRanges numRanges prev rs written <+: rs ∧
        (rs ≠ [] → writtenRanges numRanges prev rs written ≠ [])
  | _, [], _ => by simp [writtenRanges]
  | prev, r :: rs, written => by
    by_cases hstop : written + gapBlocks prev r ≥ numRanges
    · simp [writtenRanges, hstop]
    · simp only [writtenRanges, hstop, if_false]
      exact ⟨(List.prefix_cons_inj r).2 (isPrefix_writtenRanges numRanges r rs _).1, by simp⟩

/-- The first range and a non-empty prefix of the others pass `validateAckRanges` when all the
ranges do. -/
theorem validateAckRanges_of_isPrefix {LA : PacketNumber} {r : AckRange} {rs l : List AckRange}
    (hv : validateAckRanges LA (r :: rs) = true) (hp : l <+: rs) (hne : l ≠ []) :
    validateAckRanges LA (r :: l) = true := by
  obtain ⟨x, xs, rfl⟩ := List.exists_cons_of_ne_nil hne
  obtain ⟨y, ys, rfl⟩ := List.exists_cons_of_ne_nil (List.ne_nil_of_mem (hp.subset List.mem_cons_self))
  have hp' := (List.prefix_cons_inj r).2 hp
  rw [validateAckRanges_cons_cons] at hv ⊢
  obtain ⟨hL, hall, hchain⟩ := hv
  exact ⟨hL, fun z hz => hall z (hp'.subset hz), List.IsChain.prefix hchain hp'⟩

/-- Below a chain whose lowest range starts above 0, every range does. -/
theorem one_le_first_of_isChain :
    ∀ {l : List AckRange}, List.IsChain Below l → (∀ x ∈ l.getLast?, 1 ≤ x.First.toNat) →
      ∀ x ∈ l, 1 ≤ x.First.toNat
  | [], _, _ => by simp
  | [a], _, hl => by simpa using hl
  | a :: b :: l, hc, hl => by
    intro x hx
    obtain ⟨hab, hc'⟩ := List.isChain_cons_cons.mp hc
    rcases List.mem_cons.mp hx with rfl | hx
    · have := hab.2
      omega
    · exact one_le_first_of_isChain hc' (by simpa using hl) x hx

/-! ## Widths -/

/-- The longest length `getMissingSequenceNumberDeltaLen` computes is at least each one. -/
theorem le_foldl_rangeLength :
    ∀ (ranges : List AckRange) (m : UInt64),
      let f := fun (m : UInt64) (r : AckRange) =>
        if r.Last - r.First + 1 > m then r.Last - r.First + 1 else m
      m ≤ ranges.foldl f m ∧ ∀ x ∈ ranges, x.Last - x.First + 1 ≤ ranges.foldl f m
  | [], m => by simp
  | r :: rs, m => by
    intro f
    obtain ⟨hm, hall⟩ := le_foldl_rangeLength rs (f m r)
    have hfm : m ≤ f m r ∧ r.Last - r.First + 1 ≤ f m r := by
      simp only [f]
      split_ifs with h
      · exact ⟨UInt64.le_of_lt h, UInt64.le_refl _⟩
      · exact ⟨UInt64.le_refl _, UInt64.not_lt.mp h⟩
    refine ⟨UInt64.le_trans hfm.1 hm, fun x hx => ?_⟩
    rcases List.mem_cons.mp hx with rfl | hx
    · exact UInt64.le_trans hfm.2 hm
    · exact hall x hx

/-- The widths `getMissingSequenceNumberDeltaLen` chooses from the longest length `m`: each value up
to `m` fits, the six-byte one up to 2^48. -/
theorem toNat_lt_of_le_maxRangeLength {m v : UInt64} (hv : v ≤ m) (h48 : v.toNat < 2 ^ 48) :
    v.toNat < 2 ^ (8 * (if m ≤ 0xFF then Protocol.PacketNumberLen1
      else if m ≤ 0xFFFF then Protocol.PacketNumberLen2
      else if m ≤ 0xFFFFFFFF then Protocol.PacketNumberLen4
      else Protocol.PacketNumberLen6).toNat) := by
  rw [UInt64.le_iff_toNat_le] at hv
  split_ifs with h1 h2 h4 <;>
    simp only [UInt64.le_iff_toNat_le, UInt64.reduceToNat] at * <;>
    simp [Protocol.PacketNumberLen1, Protocol.PacketNumberLen2, Protocol.PacketNumberLen4,
      Protocol.PacketNumberLen6] <;> omega

/-- The four widths `getMissingSequenceNumberDeltaLen` chooses from. -/
theorem getMissingSequenceNumberDeltaLen_mem (LA LO : PacketNumber) (ranges : List AckRange) :
    let len := getMissingSequenceNumberDeltaLen LA LO ranges
    len = 1 ∨ len = 2 ∨ len = 4 ∨ len = 6 := by
  simp only [getMissingSequenceNumberDeltaLen]
  split_ifs <;> simp [Protocol.PacketNumberLen1, Protocol.PacketNumberLen2,
    Protocol.PacketNumberLen4, Protocol.PacketNumberLen6]

/-- Without ranges, the block length `LargestAcked - LowestAcked + 1` fits its width. -/
theorem toNat_lt_getMissingSequenceNumberDeltaLen_nil {LA LO : PacketNumber}
    (h48 : (LA - LO + 1).toNat < 2 ^ 48) :
    (LA - LO + 1).toNat < 2 ^ (8 * (getMissingSequenceNumberDeltaLen LA LO []).toNat) :=
  toNat_lt_of_le_maxRangeLength (UInt64.le_refl _) h48

/-- Each range's length fits the width. -/
theorem toNat_lt_getMissingSequenceNumberDeltaLen {LA LO : PacketNumber} {ranges : List AckRange}
    {x : AckRange} (hx : x ∈ ranges) (h48 : (x.Last - x.First + 1).toNat < 2 ^ 48) :
    (x.Last - x.First + 1).toNat < 2 ^ (8 * (getMissingSequenceNumberDeltaLen LA LO ranges).toNat) := by
  have hne : ranges ≠ [] := List.ne_nil_of_mem hx
  simp only [getMissingSequenceNumberDeltaLen, ne_eq, hne, not_false_eq_true, if_true]
  exact toNat_lt_of_le_maxRangeLength ((le_foldl_rangeLength ranges 0).2 x hx) h48

/-! ## The type and flags bytes -/

/-- The type byte says what the parser needs: an ACK frame's class, whether there are missing
ranges and a path ID, and the two widths. -/
theorem AckFrame.typeByte_decode (f : AckFrame) :
    f.typeByte &&& 0x80 ≠ 0x80 ∧ f.typeByte &&& 0xc0 = 0x40 ∧
      (f.typeByte &&& 0x20 = 0x20 ↔ f.HasMissingRanges = true) ∧
      (f.typeByte &&& 0x10 = 0x10 ↔ f.PathID ≠ Protocol.InitialPathID) ∧
      lengthsOf f.typeByte =
        (GetPacketNumberLength f.LargestAcked, f.getMissingSequenceNumberDeltaLen) := by
  have hla := getPacketNumberLength_mem f.LargestAcked
  have hml := getMissingSequenceNumberDeltaLen_mem f.LargestAcked f.LowestAcked f.AckRanges
  -- each width, each flag: the byte is a constant
  rcases hla with h1 | h1 | h1 | h1 <;> rcases hml with h2 | h2 | h2 | h2 <;>
    cases hm : f.HasMissingRanges <;> by_cases hp : f.PathID = Protocol.InitialPathID <;>
    simp only [AckFrame.typeByte, AckFrame.getMissingSequenceNumberDeltaLen, h1, h2, hm, ne_eq,
      hp, not_true_eq_false, not_false_eq_true, if_true, if_false, iff_true, iff_false] <;>
    decide

/-- The flags byte of a CLOSE_PATH frame says whether there are missing ranges, and the widths. -/
theorem ClosePathFrame.flags_decode (f : ClosePathFrame) :
    (f.flags &&& 0x10 = 0x10 ↔ f.HasMissingRanges = true) ∧
      lengthsOf f.flags =
        (GetPacketNumberLength f.LargestAcked, f.getMissingSequenceNumberDeltaLen) := by
  have hla := getPacketNumberLength_mem f.LargestAcked
  have hml := getMissingSequenceNumberDeltaLen_mem f.LargestAcked f.LowestAcked f.AckRanges
  rcases hla with h1 | h1 | h1 | h1 <;> rcases hml with h2 | h2 | h2 | h2 <;>
    cases hm : f.HasMissingRanges <;>
    simp only [ClosePathFrame.flags, ClosePathFrame.getMissingSequenceNumberDeltaLen, h1, h2, hm] <;>
    decide

/-! ## Writing -/

/-- What `AckFrame.Write` writes: the count of blocks fits its byte, and the fields come in order. -/
theorem AckFrame.write_spec {f : AckFrame} {version : VersionNumber} {now : Int} {bs : List UInt8}
    (hw : Returns (f.Write version now) bs) :
    let o := GetByteOrder version
    let numRanges := if f.HasMissingRanges then numWritableNackRanges f.AckRanges else 0
    numRanges.toNat ≤ 255 ∧ ∃ largest ranges,
      writeLen o true (GetPacketNumberLength f.LargestAcked) f.LargestAcked = some largest ∧
      Returns (writeRanges o true f.LargestAcked f.LowestAcked f.AckRanges
        f.getMissingSequenceNumberDeltaLen numRanges
        "BUG: Inconsistent number of ACK ranges written") ranges ∧
      bs = [f.typeByte] ++ (if f.PathID ≠ Protocol.InitialPathID then [f.PathID] else []) ++
        largest ++ o.WriteUfloat16 (timeSub now f.PacketReceivedTime / 1000).toUInt64 ++
        (if f.HasMissingRanges then [(numRanges - 1).toUInt8] else []) ++ ranges ++ [0] := by
  intro o numRanges
  simp only [AckFrame.Write, returns_bind, returns_liftOption] at hw
  obtain ⟨largest, hl, hw⟩ := hw
  by_cases hn : numRanges > 255
  · rw [if_pos hn] at hw
    exact absurd hw (by simp [Returns, ExceptT.run])
  · rw [if_neg hn, returns_bind] at hw
    obtain ⟨ranges, hr, hw⟩ := hw
    refine ⟨?_, largest, ranges, hl, hr, (returns_pure.mp hw).symm⟩
    rw [gt_iff_lt, UInt64.lt_iff_toNat_lt] at hn
    simp only [UInt64.reduceToNat] at hn
    omega

/-- What `ClosePathFrame.Write` writes: the count of blocks fits its byte, and the fields come in
order. -/
theorem ClosePathFrame.write_spec {f : ClosePathFrame} {version : VersionNumber} {bs : List UInt8}
    (hw : Returns (f.Write version) bs) :
    let o := GetByteOrder version
    let numRanges := if f.HasMissingRanges then numWritableNackRanges f.AckRanges else 0
    numRanges.toNat ≤ 255 ∧ ∃ largest ranges,
      writeLen o false (GetPacketNumberLength f.LargestAcked) f.LargestAcked = some largest ∧
      Returns (writeRanges o false f.LargestAcked f.LowestAcked f.AckRanges
        f.getMissingSequenceNumberDeltaLen numRanges
        "BUG: Inconsistent number of ACK ranges written in ClosePath") ranges ∧
      bs = [0x11, f.PathID, f.flags] ++
        (if f.HasMissingRanges then [(numRanges - 1).toUInt8] else []) ++ largest ++ ranges := by
  intro o numRanges
  simp only [ClosePathFrame.Write] at hw
  by_cases hn : numRanges > 255
  · rw [if_pos hn] at hw
    exact absurd hw (by simp [Returns, ExceptT.run])
  · rw [if_neg hn, returns_bind] at hw
    obtain ⟨largest, hl, hw⟩ := hw
    rw [returns_liftOption] at hl
    rw [returns_bind] at hw
    obtain ⟨ranges, hr, hw⟩ := hw
    refine ⟨?_, largest, ranges, hl, hr, (returns_pure.mp hw).symm⟩
    rw [gt_iff_lt, UInt64.lt_iff_toNat_lt] at hn
    simp only [UInt64.reduceToNat] at hn
    omega

/-- What `writeRanges` writes for a frame without missing ranges. -/
theorem writeRanges_nil_spec {o : ByteOrder} {mask48 : Bool} {LA LO : PacketNumber}
    {len : PacketNumberLen} {numRanges : UInt64} {bugText : String} {bs : List UInt8}
    (h : Returns (writeRanges o mask48 LA LO [] len numRanges bugText) bs) :
    numRanges = 0 ∧ writeLen o mask48 len (LA - LO + 1) = some bs := by
  simp only [writeRanges, pure_bind, returns_bind, returns_liftOption] at h
  obtain ⟨fb, hfb, h⟩ := h
  by_cases hn : numRanges = 0
  · simp only [hn, ne_eq, not_true_eq_false, if_false, List.append_nil, returns_pure] at h
    exact ⟨hn, h ▸ hfb⟩
  · simp [hn] at h

/-- What `writeRanges` writes for a frame with ranges: the checks of the first and last range
passed, the first block length, and the blocks of a loop that counted `numRanges`. -/
theorem writeRanges_cons_spec {o : ByteOrder} {mask48 : Bool} {LA LO : PacketNumber}
    {len : PacketNumberLen} {numRanges : UInt64} {bugText : String} {bs : List UInt8}
    {r : AckRange} {rs : List AckRange}
    (h : Returns (writeRanges o mask48 LA LO (r :: rs) len numRanges bugText) bs) :
    LA = r.Last ∧ LO = ((r :: rs).getLast (List.cons_ne_nil r rs)).First ∧
      ∃ fb blocks, writeLen o mask48 len (LA - r.First + 1) = some fb ∧
        writeAckBlocks o mask48 len numRanges r rs 1 = some (blocks, numRanges) ∧
        bs = fb ++ blocks := by
  by_cases hLA : LA = r.Last
  · by_cases hLO : LO = ((r :: rs).getLast (List.cons_ne_nil r rs)).First
    · simp only [writeRanges, hLA, hLO, ne_eq, not_true_eq_false, if_false, pure_bind,
        returns_bind, returns_liftOption] at h
      obtain ⟨fb, hfb, ⟨blocks, w⟩, hw, h⟩ := h
      by_cases hn : numRanges = w
      · simp only [hn, not_true_eq_false, if_false, returns_pure] at h
        exact ⟨hLA, hLO, fb, blocks, hLA ▸ hfb, hn ▸ hw, h.symm⟩
      · simp [hn] at h
    · simp [writeRanges, hLA, hLO] at h
  · simp [writeRanges, hLA] at h

/-! ## Reading the ranges -/

section ParseRanges

variable {o : ByteOrder} {mask48 : Bool} {len : PacketNumberLen} {LA : PacketNumber}

/-- Without missing ranges, the first block length gives `LowestAcked` back. -/
theorem parseRanges_nil {LO : PacketNumber} {fb : List UInt8}
    (hlen : len = 1 ∨ len = 2 ∨ len = 4 ∨ len = 6)
    (hfit : (LA - LO + 1).toNat < 2 ^ (8 * len.toNat)) (hLO : 1 ≤ LO.toNat)
    (hLA : LO.toNat ≤ LA.toNat) (h : writeLen o mask48 len (LA - LO + 1) = some fb)
    (rest : List UInt8) :
    parseRanges o false 0 len LA (fb ++ rest) = .ok ((LO, []), rest) := by
  have hlenv : (LA - LO + 1).toNat = LA.toNat - LO.toNat + 1 := by
    have := LA.toNat_lt
    rw [UInt64.toNat_add, UInt64.toNat_sub_of_le _ _ (UInt64.le_iff_toNat_le.2 hLA),
      UInt64.toNat_one]
    omega
  have hpos : ¬ LA - LO + 1 < 1 := by
    rw [UInt64.lt_iff_toNat_lt, hlenv, UInt64.toNat_one]
    omega
  have hle : ¬ LA - LO + 1 > LA := by
    rw [gt_iff_lt, UInt64.lt_iff_toNat_lt, hlenv]
    omega
  have hLA0 : LA ≠ 0 := by
    intro h0
    rw [h0, UInt64.toNat_zero] at hLA
    omega
  simp only [parseRanges]
  rw [Parser.bind_ok (ReadUintN_writeLen hlen hfit h rest)]
  have hLO' : LA + 1 - (LA - LO + 1) = LO := by grind
  simp only [hpos, and_false, if_false, hle, Bool.false_eq_true, hLA0, hLO']
  rfl

/-- With missing ranges, the first block length and the blocks give back the first range and the
ranges the writer wrote after it, the last of them complete. -/
theorem parseRanges_cons {r : AckRange} {rs : List AckRange} {numRanges : UInt64}
    {fb blocks : List UInt8} (hlen : len = 1 ∨ len = 2 ∨ len = 4 ∨ len = 6)
    (hchain : List.IsChain Below (r :: rs)) (hne : rs ≠ [])
    (hfit : ∀ x ∈ r :: rs, (x.Last - x.First + 1).toNat < 2 ^ (8 * len.toNat))
    (hLA : LA = r.Last) (hr : r.First.toNat ≤ r.Last.toNat)
    (hN : numRanges.toNat ≤ 255)
    (hfb : writeLen o mask48 len (LA - r.First + 1) = some fb)
    (hw : writeAckBlocks o mask48 len numRanges r rs 1 = some (blocks, numRanges))
    (rest : List UInt8) :
    parseRanges o true (numRanges - 1).toUInt8 len LA (fb ++ blocks ++ rest) =
      .ok ((((r :: writtenRanges numRanges r rs 1).getLastD default).First,
        r :: writtenRanges numRanges r rs 1), rest) := by
  subst hLA
  obtain ⟨hle, -, hsim⟩ := parseAckBlocks_writeAckBlocks hlen hN rs r 1 blocks numRanges hchain
    (fun x hx => hfit x (List.mem_cons_of_mem _ hx)) (by simp) hw
  -- the first range starts above the second one, so above 0
  have hF : 1 ≤ r.First.toNat := by
    obtain ⟨r', rs', rfl⟩ := List.exists_cons_of_ne_nil hne
    have := (List.isChain_cons_cons.mp hchain).1.2
    omega
  have hlenv : (r.Last - r.First + 1).toNat = r.Last.toNat - r.First.toNat + 1 := by
    have := r.Last.toNat_lt
    rw [UInt64.toNat_add, UInt64.toNat_sub_of_le _ _ (UInt64.le_iff_toNat_le.2 hr),
      UInt64.toNat_one]
    omega
  have hpos : ¬ r.Last - r.First + 1 < 1 := by
    rw [UInt64.lt_iff_toNat_lt, hlenv, UInt64.toNat_one]
    omega
  have hgt : ¬ r.Last - r.First + 1 > r.Last := by
    rw [gt_iff_lt, UInt64.lt_iff_toNat_lt, hlenv]
    omega
  have hfirst : (⟨r.Last - (r.Last - r.First + 1) + 1, r.Last⟩ : AckRange) = r := by
    cases r
    simp only [AckRange.mk.injEq, and_true]
    grind
  have hcount : (numRanges - 1).toUInt8.toNat = numRanges.toNat - 1 + 0 := by
    rw [UInt64.toNat_toUInt8, UInt64.toNat_sub_of_le _ _ (UInt64.le_iff_toNat_le.2 hle),
      UInt64.toNat_one]
    simp at hle
    omega
  simp only [parseRanges]
  rw [List.append_assoc, Parser.bind_ok (ReadUintN_writeLen hlen (hfit r (by simp)) hfb _)]
  simp only [hpos, and_false, if_false, hgt, if_true, hfirst, hcount]
  rw [show (⟨[r], false, false⟩ : BlockState) = ⟨[] ++ [r], false, false⟩ from rfl]
  rw [UInt64.toNat_one] at hsim
  rw [Parser.bind_ok (hsim [] false 0 rest)]
  simp [hne]

end ParseRanges

/-! ## Both frames' ranges -/

/-- What a frame's ranges need for the round trip: they pass `validateAckRanges` and lie at or
below `LargestAcked`, which is below 2^48, and `LowestAcked` is between 1 and `LargestAcked`. -/
structure RangesWellFormed (LA LO : PacketNumber) (ranges : List AckRange) : Prop where
  valid : validateAckRanges LA ranges = true
  lowest_pos : 1 ≤ LO.toNat
  lowest_le : LO.toNat ≤ LA.toNat
  largest_lt : LA.toNat < 2 ^ 48
  last_le : ∀ r ∈ ranges, r.Last.toNat ≤ LA.toNat

/-- The ranges `Write` puts into a frame: the first one, and those below it that the loop of
`writeAckBlocks` writes before its count reaches `numWritableNackRanges`. -/
def writtenAckRanges : List AckRange → List AckRange
  | [] => []
  | r :: rs => r :: writtenRanges (numWritableNackRanges (r :: rs)) r rs 1

section Frames

variable {o : ByteOrder} {mask48 : Bool} {LA LO : PacketNumber} {bugText : String}
  {bs : List UInt8}

/-- Without missing ranges, the parser gets `LowestAcked` back from the first block length. -/
theorem parseRanges_writeRanges_nil (hwf : RangesWellFormed LA LO [])
    (hw : Returns (writeRanges o mask48 LA LO [] (getMissingSequenceNumberDeltaLen LA LO []) 0
      bugText) bs) (rest : List UInt8) :
    parseRanges o false 0 (getMissingSequenceNumberDeltaLen LA LO []) LA (bs ++ rest) =
      .ok ((LO, []), rest) := by
  obtain ⟨-, hfb⟩ := writeRanges_nil_spec hw
  have hlen : (LA - LO + 1).toNat = LA.toNat - LO.toNat + 1 := by
    have := LA.toNat_lt
    have := hwf.lowest_pos
    rw [UInt64.toNat_add, UInt64.toNat_sub_of_le _ _ (UInt64.le_iff_toNat_le.2 hwf.lowest_le),
      UInt64.toNat_one]
    omega
  have h48 : (LA - LO + 1).toNat < 2 ^ 48 := by
    have := hwf.largest_lt
    have := hwf.lowest_pos
    omega
  exact parseRanges_nil (getMissingSequenceNumberDeltaLen_mem LA LO [])
    (toNat_lt_getMissingSequenceNumberDeltaLen_nil h48) hwf.lowest_pos hwf.lowest_le hfb rest

/-- With missing ranges, the parser reads a block count that is not zero, and gets back the
ranges `writtenAckRanges` gives, which pass `validateAckRanges`. -/
theorem parseRanges_writeRanges_cons {r : AckRange} {rs : List AckRange}
    (hwf : RangesWellFormed LA LO (r :: rs))
    (hw : Returns (writeRanges o mask48 LA LO (r :: rs)
      (getMissingSequenceNumberDeltaLen LA LO (r :: rs)) (numWritableNackRanges (r :: rs))
      bugText) bs)
    (hN : (numWritableNackRanges (r :: rs)).toNat ≤ 255) (rest : List UInt8) :
    (numWritableNackRanges (r :: rs) - 1).toUInt8 ≠ 0 ∧
      parseRanges o true (numWritableNackRanges (r :: rs) - 1).toUInt8
          (getMissingSequenceNumberDeltaLen LA LO (r :: rs)) LA (bs ++ rest) =
        .ok ((((writtenAckRanges (r :: rs)).getLastD default).First,
          writtenAckRanges (r :: rs)), rest) ∧
      validateAckRanges LA (writtenAckRanges (r :: rs)) = true := by
  obtain ⟨hLA, hLO, fb, blocks, hfb, hblocks, rfl⟩ := writeRanges_cons_spec hw
  -- a frame with one range does not pass `validateAckRanges`
  have hne : rs ≠ [] := by
    rintro rfl
    exact absurd hwf.valid (by simp [validateAckRanges])
  obtain ⟨r', rs', rfl⟩ := List.exists_cons_of_ne_nil hne
  obtain ⟨-, hall, hsep⟩ := validateAckRanges_cons_cons.mp hwf.valid
  have htop : ∀ x ∈ r :: r' :: rs', x.Last.toNat + 1 < 2 ^ 64 := by
    intro x hx
    have := hwf.last_le x hx
    have := hwf.largest_lt
    omega
  have hchain := isChain_below hsep hall htop
  have hfirst := one_le_first_of_isChain hchain (by
    intro x hx
    rw [List.getLast?_eq_some_getLast (List.cons_ne_nil _ _), Option.mem_some_iff] at hx
    rw [← hx, ← hLO]
    exact hwf.lowest_pos)
  -- every length fits the width, the longest one included
  have hfit : ∀ x ∈ r :: r' :: rs', (x.Last - x.First + 1).toNat <
      2 ^ (8 * (getMissingSequenceNumberDeltaLen LA LO (r :: r' :: rs')).toNat) := by
    intro x hx
    refine toNat_lt_getMissingSequenceNumberDeltaLen hx ?_
    have hle := UInt64.le_iff_toNat_le.1 (hall x hx)
    have := hwf.last_le x hx
    have := hwf.largest_lt
    have := hfirst x hx
    rw [UInt64.toNat_add, UInt64.toNat_sub_of_le _ _ (hall x hx), UInt64.toNat_one]
    omega
  have hlen := getMissingSequenceNumberDeltaLen_mem LA LO (r :: r' :: rs')
  obtain ⟨-, hlt, -⟩ := parseAckBlocks_writeAckBlocks hlen hN (r' :: rs') r 1 blocks _
    (List.isChain_cons_cons.mpr ⟨(List.isChain_cons_cons.mp hchain).1,
      (List.isChain_cons_cons.mp hchain).2⟩)
    (fun x hx => hfit x (List.mem_cons_of_mem _ hx)) (by simp) hblocks
  have hwritten := isPrefix_writtenRanges (numWritableNackRanges (r :: r' :: rs')) r (r' :: rs') 1
  refine ⟨?_, ?_, validateAckRanges_of_isPrefix hwf.valid hwritten.1 (hwritten.2 (by simp))⟩
  · have := hlt (by simp)
    rw [UInt64.toNat_one] at this
    intro h0
    have h0' := congrArg UInt8.toNat h0
    rw [UInt64.toNat_toUInt8, UInt64.toNat_sub_of_le _ _ (UInt64.le_iff_toNat_le.2 (by simp; omega)),
      UInt64.toNat_one, UInt8.toNat_zero] at h0'
    omega
  · exact parseRanges_cons hlen hchain hne hfit hLA (UInt64.le_iff_toNat_le.1
      (hall r List.mem_cons_self)) hN (hLA ▸ hfb) hblocks rest

end Frames

/-! ## The two frames -/

/-- What `ParseAckFrame` gives back of a frame written at time `now`: the ranges `Write` wrote,
with `LowestAcked` the first packet of the lowest of them, the delay rounded through
`ufloat16` microseconds, and no receive time. -/
def AckFrame.received (f : AckFrame) (now : Int) : AckFrame where
  PathID := f.PathID
  LargestAcked := f.LargestAcked
  LowestAcked := if f.AckRanges = [] then f.LowestAcked
    else ((writtenAckRanges f.AckRanges).getLastD default).First
  AckRanges := writtenAckRanges f.AckRanges
  PacketReceivedTime := 0
  DelayTime :=
    (ufloat16Value (ufloat16Bits (timeSub now f.PacketReceivedTime / 1000).toUInt64)).toInt64 * 1000

theorem ParseAckFrame_Write (version : VersionNumber) (now : Int) (rest : List UInt8)
    (f : AckFrame) {bs : List UInt8} (hw : Returns (f.Write version now) bs)
    (hwf : RangesWellFormed f.LargestAcked f.LowestAcked f.AckRanges) :
    ParseAckFrame version (bs ++ rest) = .ok (f.received now, rest) := by
  obtain ⟨hN, largest, ranges, hl, hr, rfl⟩ := AckFrame.write_spec hw
  obtain ⟨-, -, hmiss, hpath, hlens⟩ := AckFrame.typeByte_decode f
  have hLA := ReadUintN_writeLen (getPacketNumberLength_mem f.LargestAcked)
    (toNat_lt_getPacketNumberLength hwf.largest_lt) hl
  simp only [AckFrame.getMissingSequenceNumberDeltaLen] at hr hlens
  simp only [ParseAckFrame, List.append_assoc, List.cons_append]
  rw [Parser.bind_ok (ReadByte_cons _ _)]
  simp only [hlens]
  -- the path ID byte, if the frame has one; 0 stands for the initial path
  by_cases hp : f.PathID = Protocol.InitialPathID
  case' pos =>
    have h16 : ¬ (f.typeByte &&& 0x10 = 0x10) := fun h => hpath.1 h hp
    simp only [h16, if_false, hp, ne_eq, not_true_eq_false, List.nil_append]
    rw [Parser.bind_ok (Parser.pure_run _ _)]
  case' neg =>
    simp only [hpath.2 hp, if_true, hp, ne_eq, not_false_eq_true, List.singleton_append,
      List.nil_append]
    rw [Parser.bind_ok (ReadByte_cons _ _)]
  all_goals
    rw [Parser.bind_ok (hLA _), Parser.bind_ok (ReadUfloat16_WriteUfloat16 _ _ _)]
    rcases hR : f.AckRanges with _ | ⟨r, rs⟩
    · -- no missing ranges: the first block gives `LowestAcked`
      have hm : f.HasMissingRanges = false := by simp [AckFrame.HasMissingRanges, hR]
      have h32 : ¬ (f.typeByte &&& 0x20 = 0x20) := fun h => by simpa [hm] using hmiss.1 h
      rw [hR] at hwf
      simp only [hm, hR, Bool.false_eq_true, if_false] at hr
      simp only [hm, h32, Bool.false_eq_true, if_false, List.nil_append, false_and, decide_false]
      rw [Parser.bind_ok (Parser.pure_run _ _), Parser.bind_ok (parseRanges_writeRanges_nil hwf hr _)]
      simp only [validateAckRanges, Bool.not_true, Bool.false_eq_true, if_false]
      rw [Parser.bind_ok (ReadByte_cons _ _)]
      simp [AckFrame.received, hR, writtenAckRanges, hp, Protocol.InitialPathID]
    · -- missing ranges: the count of blocks, then the blocks
      have hm : f.HasMissingRanges = true := by simp [AckFrame.HasMissingRanges, hR]
      have h32 : f.typeByte &&& 0x20 = 0x20 := hmiss.2 hm
      rw [hR] at hwf
      simp only [hm, hR, if_true] at hr hN
      obtain ⟨hcount, hparse, hvalid⟩ := parseRanges_writeRanges_cons hwf hr hN (0 :: rest)
      simp only [hm, h32, if_true, List.singleton_append, true_and, decide_true]
      rw [Parser.bind_ok (ReadByte_cons _ _)]
      simp only [hcount, if_false]
      rw [Parser.bind_ok hparse]
      simp only [hvalid, Bool.not_true, Bool.false_eq_true, if_false]
      rw [Parser.bind_ok (ReadByte_cons _ _)]
      simp [AckFrame.received, hR, hp, Protocol.InitialPathID]

/-- What `ParseClosePathFrame` gives back of a frame: the ranges `Write` wrote, with `LowestAcked`
the first packet of the lowest of them. -/
def ClosePathFrame.received (f : ClosePathFrame) : ClosePathFrame where
  PathID := f.PathID
  LargestAcked := f.LargestAcked
  LowestAcked := if f.AckRanges = [] then f.LowestAcked
    else ((writtenAckRanges f.AckRanges).getLastD default).First
  AckRanges := writtenAckRanges f.AckRanges

theorem ParseClosePathFrame_Write (version : VersionNumber) (rest : List UInt8)
    (f : ClosePathFrame) {bs : List UInt8} (hw : Returns (f.Write version) bs)
    (hwf : RangesWellFormed f.LargestAcked f.LowestAcked f.AckRanges) :
    ParseClosePathFrame version (bs ++ rest) = .ok (f.received, rest) := by
  obtain ⟨hN, largest, ranges, hl, hr, rfl⟩ := ClosePathFrame.write_spec hw
  obtain ⟨hmiss, hlens⟩ := ClosePathFrame.flags_decode f
  have hLA := ReadUintN_writeLen (getPacketNumberLength_mem f.LargestAcked)
    (toNat_lt_getPacketNumberLength hwf.largest_lt) hl
  simp only [ClosePathFrame.getMissingSequenceNumberDeltaLen] at hr hlens
  simp only [ParseClosePathFrame, List.append_assoc, List.cons_append, List.nil_append]
  rw [Parser.bind_ok (ReadByte_cons _ _), Parser.bind_ok (ReadByte_cons _ _),
    Parser.bind_ok (ReadByte_cons _ _)]
  simp only [hlens]
  rcases hR : f.AckRanges with _ | ⟨r, rs⟩
  · -- no missing ranges: the first block gives `LowestAcked`
    have hm : f.HasMissingRanges = false := by simp [ClosePathFrame.HasMissingRanges, hR]
    have h10 : ¬ (f.flags &&& 0x10 = 0x10) := fun h => by simpa [hm] using hmiss.1 h
    rw [hR] at hwf
    simp only [hm, hR, Bool.false_eq_true, if_false] at hr
    simp only [hm, h10, Bool.false_eq_true, if_false, List.nil_append, false_and, decide_false]
    rw [Parser.bind_ok (Parser.pure_run _ _), Parser.bind_ok (hLA _),
      Parser.bind_ok (parseRanges_writeRanges_nil hwf hr _)]
    simp [validateAckRanges, ClosePathFrame.received, hR, writtenAckRanges]
  · -- missing ranges: the count of blocks, then the blocks
    have hm : f.HasMissingRanges = true := by simp [ClosePathFrame.HasMissingRanges, hR]
    have h10 : f.flags &&& 0x10 = 0x10 := hmiss.2 hm
    rw [hR] at hwf
    simp only [hm, hR, if_true] at hr hN
    obtain ⟨hcount, hparse, hvalid⟩ := parseRanges_writeRanges_cons hwf hr hN rest
    simp only [hm, h10, if_true, List.singleton_append, true_and, decide_true]
    rw [Parser.bind_ok (ReadByte_cons _ _)]
    simp only [hcount, if_false]
    rw [Parser.bind_ok (hLA _), Parser.bind_ok hparse]
    simp [hvalid, ClosePathFrame.received, hR]

end Wire
end PStream
