import PStream.Wire.Ack
import PStream.Wire.Codec

/-!
# The ACK block loop: what the parser reads back of what the writer writes

Both ACK-style frames write their ranges below the first one as blocks: a gap byte and a block
length.  A gap that does not fit into its byte takes several blocks, all but the last of gap 255
and length 0, and the parser, seeing a zero length, stays in "long-block" mode and moves the range
it is building down instead of opening a new one.

The main result, `parseAckBlocks_writeAckBlocks`, runs the parser's loop over the bytes of the
writer's loop.  It reads one block per block the writer counts, and rebuilds each range the writer
started, the last of them complete.  `writtenRanges` says which ranges those are: the writer stops
after the range whose blocks bring its count to `numRanges`.

What a range needs to be rebuilt is `Below prev r`, in the numbers the `uint64`s stand for: `r` is
not empty, and there is at least one packet between it and `prev`.  Each block's length must fit
the width it is written in.
-/

set_option autoImplicit false

namespace PStream
namespace Wire

open Utils Utils.ByteOrder

/-! ## Widths and gaps -/

/-- `r` is not empty and lies below `prev` with at least one packet between them, in the numbers
the values stand for: what the parser needs to rebuild `r` from the gap and the length. -/
def Below (prev r : AckRange) : Prop :=
  r.First.toNat ≤ r.Last.toNat ∧ r.Last.toNat + 1 < prev.First.toNat

namespace Below

variable {prev r : AckRange}

/-- The length of `r` does not wrap. -/
theorem toNat_length (hb : Below prev r) :
    (r.Last - r.First + 1).toNat = r.Last.toNat - r.First.toNat + 1 := by
  have hlt := prev.First.toNat_lt
  have := hb.2
  rw [UInt64.toNat_add, UInt64.toNat_sub_of_le _ _ (UInt64.le_iff_toNat_le.2 hb.1),
    UInt64.toNat_one]
  omega

/-- Nor does the gap between `r` and `prev`. -/
theorem toNat_gap (hb : Below prev r) :
    (prev.First - r.Last - 1).toNat = prev.First.toNat - r.Last.toNat - 1 := by
  have h2 : r.Last ≤ prev.First := UInt64.le_iff_toNat_le.2 (by have := hb.2; omega)
  have h1 : 1 ≤ prev.First - r.Last := by
    rw [UInt64.le_iff_toNat_le, UInt64.toNat_sub_of_le _ _ h2, UInt64.toNat_one]
    have := hb.2
    omega
  rw [UInt64.toNat_sub_of_le _ _ h1, UInt64.toNat_sub_of_le _ _ h2, UInt64.toNat_one]

end Below

/-- Two ranges are equal when the numbers they stand for are. -/
theorem AckRange.eq_of_toNat {x r : AckRange} (hF : x.First.toNat = r.First.toNat)
    (hL : x.Last.toNat = r.Last.toNat) : x = r := by
  cases x
  cases r
  simp only [AckRange.mk.injEq]
  exact ⟨UInt64.toNat_inj.mp hF, UInt64.toNat_inj.mp hL⟩

/-- A value written in one of the four widths, and small enough for it, is read back. -/
theorem ReadUintN_writeLen {o : ByteOrder} {mask48 : Bool} {len : PacketNumberLen} {v : UInt64}
    {bs : List UInt8} (hlen : len = 1 ∨ len = 2 ∨ len = 4 ∨ len = 6)
    (hv : v.toNat < 2 ^ (8 * len.toNat)) (h : writeLen o mask48 len v = some bs)
    (rest : List UInt8) : o.ReadUintN len (bs ++ rest) = .ok (v, rest) := by
  rcases hlen with rfl | rfl | rfl | rfl
  · simp only [writeLen, Protocol.PacketNumberLen1, if_true, Option.some.injEq] at h
    subst h
    rw [ReadUintN_one, Nat.mod_eq_of_lt (show v.toNat < 2 ^ 8 from hv), UInt64.ofNat_toNat]
  · simp [writeLen, Protocol.PacketNumberLen1, Protocol.PacketNumberLen2] at h
    subst h
    rw [ReadUintN_WriteUint16, Nat.mod_eq_of_lt (show v.toNat < 2 ^ 16 from hv),
      UInt64.ofNat_toNat]
  · simp [writeLen, Protocol.PacketNumberLen1, Protocol.PacketNumberLen2,
      Protocol.PacketNumberLen4] at h
    subst h
    rw [ReadUintN_WriteUint32, Nat.mod_eq_of_lt (show v.toNat < 2 ^ 32 from hv),
      UInt64.ofNat_toNat]
  · have hmask : (v &&& (((1 : UInt64) <<< 48) - 1)) = v := by
      apply UInt64.toNat_inj.mp
      rw [toNat_and_mask48, Nat.mod_eq_of_lt (show v.toNat < 2 ^ 48 from hv)]
    simp [writeLen, Protocol.PacketNumberLen1, Protocol.PacketNumberLen2,
      Protocol.PacketNumberLen4, Protocol.PacketNumberLen6] at h
    cases mask48 <;> simp only [Bool.false_eq_true, if_false, if_true, hmask] at h <;>
      exact ReadUintN_WriteUint48 o h rest

/-- The number of blocks of a gap is the gap divided by 255, rounded up. -/
theorem toNat_gapBlocks {prev r : AckRange} (hb : Below prev r) :
    (gapBlocks prev r).toNat = (prev.First.toNat - r.Last.toNat - 1 + 254) / 255 := by
  have hgap := hb.toNat_gap
  unfold gapBlocks
  generalize prev.First - r.Last - 1 = g at hgap
  have hg := g.toNat_lt
  have hdiv : (1 + g / 0xFF).toNat = 1 + g.toNat / 255 := by
    rw [UInt64.toNat_add, UInt64.toNat_div]
    simp only [UInt64.toNat_one, UInt64.reduceToNat]
    omega
  simp only
  split_ifs with hmod
  · have hmod' : g.toNat % 255 = 0 := by
      have := congrArg UInt64.toNat hmod
      rwa [UInt64.toNat_mod] at this
    rw [UInt64.toNat_sub_of_le _ _ (by rw [UInt64.le_iff_toNat_le, hdiv]; simp), hdiv]
    simp only [UInt64.toNat_one]
    omega
  · have hmod' : g.toNat % 255 ≠ 0 := by
      intro h0
      apply hmod
      apply UInt64.toNat_inj.mp
      rw [UInt64.toNat_mod]
      exact h0
    rw [hdiv]
    omega

/-- A gap of one packet or more needs one block or more, and fewer than 2^63. -/
theorem one_le_gapBlocks {prev r : AckRange} (hb : Below prev r) :
    1 ≤ (gapBlocks prev r).toNat ∧ (gapBlocks prev r).toNat < 2 ^ 63 := by
  have hP := prev.First.toNat_lt
  have := hb.2
  rw [toNat_gapBlocks hb]
  omega

/-! ## The parser's steps -/

/-- A block read outside a long gap opens a new range below the last one. -/
theorem BlockState.step_short (rs : List AckRange) (c : Bool) (gap : UInt8) (v : UInt64) :
    BlockState.step ⟨rs, false, c⟩ gap v =
      ⟨rs ++ [⟨(rs.getLastD default).First - gap.toUInt64 - 1 - v + 1,
        (rs.getLastD default).First - gap.toUInt64 - 1⟩], v = 0, v > 0⟩ := by
  simp [BlockState.step]

/-- A block read inside a long gap moves the last range down by the gap, and extends it by the
length. -/
theorem BlockState.step_long (rs : List AckRange) (c : Bool) (gap : UInt8) (v : UInt64) :
    BlockState.step ⟨rs, true, c⟩ gap v =
      ⟨rs.dropLast ++ [⟨(rs.getLastD default).First - (gap.toUInt64 + v),
        (rs.getLastD default).Last - gap.toUInt64⟩], v = 0, c || v > 0⟩ := by
  simp [BlockState.step]

/-- One block: the gap byte, then a block length the reader reads back. -/
theorem parseAckBlocks_succ {o : ByteOrder} {ml : UInt8} {k : Nat} {st : BlockState}
    {gap : UInt8} {bytes rest : List UInt8} {v : UInt64}
    (h : o.ReadUintN ml (bytes ++ rest) = .ok (v, rest)) :
    parseAckBlocks o ml (k + 1) st (gap :: (bytes ++ rest)) =
      parseAckBlocks o ml k (st.step gap v) rest := by
  simp only [parseAckBlocks]
  rw [Parser.bind_ok (ReadByte_cons _ _), Parser.bind_ok h]

/-- `x - 255` does not wrap when `x` is at least 255. -/
theorem toNat_sub_255 {x : UInt64} (h : 255 ≤ x.toNat) : (x - 255).toNat = x.toNat - 255 :=
  UInt64.toNat_sub_of_le _ _ (UInt64.le_iff_toNat_le.2 h)

/-- A run of `m` blocks of gap 255 and length 0, read in long-block mode, moves the last range
`255 * m` packets down. -/
theorem parseAckBlocks_longRun {o : ByteOrder} {ml : UInt8} {zb : List UInt8}
    (hz : ∀ rest, o.ReadUintN ml (zb ++ rest) = .ok (0, rest)) :
    ∀ (m k : Nat) (acc : List AckRange) (x : AckRange) (c : Bool) (rest : List UInt8),
      255 * m ≤ x.First.toNat → 255 * m ≤ x.Last.toNat →
      ∃ y : AckRange, y.First.toNat = x.First.toNat - 255 * m ∧
        y.Last.toNat = x.Last.toNat - 255 * m ∧
        parseAckBlocks o ml (m + k) ⟨acc ++ [x], true, c⟩
            ((List.replicate m (0xFF :: zb)).flatten ++ rest) =
          parseAckBlocks o ml k ⟨acc ++ [y], true, c⟩ rest
  | 0, k, acc, x, c, rest, _, _ => ⟨x, by simp, by simp, by simp⟩
  | m + 1, k, acc, x, c, rest, hf, hl => by
    -- the first block moves the range 255 packets down, the others by induction
    have hf' : 255 ≤ x.First.toNat := by omega
    have hl' : 255 ≤ x.Last.toNat := by omega
    have hstep : BlockState.step ⟨acc ++ [x], true, c⟩ 0xFF 0 =
        ⟨acc ++ [⟨x.First - 255, x.Last - 255⟩], true, c⟩ := by
      simp [BlockState.step]
    obtain ⟨y, hyF, hyL, hy⟩ := parseAckBlocks_longRun hz m k acc ⟨x.First - 255, x.Last - 255⟩ c
      rest (by rw [toNat_sub_255 hf']; omega) (by rw [toNat_sub_255 hl']; omega)
    refine ⟨y, by rw [hyF, toNat_sub_255 hf']; omega, by rw [hyL, toNat_sub_255 hl']; omega, ?_⟩
    rw [List.replicate_succ, List.flatten_cons, List.append_assoc, List.cons_append,
      Nat.add_right_comm, parseAckBlocks_succ (hz _), hstep, hy]

/-! ## One range -/

/-- One block rebuilds a range whose gap fits into its byte. -/
theorem parseAckBlocks_short {o : ByteOrder} {ml : UInt8} {lb : List UInt8} {prev r : AckRange}
    (hb : Below prev r) (hlb : ∀ rest, o.ReadUintN ml (lb ++ rest) = .ok (r.Last - r.First + 1, rest))
    (hnum : gapBlocks prev r = 1) (acc : List AckRange) (c : Bool) (k : Nat) (rest : List UInt8) :
    parseAckBlocks o ml (k + 1) ⟨acc ++ [prev], false, c⟩
        ([(prev.First - r.Last - 1).toUInt8] ++ lb ++ rest) =
      parseAckBlocks o ml k ⟨acc ++ [prev, r], false, true⟩ rest := by
  have hG := hb.toNat_gap
  have hlen := hb.toNat_length
  have hone : (prev.First.toNat - r.Last.toNat - 1 + 254) / 255 = 1 := by
    rw [← toNat_gapBlocks hb, hnum]
    rfl
  -- the gap fits into its byte
  have hgap8 : (prev.First - r.Last - 1).toUInt8.toUInt64 = prev.First - r.Last - 1 := by
    apply UInt64.toNat_inj.mp
    rw [UInt8.toNat_toUInt64, UInt64.toNat_toUInt8, hG]
    omega
  have hr : (⟨prev.First - (prev.First - r.Last - 1) - 1 - (r.Last - r.First + 1) + 1,
      prev.First - (prev.First - r.Last - 1) - 1⟩ : AckRange) = r := by
    cases r
    simp only [AckRange.mk.injEq]
    constructor <;> grind
  have hpos : 0 < r.Last - r.First + 1 := by
    rw [UInt64.lt_iff_toNat_lt, hlen, UInt64.toNat_zero]
    omega
  rw [List.singleton_append, List.cons_append, parseAckBlocks_succ (hlb rest)]
  rw [BlockState.step_short, List.getLastD_concat, hgap8, hr]
  simp [hpos, UInt64.ne_of_lt hpos |>.symm]

/-- The gap byte of the last block of a long gap, `1 + (gap - 1) % 255`. -/
theorem toNat_lastGap {G : UInt64} (hG : 1 ≤ G.toNat) :
    ((1 + (G - 1) % 255).toUInt8.toUInt64).toNat = 1 + (G.toNat - 1) % 255 := by
  have h1 : (G - 1).toNat = G.toNat - 1 :=
    UInt64.toNat_sub_of_le _ _ (UInt64.le_iff_toNat_le.2 (by simpa using hG))
  have h2 : (1 + (G - 1) % 255).toNat = 1 + (G.toNat - 1) % 255 := by
    rw [UInt64.toNat_add, UInt64.toNat_mod, h1]
    simp only [UInt64.toNat_one, UInt64.reduceToNat]
    omega
  rw [UInt8.toNat_toUInt64, UInt64.toNat_toUInt8, h2]
  omega

/-- The blocks of a range whose gap needs `n + 2` blocks rebuild it: the first opens an empty range
255 packets below `prev`, the zero-length ones carry it down 255 packets at a time, and the last one
the rest of the gap and the range's length. -/
theorem parseAckBlocks_long {o : ByteOrder} {ml : UInt8} {zb lb : List UInt8} {prev r : AckRange}
    (hb : Below prev r) (hz : ∀ rest, o.ReadUintN ml (zb ++ rest) = .ok (0, rest))
    (hlb : ∀ rest, o.ReadUintN ml (lb ++ rest) = .ok (r.Last - r.First + 1, rest))
    {n : Nat} (hnum : (gapBlocks prev r).toNat = n + 2) (acc : List AckRange) (c : Bool) (k : Nat)
    (rest : List UInt8) :
    parseAckBlocks o ml (n + 2 + k) ⟨acc ++ [prev], false, c⟩
        ((List.replicate (n + 1) ([0xFF] ++ zb)).flatten ++
          [(1 + (prev.First - r.Last - 1 - 1) % 255).toUInt8] ++ lb ++ rest) =
      parseAckBlocks o ml k ⟨acc ++ [prev, r], false, true⟩ rest := by
  have hG := hb.toNat_gap
  have hlen := hb.toNat_length
  have hN := toNat_gapBlocks hb
  rw [hnum] at hN
  have hP := prev.First.toNat_lt
  have hrF := hb.1
  have hP' : 255 * n + 256 ≤ prev.First.toNat := by omega
  -- the first block, of gap 255 and length 0
  have hx : BlockState.step ⟨acc ++ [prev], false, c⟩ 0xFF 0 =
      ⟨(acc ++ [prev]) ++ [⟨prev.First - 255, prev.First - 256⟩], true, false⟩ := by
    have hx0 : (⟨prev.First - (0xFF : UInt8).toUInt64 - 1 - 0 + 1,
        prev.First - (0xFF : UInt8).toUInt64 - 1⟩ : AckRange) = ⟨prev.First - 255, prev.First - 256⟩ := by
      simp only [show (0xFF : UInt8).toUInt64 = 255 from rfl, AckRange.mk.injEq]
      constructor <;> grind
    rw [BlockState.step_short, List.getLastD_concat, hx0]
    simp
  have h255 : (prev.First - 255).toNat = prev.First.toNat - 255 := toNat_sub_255 (by omega)
  have h256 : (prev.First - 256).toNat = prev.First.toNat - 256 :=
    UInt64.toNat_sub_of_le _ _ (UInt64.le_iff_toNat_le.2 (by simp; omega))
  obtain ⟨y, hyF, hyL, hy⟩ := parseAckBlocks_longRun hz n (k + 1) (acc ++ [prev])
    ⟨prev.First - 255, prev.First - 256⟩ false
    ([(1 + (prev.First - r.Last - 1 - 1) % 255).toUInt8] ++ lb ++ rest)
    (by simp only [h255]; omega) (by simp only [h256]; omega)
  simp only at hyF hyL
  -- the last block, in long-block mode
  have hg' := toNat_lastGap (G := prev.First - r.Last - 1) (by omega)
  rw [hG] at hg'
  set g' := (1 + (prev.First - r.Last - 1 - 1) % 255).toUInt8
  have hyr : (⟨y.First - (g'.toUInt64 + (r.Last - r.First + 1)), y.Last - g'.toUInt64⟩ :
      AckRange) = r := by
    have hsum : (g'.toUInt64 + (r.Last - r.First + 1)).toNat =
        g'.toUInt64.toNat + (r.Last.toNat - r.First.toNat + 1) := by
      rw [UInt64.toNat_add, hlen]
      omega
    apply AckRange.eq_of_toNat
    · rw [UInt64.toNat_sub_of_le _ _ (UInt64.le_iff_toNat_le.2 (by omega)), hsum, hyF, h255]
      omega
    · rw [UInt64.toNat_sub_of_le _ _ (UInt64.le_iff_toNat_le.2 (by omega)), hyL, h256]
      omega
  have hpos : 0 < r.Last - r.First + 1 := by
    rw [UInt64.lt_iff_toNat_lt, hlen, UInt64.toNat_zero]
    omega
  have hbytes : (List.replicate (n + 1) ([0xFF] ++ zb)).flatten ++ [g'] ++ lb ++ rest =
      0xFF :: (zb ++ ((List.replicate n (0xFF :: zb)).flatten ++ ([g'] ++ lb ++ rest))) := by
    simp [List.replicate_succ]
  rw [hbytes, show n + 2 + k = n + (k + 1) + 1 by omega, parseAckBlocks_succ (hz _), hx, hy,
    show [g'] ++ lb ++ rest = g' :: (lb ++ rest) from rfl, parseAckBlocks_succ (hlb rest),
    BlockState.step_long, List.getLastD_concat, List.dropLast_concat, hyr]
  simp [hpos, UInt64.ne_of_lt hpos |>.symm]

/-- What `longBlocks` writes when its loop runs. -/
theorem longBlocks_spec {o : ByteOrder} {mask48 : Bool} {len : PacketNumberLen}
    {num gap length : UInt64} {bs : List UInt8} (hnum : num.toNat < 2 ^ 63) (h0 : num.toNat ≠ 0)
    (h : longBlocks o mask48 len num gap length = some bs) :
    ∃ zero last, writeLen o mask48 len 0 = some zero ∧ writeLen o mask48 len length = some last ∧
      bs = (List.replicate (num.toNat - 1) ([0xFF] ++ zero)).flatten ++
        [(1 + (gap - 1) % 255).toUInt8] ++ last := by
  simp only [longBlocks, hnum, if_true, h0, if_false, Option.bind_eq_bind, Option.bind_eq_some_iff,
    Option.pure_def, Option.some.injEq] at h
  obtain ⟨zero, hz, last, hl, rfl⟩ := h
  exact ⟨zero, last, hz, hl, rfl⟩

/-- The blocks `rangeBlocks` writes for one range rebuild it, in as many blocks as it counts. -/
theorem parseAckBlocks_rangeBlocks {o : ByteOrder} {mask48 : Bool} {len : PacketNumberLen}
    {prev r : AckRange} {bs : List UInt8} {n : UInt64} (hb : Below prev r)
    (hlen : len = 1 ∨ len = 2 ∨ len = 4 ∨ len = 6)
    (hfit : (r.Last - r.First + 1).toNat < 2 ^ (8 * len.toNat))
    (h : rangeBlocks o mask48 len prev r = some (bs, n)) (acc : List AckRange) (c : Bool) (k : Nat)
    (rest : List UInt8) :
    n = gapBlocks prev r ∧
      parseAckBlocks o len (n.toNat + k) ⟨acc ++ [prev], false, c⟩ (bs ++ rest) =
        parseAckBlocks o len k ⟨acc ++ [prev, r], false, true⟩ rest := by
  obtain ⟨h1, h63⟩ := one_le_gapBlocks hb
  simp only [rangeBlocks] at h
  split_ifs at h with hnum
  · -- the gap fits into its byte: one block
    simp only [Option.bind_eq_bind, Option.bind_eq_some_iff, Option.pure_def,
      Option.some.injEq, Prod.mk.injEq] at h
    obtain ⟨l, hl, rfl, rfl⟩ := h
    refine ⟨hnum.symm, ?_⟩
    rw [UInt64.toNat_one, Nat.add_comm]
    exact parseAckBlocks_short hb (ReadUintN_writeLen hlen hfit hl) hnum acc c k rest
  · -- a long gap: zero-length blocks, then the rest of the gap
    simp only [Option.bind_eq_bind, Option.bind_eq_some_iff, Option.pure_def,
      Option.some.injEq, Prod.mk.injEq] at h
    obtain ⟨bs', hbs, rfl, rfl⟩ := h
    have hne : (gapBlocks prev r).toNat ≠ 1 := fun h' => hnum (UInt64.toNat_inj.mp h')
    obtain ⟨m, hm⟩ : ∃ m, (gapBlocks prev r).toNat = m + 2 := ⟨_, (Nat.sub_add_cancel
      (by omega : 2 ≤ (gapBlocks prev r).toNat)).symm⟩
    obtain ⟨zero, last, hz, hl, rfl⟩ := longBlocks_spec h63 (by omega) hbs
    have hcount : longBlockCount (gapBlocks prev r) = gapBlocks prev r := by
      simp only [longBlockCount, if_pos h63]
    refine ⟨hcount, ?_⟩
    rw [hcount, hm, show m + 2 - 1 = m + 1 by omega]
    exact parseAckBlocks_long hb (ReadUintN_writeLen hlen (Nat.two_pow_pos _) hz)
      (ReadUintN_writeLen hlen hfit hl) hm acc c k rest

/-! ## The loop -/

/-- The ranges `writeAckBlocks` writes after `prev`: each range whose blocks it starts, up to the
one whose blocks bring the count to `numRanges`. -/
def writtenRanges (numRanges : UInt64) : AckRange → List AckRange → UInt64 → List AckRange
  | _, [], _ => []
  | prev, r :: rs, written =>
    let written := written + gapBlocks prev r
    if written ≥ numRanges then [r] else r :: writtenRanges numRanges r rs written

/-- One turn of `writeAckBlocks`: the blocks of the next range, then either the end or the rest of
the loop. -/
theorem writeAckBlocks_cons_spec {o : ByteOrder} {mask48 : Bool} {len : PacketNumberLen}
    {numRanges written w' : UInt64} {prev r : AckRange} {rs : List AckRange} {bytes : List UInt8}
    (h : writeAckBlocks o mask48 len numRanges prev (r :: rs) written = some (bytes, w')) :
    ∃ b n, rangeBlocks o mask48 len prev r = some (b, n) ∧
      (written + n ≥ numRanges ∧ bytes = b ∧ w' = written + n ∨
        written + n < numRanges ∧ ∃ more, bytes = b ++ more ∧
          writeAckBlocks o mask48 len numRanges r rs (written + n) = some (more, w')) := by
  simp only [writeAckBlocks, Option.bind_eq_bind, Option.bind_eq_some_iff] at h
  obtain ⟨⟨b, n⟩, hb, h⟩ := h
  refine ⟨b, n, hb, ?_⟩
  by_cases hstop : written + n ≥ numRanges
  · simp only [hstop, if_true, Option.pure_def, Option.some.injEq, Prod.mk.injEq] at h
    exact Or.inl ⟨hstop, h.1.symm, h.2.symm⟩
  · simp only [hstop, if_false, Option.bind_eq_some_iff, Option.pure_def, Option.some.injEq,
      Prod.mk.injEq] at h
    obtain ⟨⟨more, w''⟩, hmore, rfl, rfl⟩ := h
    exact Or.inr ⟨UInt64.not_le.mp hstop, more, rfl, hmore⟩

/-- The parser's loop reads back the ranges `writeAckBlocks` writes, one block per count: the
induction follows the writer's list, and `IsChain Below` carries what each range needs to be
rebuilt below the one before. -/
theorem parseAckBlocks_writeAckBlocks {o : ByteOrder} {mask48 : Bool} {len : PacketNumberLen}
    {numRanges : UInt64} (hlen : len = 1 ∨ len = 2 ∨ len = 4 ∨ len = 6)
    (hN : numRanges.toNat ≤ 255) :
    ∀ (rs : List AckRange) (prev : AckRange) (written : UInt64) (bytes : List UInt8) (w' : UInt64),
      List.IsChain Below (prev :: rs) →
      (∀ r ∈ rs, (r.Last - r.First + 1).toNat < 2 ^ (8 * len.toNat)) →
      written.toNat < 255 →
      writeAckBlocks o mask48 len numRanges prev rs written = some (bytes, w') →
      written.toNat ≤ w'.toNat ∧ (rs ≠ [] → written.toNat < w'.toNat) ∧
      ∀ (acc : List AckRange) (c : Bool) (k : Nat) (rest : List UInt8),
        parseAckBlocks o len (w'.toNat - written.toNat + k) ⟨acc ++ [prev], false, c⟩
            (bytes ++ rest) =
          parseAckBlocks o len k
            ⟨acc ++ prev :: writtenRanges numRanges prev rs written, false, c || !rs.isEmpty⟩ rest
  | [], prev, written, bytes, w', _, _, _, h => by
    simp only [writeAckBlocks, Option.some.injEq, Prod.mk.injEq] at h
    obtain ⟨rfl, rfl⟩ := h
    refine ⟨le_refl _, fun h => absurd rfl h, fun acc c k rest => ?_⟩
    simp [writtenRanges]
  | r :: rs, prev, written, bytes, w', hchain, hfit, hw, h => by
    obtain ⟨b, n, hb, hcase⟩ := writeAckBlocks_cons_spec h
    have hbelow : Below prev r := (List.isChain_cons_cons.mp hchain).1
    have hn := (parseAckBlocks_rangeBlocks hbelow hlen (hfit r (by simp)) hb [] false 0 []).1
    obtain ⟨hn1, hn63⟩ := one_le_gapBlocks hbelow
    rw [← hn] at hn1 hn63
    have hsum : (written + n).toNat = written.toNat + n.toNat := by
      rw [UInt64.toNat_add]
      omega
    rcases hcase with ⟨hstop, rfl, rfl⟩ | ⟨hgo, more, rfl, hmore⟩
    · -- the blocks of r reach the count: the writer stops after them
      refine ⟨by omega, fun _ => by omega, fun acc c k rest => ?_⟩
      have hwr : writtenRanges numRanges prev (r :: rs) written = [r] := by
        simp [writtenRanges, ← hn, hstop]
      rw [hsum, show written.toNat + n.toNat - written.toNat + k = n.toNat + k by omega,
        (parseAckBlocks_rangeBlocks hbelow hlen (hfit r (by simp)) hb acc c k rest).2, hwr]
      simp
    · -- the writer goes on with the ranges below r
      have hlt : (written + n).toNat < 255 := by
        have := UInt64.lt_iff_toNat_lt.mp hgo
        omega
      obtain ⟨hle, -, ih⟩ := parseAckBlocks_writeAckBlocks hlen hN rs r (written + n) more w'
        (List.isChain_cons_cons.mp hchain).2 (fun x hx => hfit x (by simp [hx])) hlt hmore
      refine ⟨by omega, fun _ => by omega, fun acc c k rest => ?_⟩
      have hwr : writtenRanges numRanges prev (r :: rs) written =
          r :: writtenRanges numRanges r rs (written + n) := by
        simp [writtenRanges, ← hn, UInt64.not_le.mpr hgo]
      rw [show w'.toNat - written.toNat + k = n.toNat + (w'.toNat - (written + n).toNat + k) by
          omega, List.append_assoc,
        (parseAckBlocks_rangeBlocks hbelow hlen (hfit r (by simp)) hb acc c _ _).2,
        show acc ++ [prev, r] = (acc ++ [prev]) ++ [r] by simp, ih, hwr]
      simp

end Wire
end PStream
