import PStream.Wire.Codec
import PStream.Lib.Numbers

/-!
# The `ufloat16` codec rounds down

`writeUfloat16` keeps the top 12 bits of a value below `uFloat16MaxValue`, and clamps larger
values to the largest code.  `readUfloat16` puts those bits back in place.  Together they round a
value down to the largest number of at most 12 significant bits that is no larger than the value
or `uFloat16MaxValue` (`ufloat16Value_ufloat16Bits_isGreatest`).  Rounding down this way is
monotone, and every 16-bit code is the encoding of the value it decodes to.

The encoder's loop is a binary search for the highest set bit.  Before the round of offset `o`,
the value left has fewer than `11 + 2o` bits; after it, fewer than `11 + o`.  The exponent counts
the bits shifted out (`SearchInv`, `searchInv_exponentStep`).  The encoder adds the leading bit
into the exponent field, and the decoder's subtraction of `exponent - 1` leaves it behind
(`ufloat16Value_normal`).
-/

set_option autoImplicit false

namespace PStream
namespace Utils

theorem toNat_one_shiftLeft_twelve : ((1 : UInt64) <<< 12).toNat = 2 ^ 12 := by decide

theorem toNat_uFloat16MaxValue : uFloat16MaxValue.toNat = 4095 * 2 ^ 30 := by decide

/-! ## The encoder's binary search -/

/-- One round of the loop of `writeUfloat16`: shift by `offset` when the value has at least
`12 + offset` bits. -/
def exponentStep (acc : UInt16 × UInt64) (offset : UInt16) : UInt16 × UInt64 :=
  if acc.2 ≥ goShl 1 (11 + offset : UInt16).toNat then (acc.1 + offset, acc.2 >>> offset.toUInt64)
  else acc

theorem ufloat16Bits_eq_foldl {v : UInt64} (hlo : ¬ v < (1 : UInt64) <<< 12)
    (hhi : ¬ v ≥ uFloat16MaxValue) :
    ufloat16Bits v =
      (([16, 8, 4, 2, 1] : List UInt16).foldl exponentStep (0, v)).2.toUInt16 +
        ((([16, 8, 4, 2, 1] : List UInt16).foldl exponentStep (0, v)).1 <<< 11) := by
  rw [ufloat16Bits, if_neg hlo, if_neg hhi]
  rfl

/-- What holds between the rounds of the search for `v`, with `b` twice the next offset (and 1
after the last round): the value left is `v` shifted by the exponent, it keeps at least 12 bits
and has fewer than `11 + b`, and the exponent leaves room for `b` more. -/
def SearchInv (v : UInt64) (b : Nat) (acc : UInt16 × UInt64) : Prop :=
  acc.2.toNat = v.toNat / 2 ^ acc.1.toNat ∧ 2 ^ 11 ≤ acc.2.toNat ∧ acc.2.toNat < 2 ^ (11 + b) ∧
    acc.1.toNat + b ≤ 32

/-- The round of offset `o` halves the number of bits the value may have above 12. -/
theorem searchInv_exponentStep {v : UInt64} {acc : UInt16 × UInt64} {o : UInt16}
    (ho : 1 ≤ o.toNat) (ho' : o.toNat ≤ 16) (h : SearchInv v (2 * o.toNat) acc) :
    SearchInv v o.toNat (exponentStep acc o) := by
  obtain ⟨hval, hlo, hhi, hexp⟩ := h
  have hthr : (goShl 1 (11 + o : UInt16).toNat).toNat = 2 ^ (11 + o.toNat) := by
    have hadd : (11 + o : UInt16).toNat = 11 + o.toNat := by
      rw [UInt16.toNat_add, Nat.mod_eq_of_lt (by simp only [UInt16.reduceToNat]; omega)]
      rfl
    rw [hadd, toNat_goShl_one (by omega)]
  unfold exponentStep
  split_ifs with hge
  · -- the value has at least `12 + o` bits: shift `o` of them out into the exponent
    rw [ge_iff_le, UInt64.le_iff_toNat_le, hthr] at hge
    have hsh : (acc.2 >>> o.toUInt64).toNat = acc.2.toNat / 2 ^ o.toNat := by
      rw [UInt64.toNat_shiftRight, UInt16.toNat_toUInt64, Nat.mod_eq_of_lt (by omega),
        Nat.shiftRight_eq_div_pow]
    have hadd : (acc.1 + o).toNat = acc.1.toNat + o.toNat := by
      rw [UInt16.toNat_add, Nat.mod_eq_of_lt (by omega)]
    refine ⟨?_, ?_, ?_, ?_⟩ <;> dsimp only
    · rw [hsh, hadd, hval, Nat.div_div_eq_div_mul, ← Nat.pow_add]
    · rw [hsh, Nat.le_div_iff_mul_le (Nat.two_pow_pos _), ← Nat.pow_add]
      exact hge
    · rw [hsh, Nat.div_lt_iff_lt_mul (Nat.two_pow_pos _), ← Nat.pow_add]
      calc acc.2.toNat < 2 ^ (11 + 2 * o.toNat) := hhi
        _ = 2 ^ (11 + o.toNat + o.toNat) := by rw [Nat.add_assoc, Nat.two_mul]
    · rw [hadd]
      omega
  · rw [ge_iff_le, UInt64.le_iff_toNat_le, hthr, not_le] at hge
    exact ⟨hval, hlo, hge, by omega⟩

/-- After the five rounds the value left has exactly 12 bits. -/
theorem searchInv_foldl {v : UInt64} (hlo : 2 ^ 12 ≤ v.toNat) (hhi : v.toNat < 2 ^ 43) :
    SearchInv v 1 (([16, 8, 4, 2, 1] : List UInt16).foldl exponentStep (0, v)) := by
  have h32 : SearchInv v 32 (0, v) := ⟨by simp, show 2 ^ 11 ≤ v.toNat by omega, hhi, by simp⟩
  simp only [List.foldl_cons, List.foldl_nil]
  exact searchInv_exponentStep (by decide) (by decide) <|
    searchInv_exponentStep (o := 2) (by decide) (by decide) <|
    searchInv_exponentStep (o := 4) (by decide) (by decide) <|
    searchInv_exponentStep (o := 8) (by decide) (by decide) <|
    searchInv_exponentStep (o := 16) (by decide) (by decide) h32

/-- Between `2 ^ 12` and `uFloat16MaxValue` the encoder writes the top 12 bits of the value,
their leading one added into the exponent field. -/
theorem ufloat16Bits_mid {v : UInt64} (hlo : ¬ v < (1 : UInt64) <<< 12)
    (hhi : ¬ v ≥ uFloat16MaxValue) :
    ∃ e, 1 ≤ e ∧ 2 ^ 11 ≤ v.toNat / 2 ^ e ∧ v.toNat / 2 ^ e < 2 ^ 12 ∧
      (ufloat16Bits v).toNat = v.toNat / 2 ^ e + 2 ^ 11 * e := by
  have hlo' : 2 ^ 12 ≤ v.toNat := by
    rwa [UInt64.lt_iff_toNat_lt, not_lt, toNat_one_shiftLeft_twelve] at hlo
  have hhi' : v.toNat < 4095 * 2 ^ 30 := by
    rwa [ge_iff_le, UInt64.le_iff_toNat_le, not_le, toNat_uFloat16MaxValue] at hhi
  obtain ⟨hval, hw, hw', hexp⟩ := searchInv_foldl hlo' (by omega)
  rw [ufloat16Bits_eq_foldl hlo hhi]
  generalize ([16, 8, 4, 2, 1] : List UInt16).foldl exponentStep (0, v) = acc at hval hw hw' hexp ⊢
  rw [hval] at hw hw'
  -- the exponent is not zero, since the value has more than 12 bits
  have he : 1 ≤ acc.1.toNat := by
    by_contra h0
    rw [show acc.1.toNat = 0 by omega, Nat.pow_zero, Nat.div_one] at hw'
    omega
  -- and at most 30, since it has fewer than 42: the exponent field does not overflow
  have he' : acc.1.toNat ≤ 30 := by
    by_contra h31
    have hp : 2 ^ 31 ≤ 2 ^ acc.1.toNat := Nat.pow_le_pow_right (by decide) (by omega)
    have hv := (Nat.le_div_iff_mul_le (Nat.two_pow_pos _)).mp hw
    have : 2 ^ 11 * 2 ^ 31 ≤ 2 ^ 11 * 2 ^ acc.1.toNat := Nat.mul_le_mul_left _ hp
    omega
  refine ⟨acc.1.toNat, he, hw, hw', ?_⟩
  rw [UInt16.toNat_add, UInt64.toNat_toUInt16, UInt16.toNat_shiftLeft, hval]
  simp only [UInt16.reduceToNat, Nat.reduceMod, Nat.shiftLeft_eq]
  omega

/-! ## The decoder -/

/-- A code below `2 ^ 12` is its own value. -/
theorem ufloat16Value_small {c : UInt16} (hc : c.toNat < 2 ^ 12) :
    ufloat16Value c = c.toUInt64 := by
  have h : c.toUInt64 < (1 : UInt64) <<< 12 := by
    rwa [UInt64.lt_iff_toNat_lt, UInt16.toNat_toUInt64, toNat_one_shiftLeft_twelve]
  rw [ufloat16Value]
  exact if_pos h

/-- A code of at least `2 ^ 12` is a 12-bit significand `w`, its leading one added into the
exponent field `e`, and decodes to `w * 2 ^ e`. -/
theorem ufloat16Value_normal {c : UInt16} {w e : Nat} (hc : c.toNat = w + 2 ^ 11 * e)
    (hw : 2 ^ 11 ≤ w) (hw' : w < 2 ^ 12) (he : 1 ≤ e) :
    (ufloat16Value c).toNat = w * 2 ^ e := by
  have hc16 := c.toNat_lt
  have he30 : e ≤ 30 := by omega
  have hsh : (c >>> 11).toNat = e + 1 := by
    rw [UInt16.toNat_shiftRight, Nat.shiftRight_eq_div_pow]
    simp only [UInt16.reduceToNat, Nat.reduceMod]
    omega
  -- un-offsetting the exponent field gives `e` back
  have hexp : ((c >>> 11) - 1).toNat = e := by
    rw [UInt16.toNat_sub_of_le _ _
      (UInt16.le_iff_toNat_le.mpr (by simp only [UInt16.reduceToNat]; omega)), hsh]
    rfl
  -- and subtracting `e << 11` clears the field but for the leading one of `w`
  have hmant : (c.toUInt64 - ((c >>> 11) - 1).toUInt64 <<< 11).toNat = w := by
    have hoff : (((c >>> 11) - 1).toUInt64 <<< 11).toNat = 2 ^ 11 * e := by
      rw [UInt64.toNat_shiftLeft, UInt16.toNat_toUInt64, hexp, Nat.shiftLeft_eq]
      simp only [UInt64.reduceToNat, Nat.reduceMod]
      omega
    rw [UInt64.toNat_sub_of_le _ _
        (UInt64.le_iff_toNat_le.mpr (by rw [hoff, UInt16.toNat_toUInt64]; omega)),
      hoff, UInt16.toNat_toUInt64]
    omega
  have hbound : w * 2 ^ e < 2 ^ 64 :=
    calc w * 2 ^ e < 2 ^ 12 * 2 ^ 30 :=
          Nat.mul_lt_mul_of_lt_of_le hw' (Nat.pow_le_pow_right (by decide) he30) (Nat.two_pow_pos _)
      _ ≤ 2 ^ 64 := by decide
  have hnormal : ¬ c.toUInt64 < (1 : UInt64) <<< 12 := by
    rw [UInt64.lt_iff_toNat_lt, UInt16.toNat_toUInt64, not_lt, toNat_one_shiftLeft_twelve]
    omega
  rw [ufloat16Value]
  dsimp only
  rw [if_neg hnormal, UInt64.toNat_shiftLeft, hmant, UInt16.toNat_toUInt64, hexp,
    Nat.mod_eq_of_lt (show e < 64 by omega), Nat.shiftLeft_eq, Nat.mod_eq_of_lt hbound]

theorem ufloat16Value_maxCode : ufloat16Value 0xFFFF = uFloat16MaxValue := by decide

/-! ## Rounding down -/

/-- Encoding and decoding `v` keeps its top 12 bits: the result is the largest number of at most
12 significant bits that is at most `v` and `uFloat16MaxValue`. -/
theorem ufloat16Value_ufloat16Bits_isGreatest (v : UInt64) :
    IsGreatest (Nat.roundDownSet 12 (min v.toNat uFloat16MaxValue.toNat))
      (ufloat16Value (ufloat16Bits v)).toNat := by
  by_cases hlo : v < (1 : UInt64) <<< 12
  · -- a value of at most 12 bits is written as itself
    have hv : v.toNat < 2 ^ 12 := by
      rwa [UInt64.lt_iff_toNat_lt, toNat_one_shiftLeft_twelve] at hlo
    have hcode : v.toUInt16.toNat = v.toNat := by
      rw [UInt64.toNat_toUInt16]
      omega
    rw [ufloat16Bits, if_pos hlo, ufloat16Value_small (by omega), UInt16.toNat_toUInt64, hcode,
      min_eq_left (by rw [toNat_uFloat16MaxValue]; omega)]
    simpa using Nat.isGreatest_div_mul (n := 12) (e := 0) (by simpa using hv) (.inl rfl)
  by_cases hhi : v ≥ uFloat16MaxValue
  · -- a value too large is clamped to the largest code
    have hmax : uFloat16MaxValue.toNat ≤ v.toNat := UInt64.le_iff_toNat_le.mp hhi
    rw [ufloat16Bits, if_neg hlo, if_pos hhi, ufloat16Value_maxCode, min_eq_right hmax,
      toNat_uFloat16MaxValue]
    have hdiv : 4095 * 2 ^ 30 / 2 ^ 30 = 4095 := by decide
    have h := Nat.isGreatest_div_mul (n := 12) (x := 4095 * 2 ^ 30) (e := 30)
      (by rw [hdiv]; decide) (.inr (by rw [hdiv]; decide))
    rwa [hdiv] at h
  · obtain ⟨e, he, hw, hw', hbits⟩ := ufloat16Bits_mid hlo hhi
    have hmin : min v.toNat uFloat16MaxValue.toNat = v.toNat :=
      min_eq_left (UInt64.le_iff_toNat_le.mp (UInt64.le_of_lt (UInt64.not_le.mp hhi)))
    rw [ufloat16Value_normal hbits hw hw' he, hmin]
    exact Nat.isGreatest_div_mul hw' (.inr hw)

/-- The value read back does not decrease with the value written. -/
theorem ufloat16Value_ufloat16Bits_mono {v w : UInt64} (h : v ≤ w) :
    ufloat16Value (ufloat16Bits v) ≤ ufloat16Value (ufloat16Bits w) := by
  rw [UInt64.le_iff_toNat_le]
  exact (ufloat16Value_ufloat16Bits_isGreatest v).mono (ufloat16Value_ufloat16Bits_isGreatest w)
    (Nat.roundDownSet_mono 12 (min_le_min_right _ (UInt64.le_iff_toNat_le.mp h)))

/-- Every code is the encoding of its value: no two codes decode to the same value. -/
theorem ufloat16Bits_ufloat16Value (c : UInt16) : ufloat16Bits (ufloat16Value c) = c := by
  by_cases hc : c.toNat < 2 ^ 12
  · have hlo : c.toUInt64 < (1 : UInt64) <<< 12 := by
      rwa [UInt64.lt_iff_toNat_lt, UInt16.toNat_toUInt64, toNat_one_shiftLeft_twelve]
    rw [ufloat16Value_small hc, ufloat16Bits, if_pos hlo]
    apply UInt16.toNat_inj.mp
    rw [UInt64.toNat_toUInt16, UInt16.toNat_toUInt64]
    omega
  -- split the code into its significand, leading one restored, and its exponent
  have hc16 := c.toNat_lt
  obtain ⟨w, e, hcwe, hw, hw', he⟩ : ∃ w e, c.toNat = w + 2 ^ 11 * e ∧ 2 ^ 11 ≤ w ∧ w < 2 ^ 12 ∧
      1 ≤ e := ⟨c.toNat % 2 ^ 11 + 2 ^ 11, c.toNat / 2 ^ 11 - 1, by omega, by omega, by omega,
        by omega⟩
  have hval := ufloat16Value_normal hcwe hw hw' he
  have hlo : ¬ ufloat16Value c < (1 : UInt64) <<< 12 := by
    rw [UInt64.lt_iff_toNat_lt, hval, toNat_one_shiftLeft_twelve, not_lt]
    calc 2 ^ 12 = 2 ^ 11 * 2 ^ 1 := by decide
      _ ≤ w * 2 ^ e := Nat.mul_le_mul hw (Nat.pow_le_pow_right (by decide) he)
  by_cases hhi : ufloat16Value c ≥ uFloat16MaxValue
  · -- only the largest code decodes to `uFloat16MaxValue` or more
    rw [ge_iff_le, UInt64.le_iff_toNat_le, hval, toNat_uFloat16MaxValue] at hhi
    have he30 : e = 30 := by
      by_contra hne
      have hp : 2 ^ e ≤ 2 ^ 29 := Nat.pow_le_pow_right (by decide) (by omega)
      have : w * 2 ^ e ≤ 4095 * 2 ^ 29 := Nat.mul_le_mul (by omega) hp
      omega
    subst he30
    have hw4095 : 4095 ≤ w := Nat.le_of_mul_le_mul_right hhi (Nat.two_pow_pos 30)
    have hmax : ufloat16Value c ≥ uFloat16MaxValue := by
      rw [ge_iff_le, UInt64.le_iff_toNat_le, hval, toNat_uFloat16MaxValue]
      exact hhi
    rw [ufloat16Bits, if_neg hlo, if_pos hmax]
    apply UInt16.toNat_inj.mp
    rw [hcwe]
    simp only [UInt16.reduceToNat]
    omega
  · -- the encoder finds the exponent again, the only one that leaves 12 bits
    obtain ⟨e', -, hw₁, hw₁', hbits⟩ := ufloat16Bits_mid hlo hhi
    rw [hval] at hw₁ hw₁' hbits
    have hdiv : w * 2 ^ e / 2 ^ e = w := Nat.mul_div_cancel w (Nat.two_pow_pos e)
    have he' : e' = e :=
      Nat.eq_of_div_two_pow_mem hw₁ hw₁' (by rw [hdiv]; exact hw) (by rw [hdiv]; exact hw')
    rw [he', hdiv] at hbits
    exact UInt16.toNat_inj.mp (hbits.trans hcwe.symm)

/-! ## The codec -/

theorem ufloat16_monotone_roundDown :
    (∀ (o : ByteOrder) (v : UInt64) (rest : List UInt8),
      o.ReadUfloat16 (o.WriteUfloat16 v ++ rest) = .ok (ufloat16Value (ufloat16Bits v), rest)) ∧
    (∀ v : UInt64, IsGreatest (Nat.roundDownSet 12 (min v.toNat uFloat16MaxValue.toNat))
      (ufloat16Value (ufloat16Bits v)).toNat) ∧
    (∀ v w : UInt64, v ≤ w → ufloat16Value (ufloat16Bits v) ≤ ufloat16Value (ufloat16Bits w)) ∧
    ∀ c : UInt16, ufloat16Bits (ufloat16Value c) = c :=
  ⟨ByteOrder.ReadUfloat16_WriteUfloat16, ufloat16Value_ufloat16Bits_isGreatest,
    fun _ _ => ufloat16Value_ufloat16Bits_mono, ufloat16Bits_ufloat16Value⟩

end Utils
end PStream
