import Mathlib.Data.Nat.Bitwise
import Mathlib.Order.Bounds.Basic
import Mathlib.Algebra.Order.Group.Nat
import Mathlib.Data.Nat.Factorization.Basic
import Mathlib.Tactic.IntervalCases
import Mathlib.Tactic.Ring
import Mathlib.Data.Nat.Dist

/-!
# Facts about numbers that fixed-width code relies on

The bytes of a number and the masks of its high bits, the numbers a floating-point format with a
few significant bits holds, how far a power of two divides a product, and the nearest member of
a residue class.
-/

set_option autoImplicit false

/-!
## Bytes of a natural number

A reader of a fixed-width integer puts the value back together byte by byte, with an exclusive or
of each byte shifted to its place.  The bits already there and the byte shifted in never overlap,
so the exclusive or, like the inclusive one, is a sum, and the bytes of a number modulo
`2 ^ (8 * n)` are its low bytes.
A mask of the high bits rounds a number down to a multiple of the power of two below them.
-/


namespace Nat

/-- Bits below `2 ^ m` and a multiple of `2 ^ m` do not overlap: their exclusive or is their sum. -/
theorem two_pow_mul_add_eq_xor {m : Nat} (a : Nat) {b : Nat} (hb : b < 2 ^ m) :
    2 ^ m * a + b = 2 ^ m * a ^^^ b := by
  apply Nat.eq_of_testBit_eq
  intro j
  -- the lemma that splits the bits of `2 ^ m * a + b` splits those of each side too
  have ha := Nat.testBit_two_pow_mul_add a (Nat.two_pow_pos m) j
  have hb' := Nat.testBit_two_pow_mul_add 0 hb j
  rw [Nat.add_zero] at ha
  rw [Nat.mul_zero, Nat.zero_add] at hb'
  rw [Nat.testBit_two_pow_mul_add a hb, Nat.testBit_xor, ha, hb']
  split_ifs <;> simp

/-- The same for an inclusive or. -/
theorem two_pow_mul_add_eq_or {m : Nat} (a : Nat) {b : Nat} (hb : b < 2 ^ m) :
    2 ^ m * a + b = 2 ^ m * a ||| b := by
  apply Nat.eq_of_testBit_eq
  intro j
  have ha := Nat.testBit_two_pow_mul_add a (Nat.two_pow_pos m) j
  have hb' := Nat.testBit_two_pow_mul_add 0 hb j
  rw [Nat.add_zero] at ha
  rw [Nat.mul_zero, Nat.zero_add] at hb'
  rw [Nat.testBit_two_pow_mul_add a hb, Nat.testBit_or, ha, hb']
  split_ifs <;> simp

/-- The same with the low bits first. -/
theorem or_two_pow_mul_eq_add {m : Nat} (a : Nat) {b : Nat} (hb : b < 2 ^ m) :
    b ||| 2 ^ m * a = b + 2 ^ m * a := by
  rw [Nat.lor_comm, ← two_pow_mul_add_eq_or a hb, Nat.add_comm]

/-- Byte `k` of a number is byte `k` of its low `n` bytes, for `k < n`. -/
theorem div_byte_mod_eq {k n : Nat} (v : Nat) (hk : k < n) :
    v / 2 ^ (8 * k) % 2 ^ 8 = v % 2 ^ (8 * n) / 2 ^ (8 * k) % 2 ^ 8 := by
  have hsplit : 2 ^ (8 * n) = 2 ^ (8 * k) * 2 ^ (8 * (n - k)) := by
    rw [← Nat.pow_add]
    congr 1
    omega
  rw [hsplit, Nat.mod_mul_right_div_self,
    Nat.mod_mod_of_dvd _ (Nat.pow_dvd_pow 2 (by omega : 8 ≤ 8 * (n - k)))]

/-- Masking away the low `k` bits of a number below `2 ^ (k + n)` rounds it down to a multiple of
`2 ^ k`. -/
theorem and_two_pow_mul_two_pow_sub_one {k n x : Nat} (hx : x < 2 ^ (k + n)) :
    x &&& 2 ^ k * (2 ^ n - 1) = x / 2 ^ k * 2 ^ k := by
  apply Nat.eq_of_testBit_eq
  intro j
  -- all three numbers split at bit `k` into a multiple of `2 ^ k` and a rest below it
  have hxk := Nat.testBit_two_pow_mul_add (x / 2 ^ k) (Nat.mod_lt x (Nat.two_pow_pos k)) j
  have hmask := Nat.testBit_two_pow_mul_add (2 ^ n - 1) (Nat.two_pow_pos k) j
  have hres := Nat.testBit_two_pow_mul_add (x / 2 ^ k) (Nat.two_pow_pos k) j
  rw [Nat.div_add_mod] at hxk
  rw [Nat.add_zero] at hmask hres
  rw [Nat.testBit_and, hxk, hmask, Nat.mul_comm, hres]
  split_ifs with hj
  · simp
  · by_cases hjn : j - k < n
    · simp [hjn]
    · -- above bit `k + n` the quotient has no bits left
      have hq : x / 2 ^ k < 2 ^ (j - k) := by
        rw [Nat.div_lt_iff_lt_mul (Nat.two_pow_pos k), ← Nat.pow_add]
        exact lt_of_lt_of_le hx (Nat.pow_le_pow_right (by omega) (by omega))
      simp [hjn, Nat.testBit_lt_two_pow hq]

end Nat

/-!
## Numbers of a few significant bits

A number has at most `n` significant bits when it is `m * 2 ^ k` for some `m < 2 ^ n`.  A binary
floating-point format with an `n`-bit significand and no bound on its exponent holds exactly
these numbers.

The greatest such number below `x` keeps the top `n` bits of `x`.  It is `x / 2 ^ e * 2 ^ e` for
the `e` that leaves `x / 2 ^ e` with exactly `n` bits, or `x` itself when `x` has at most `n` bits
(`isGreatest_div_mul`).  Only one `e` leaves exactly `n` bits (`eq_of_div_two_pow_mem`), and
rounding down this way is monotone (`roundDownSet_mono` with `IsGreatest.mono`).
-/


namespace Nat

/-- `x` has at most `n` significant bits. -/
def HasSignificantBits (n x : Nat) : Prop := ∃ m k, m < 2 ^ n ∧ x = m * 2 ^ k

/-- The numbers of at most `n` significant bits that are at most `x`. -/
def roundDownSet (n x : Nat) : Set Nat := {y | y ≤ x ∧ HasSignificantBits n y}

theorem roundDownSet_mono (n : Nat) {x x' : Nat} (h : x ≤ x') :
    roundDownSet n x ⊆ roundDownSet n x' :=
  fun _ hy => ⟨le_trans hy.1 h, hy.2⟩

/-- Keeping the bits of `x` from bit `e` up gives the greatest number of at most `n` significant
bits below `x`, when `x / 2 ^ e` has at most `n` bits, and exactly `n` unless nothing is
dropped. -/
theorem isGreatest_div_mul {n x e : Nat} (hlt : x / 2 ^ e < 2 ^ n)
    (hge : e = 0 ∨ 2 ^ (n - 1) ≤ x / 2 ^ e) :
    IsGreatest (roundDownSet n x) (x / 2 ^ e * 2 ^ e) := by
  refine ⟨⟨Nat.div_mul_le_self x _, _, _, hlt, rfl⟩, ?_⟩
  rintro y ⟨hy, m, k, hm, rfl⟩
  by_cases hk : e ≤ k
  · -- a multiple of `2 ^ e` below `x` is below the largest one
    have hsplit : m * 2 ^ k = m * 2 ^ (k - e) * 2 ^ e := by
      rw [Nat.mul_assoc, ← Nat.pow_add, Nat.sub_add_cancel hk]
    rw [hsplit] at hy ⊢
    exact Nat.mul_le_mul_right _ ((Nat.le_div_iff_mul_le (Nat.two_pow_pos e)).mpr hy)
  · -- a number of fewer bits than `x / 2 ^ e * 2 ^ e` is below its top bit
    have he : 2 ^ (n - 1) ≤ x / 2 ^ e := hge.resolve_left (by omega)
    calc m * 2 ^ k ≤ 2 ^ n * 2 ^ k := Nat.mul_le_mul_right _ (Nat.le_of_lt hm)
      _ ≤ 2 ^ (n - 1) * 2 ^ (k + 1) := by
        rw [← Nat.pow_add, ← Nat.pow_add]
        exact Nat.pow_le_pow_right (by decide) (by omega)
      _ ≤ 2 ^ (n - 1) * 2 ^ e := Nat.mul_le_mul_left _ (Nat.pow_le_pow_right (by decide) (by omega))
      _ ≤ x / 2 ^ e * 2 ^ e := Nat.mul_le_mul_right _ he

/-- Dividing by a larger power of two leaves at most half as much. -/
theorem div_two_pow_le_half {x a b : Nat} (h : a < b) : x / 2 ^ b ≤ x / 2 ^ a / 2 := by
  rw [Nat.div_div_eq_div_mul, ← Nat.pow_succ]
  exact Nat.div_le_div_left (Nat.pow_le_pow_right (by decide) h) (Nat.two_pow_pos _)

/-- Only one shift leaves exactly `m + 1` bits. -/
theorem eq_of_div_two_pow_mem {x a b m : Nat} (ha : 2 ^ m ≤ x / 2 ^ a) (ha' : x / 2 ^ a < 2 ^ (m + 1))
    (hb : 2 ^ m ≤ x / 2 ^ b) (hb' : x / 2 ^ b < 2 ^ (m + 1)) : a = b := by
  have hhalf : ∀ {a b}, x / 2 ^ a < 2 ^ (m + 1) → 2 ^ m ≤ x / 2 ^ b → ¬ a < b := by
    intro a b ha' hb hab
    have h := div_two_pow_le_half (x := x) hab
    rw [Nat.pow_succ] at ha'
    have : x / 2 ^ a / 2 < 2 ^ m := (Nat.div_lt_iff_lt_mul (by decide)).mpr ha'
    omega
  rcases Nat.lt_trichotomy a b with hab | rfl | hab
  · exact absurd hab (hhalf ha' hb)
  · rfl
  · exact absurd hab (hhalf hb' ha)

end Nat

/-!
## Powers of a prime in products and squares

How far a power of a prime divides a product or a square, read off the exponent of the prime in
the factorization: the exponents add under a product and double under a square.  With `p = 2` these
are the facts about the low bits of a wrapped product, `(a * b) % 2 ^ w = 0`, that decide when a
machine multiplication wraps to zero.
-/


namespace Nat

variable {p : Nat}

/-- A number below `p ^ i` has fewer than `i` factors `p`. -/
theorem factorization_lt_of_lt_pow (hp : p.Prime) {n i : Nat} (hn : n ≠ 0) (h : n < p ^ i) :
    n.factorization p < i :=
  (Nat.pow_lt_pow_iff_right hp.one_lt).mp (lt_of_le_of_lt (Nat.ordProj_le p hn) h)

/-- Two positive numbers below `p ^ i` and `p ^ j` have a product with fewer than `i + j - 1`
factors `p`. -/
theorem not_pow_dvd_mul_of_lt (hp : p.Prime) {a b i j : Nat} (ha₀ : a ≠ 0) (hb₀ : b ≠ 0)
    (ha : a < p ^ i) (hb : b < p ^ j) : ¬ p ^ (i + j - 1) ∣ a * b := by
  rw [hp.pow_dvd_iff_le_factorization (Nat.mul_ne_zero ha₀ hb₀), Nat.factorization_mul ha₀ hb₀,
    Finsupp.add_apply]
  have hai := factorization_lt_of_lt_pow hp ha₀ ha
  have hbj := factorization_lt_of_lt_pow hp hb₀ hb
  omega

/-- What `a` lacks of `p ^ (i + j)` dividing `a * b`, beyond `p ^ i`, `b` supplies. -/
theorem pow_dvd_of_pow_dvd_mul (hp : p.Prime) {a b i j : Nat} (ha : ¬ p ^ (i + 1) ∣ a)
    (h : p ^ (i + j) ∣ a * b) : p ^ j ∣ b := by
  by_cases hb₀ : b = 0
  · rw [hb₀]
    exact Nat.dvd_zero _
  have ha₀ : a ≠ 0 := by
    rintro rfl
    exact ha (Nat.dvd_zero _)
  rw [hp.pow_dvd_iff_le_factorization ha₀] at ha
  rw [hp.pow_dvd_iff_le_factorization (Nat.mul_ne_zero ha₀ hb₀), Nat.factorization_mul ha₀ hb₀,
    Finsupp.add_apply] at h
  rw [hp.pow_dvd_iff_le_factorization hb₀]
  omega

/-- A square has an even number of factors `p`: if `p ^ (2k+1)` divides `n ^ 2`, so does
`p ^ (2k+2)`, and `p ^ (k+1)` divides `n`. -/
theorem pow_dvd_of_pow_dvd_sq (hp : p.Prime) {n k : Nat} (h : p ^ (2 * k + 1) ∣ n ^ 2) :
    p ^ (k + 1) ∣ n := by
  by_cases hn : n = 0
  · rw [hn]
    exact Nat.dvd_zero _
  rw [hp.pow_dvd_iff_le_factorization (pow_ne_zero 2 hn), Nat.factorization_pow,
    Finsupp.smul_apply, smul_eq_mul] at h
  rw [hp.pow_dvd_iff_le_factorization hn]
  omega

/-- The square of a multiple of `2 ^ k` is `2 ^ (2k)` times an odd or an even square, which leaves
at most `2 ^ (2k)` modulo `2 ^ (2k+2)`. -/
theorem sq_mod_two_pow_le {n k : Nat} (h : 2 ^ k ∣ n) : n ^ 2 % 2 ^ (2 * k + 2) ≤ 2 ^ (2 * k) := by
  obtain ⟨m, rfl⟩ := h
  have hsq : (2 ^ k * m) ^ 2 = 2 ^ (2 * k) * m ^ 2 := by ring
  have hmod : 2 ^ (2 * k + 2) = 2 ^ (2 * k) * 4 := by ring
  -- an odd square is `1` modulo `4`, an even one `0`
  have hm : m ^ 2 % 4 ≤ 1 := by
    rw [Nat.pow_mod]
    have h4 := Nat.mod_lt m (show 4 > 0 by norm_num)
    interval_cases m % 4 <;> norm_num
  rw [hsq, hmod, Nat.mul_mod_mul_left]
  calc 2 ^ (2 * k) * (m ^ 2 % 4) ≤ 2 ^ (2 * k) * 1 := Nat.mul_le_mul_left _ hm
    _ = 2 ^ (2 * k) := Nat.mul_one _

end Nat

/-!
## The nearest member of a residue class

Two different numbers with the same remainder modulo `E` lie at least `E` apart.  So a number
closer than `E / 2` to a target is strictly closer to it than every other member of its class,
and a member of the class within `E` of it is the number itself.  This is what lets a number sent
modulo `E` be put back together from a guess that is off by less than `E / 2`.
-/


namespace Nat

variable {E x y t : Nat}

theorem le_dist_of_mod_eq (hxy : x % E = y % E) (hne : x ≠ y) : E ≤ dist x y := by
  rcases Nat.lt_or_gt_of_ne hne with hlt | hlt
  · have hdvd : E ∣ y - x := Nat.dvd_of_mod_eq_zero (Nat.sub_mod_eq_zero_of_mod_eq hxy.symm)
    rw [Nat.dist_eq_sub_of_le hlt.le]
    exact Nat.le_of_dvd (by omega) hdvd
  · have hdvd : E ∣ x - y := Nat.dvd_of_mod_eq_zero (Nat.sub_mod_eq_zero_of_mod_eq hxy)
    rw [Nat.dist_eq_sub_of_le_right hlt.le]
    exact Nat.le_of_dvd (by omega) hdvd

theorem eq_of_mod_eq_of_dist_lt (hxy : x % E = y % E) (hd : dist x y < E) : x = y :=
  Classical.byContradiction fun hne => absurd (le_dist_of_mod_eq hxy hne) (Nat.not_le.mpr hd)

/-- A number closer than `E / 2` to `t` is strictly closer than any other number with its
remainder modulo `E`. -/
theorem dist_lt_dist_of_mod_eq (hxy : x % E = y % E) (hne : x ≠ y) (hx : 2 * dist x t < E) :
    dist x t < dist y t := by
  have hE := le_dist_of_mod_eq hxy hne
  have htri := Nat.dist.triangle_inequality x t y
  rw [Nat.dist_comm t y] at htri
  omega

end Nat
