import PStream.Lib.Numbers
import PStream.Congestion.OliaBounds

/-!
# The minimum window: kept by up to 127 paths, lost at 128

`CongestionWindowAfterAck` takes a packet off once the counter reaches `-1023`, down to one packet
and not to `minCongestionWindow`.  Every other call keeps the window at or above the minimum of two
packets, so the question is whether a sender at two packets can meet that decrease.

A sender in `M` (epsilon `-1`) subtracts, but at two packets it is in `M` only if every path is at
two packets, and then no path is outside `M` and `getEpsilon` gives everyone epsilon `0`.  Every
other sender adds the `uint64` quotient `(incNum << 10) / incDen` converted to `int`; the sum can
only fall to `-1023` if the quotient is at least `2 ^ 63 - 1023`.  That needs `incDen` to be `1` or
`2`, and at two packets `incDen = epsilonDen · 2 · rate` is even, so it must have wrapped to `0`.
With `rate` a square and `epsilonDen = len · BNotM` for fewer than 128 paths, the powers of two
in `epsilonDen · 2 · rate` then force `rate` to a multiple of `2 ^ 52` modulo `2 ^ 54`, which keeps
`incNum << 10` below `2 ^ 63` (`increment_lt_of_floor`).  So the window never drops below the
minimum while the map has fewer than 128 senders (`SendersFloor.runOlia`).

At 128 paths, 64 of them at a larger window, `epsilonDen = 128 · 64 = 2 ^ 13` and a rate of
`(3 · 2 ^ 25) ^ 2` make `incDen` wrap to `0` and `incNum << 10` reach `9 · 2 ^ 60 + 2 ^ 45`, whose
`int` is negative: the increase takes the window from two packets to one
(`runOlia_window_below_minimum`).
-/

set_option autoImplicit false

namespace PStream
namespace Congestion

open Protocol Utils

/-! ## The arithmetic at a two-packet window -/

theorem toNat_oliaScale (x : UInt64) : (oliaScale x scale).toNat = x.toNat % 2 ^ 54 * 2 ^ 10 := by
  have hscale : scale.toNat % 64 = 10 := by decide
  rw [oliaScale, UInt64.toNat_shiftLeft, hscale, Nat.shiftLeft_eq,
    show (2 : Nat) ^ 64 = 2 ^ 54 * 2 ^ 10 by norm_num, Nat.mul_mod_mul_right]

/-- When `E · 2 · r ^ 2` wraps to zero in 64 bits and `E` has fewer than 13 factors two, the
square keeps at most `2 ^ 52` modulo `2 ^ 54`. -/
theorem sq_mod_le_of_wrap {E R r : Nat} (hE13 : ¬ 2 ^ 13 ∣ E) (hR : R = r ^ 2 % 2 ^ 64)
    (hzero : E * 2 * R % 2 ^ 64 = 0) : R % 2 ^ 54 ≤ 2 ^ 52 := by
  -- the product wrapped to zero: `2 ^ 63` divides `E · R`, so `2 ^ 51` divides the square `R`
  have hER : 2 ^ (12 + 51) ∣ E * R := by
    have h64 : 2 * 2 ^ (12 + 51) ∣ 2 * (E * R) := by
      rw [show 2 * (E * R) = E * 2 * R by ring, show 2 * 2 ^ (12 + 51) = 2 ^ 64 by norm_num]
      exact Nat.dvd_of_mod_eq_zero hzero
    exact Nat.dvd_of_mul_dvd_mul_left (by norm_num) h64
  have hR51 : 2 ^ (2 * 25 + 1) ∣ r ^ 2 := by
    rw [hR] at hER
    exact (Nat.dvd_mod_iff (Nat.pow_dvd_pow 2 (by norm_num))).mp
      (Nat.pow_dvd_of_pow_dvd_mul Nat.prime_two hE13 hER)
  -- and a square that `2 ^ 26` divides leaves at most `2 ^ 52` modulo `2 ^ 54`
  have hsq := Nat.sq_mod_two_pow_le (Nat.pow_dvd_of_pow_dvd_sq Nat.prime_two hR51)
  rw [hR, Nat.mod_mod_of_dvd _ (Nat.pow_dvd_pow 2 (by norm_num))]
  exact hsq

/-- A wrapped `2 · E · R` equal to `2` and a numerator `R + E · 2 ^ 22` of all ones in its low
54 bits exclude each other for `E` below `2 ^ 14`. -/
theorem incNum_mod_ne_of_two {E R : Nat} (hE : E < 2 ^ 14) (h2 : 2 * (E * R) % 2 ^ 64 = 2) :
    (R + E * 2 ^ 22) % 2 ^ 54 ≠ 2 ^ 54 - 1 := by
  intro hX1
  -- `E · R ≡ 1` modulo `2 ^ 22`
  have hP : E * R % 2 ^ 22 = 1 := by
    generalize E * R = P at h2 ⊢
    omega
  -- `R ≡ -1` modulo `2 ^ 22`
  have hR22 : R % 2 ^ 22 = 2 ^ 22 - 1 := by
    have h22 := congrArg (· % 2 ^ 22) hX1
    simp only [Nat.mod_mod_of_dvd _ (Nat.pow_dvd_pow 2 (by norm_num : 22 ≤ 54)),
      Nat.add_mul_mod_self_right] at h22
    rw [h22]
    norm_num
  rw [Nat.mul_mod, hR22, Nat.mod_eq_of_lt (by omega : E < 2 ^ 22)] at hP
  norm_num at hP
  omega

/-- The increment a non-`M` sender adds at a two-packet window, `(incNum << 10) / incDen` with
`incNum = rate + E · 2 ^ 22` and `incDen = E · 2 · rate` read in 64 bits, stays below
`2 ^ 63 - 1023` when the rate is a square and `E` is below `2 ^ 14` with fewer than 13 factors
two. -/
theorem increment_lt_of_floor {E R N D r : Nat} (hE : E < 2 ^ 14) (hE13 : ¬ 2 ^ 13 ∣ E)
    (hR : R = r ^ 2 % 2 ^ 64) (hN : N = (R + E * 2 ^ 22) % 2 ^ 64)
    (hD : D = if E * 2 * R % 2 ^ 64 = 0 then 1 else E * 2 * R % 2 ^ 64) :
    N % 2 ^ 54 * 2 ^ 10 / D + 1023 < 2 ^ 63 := by
  have hNmod : N % 2 ^ 54 = (R + E * 2 ^ 22) % 2 ^ 54 := by
    rw [hN, Nat.mod_mod_of_dvd _ (Nat.pow_dvd_pow 2 (by norm_num))]
  have hX : N % 2 ^ 54 < 2 ^ 54 := Nat.mod_lt _ (by norm_num)
  by_cases hzero : E * 2 * R % 2 ^ 64 = 0
  · -- `incDen` wrapped to zero and reads as one, but then the numerator is below `2 ^ 53`
    rw [hD, if_pos hzero, Nat.div_one]
    have hsq := sq_mod_le_of_wrap hE13 hR hzero
    have hle : N % 2 ^ 54 ≤ R % 2 ^ 54 + E * 2 ^ 22 := by
      rw [hNmod, Nat.add_mod]
      exact le_trans (Nat.mod_le _ _) (Nat.add_le_add_left (Nat.mod_le _ _) _)
    omega
  rw [if_neg hzero] at hD
  -- a wrapped even product is even, so `incDen` is `2` or at least `4`
  have heven : D % 2 = 0 := by
    rw [hD, Nat.mod_mod_of_dvd _ (by norm_num : 2 ∣ 2 ^ 64), Nat.mul_mod, Nat.mul_mod E 2]
    simp
  by_cases htwo : D = 2
  · have hne := incNum_mod_ne_of_two hE (by rw [show 2 * (E * R) = E * 2 * R by ring, ← hD, htwo])
    rw [← hNmod] at hne
    rw [htwo]
    generalize N % 2 ^ 54 = X at hX hne ⊢
    rw [show X * 2 ^ 10 / 2 = X * 2 ^ 9 by
      rw [show (2 : Nat) ^ 10 = 2 ^ 9 * 2 by norm_num, ← Nat.mul_assoc, Nat.mul_div_cancel _ (by norm_num)]]
    omega
  have hD3 : 3 ≤ D := by
    have hD0 : D ≠ 0 := by rw [hD]; exact hzero
    omega
  calc N % 2 ^ 54 * 2 ^ 10 / D + 1023
      ≤ N % 2 ^ 54 * 2 ^ 10 / 3 + 1023 := Nat.add_le_add_right (Nat.div_le_div_left hD3 (by norm_num)) _
    _ < 2 ^ 63 := by omega

/-- An `int` near zero plus a `uint64` below `2 ^ 63 - 1023`, converted, adds without wrapping. -/
theorem toInt_add_toInt64 {a : Int64} {q : UInt64} (hq : q.toNat + 1023 < 2 ^ 63)
    (ha : -1023 < a.toInt) (ha' : a.toInt < 1023) :
    (a + q.toInt64).toInt = a.toInt + q.toNat := by
  have hq' : q.toInt64.toInt = q.toNat := by
    rw [← Int64.toInt_toBitVec, UInt64.toBitVec_toInt64, BitVec.toInt_eq_toNat_bmod]
    exact Int.bmod_eq_of_le (by omega) (by simp; omega)
  rw [Int64.toInt_add, hq']
  exact Int.bmod_eq_of_le (by omega) (by omega)

/-- What epsilon a sender at two packets can have: `0` over `1`, or `1` over a denominator below
`2 ^ 14` with fewer than 13 factors two. -/
def EpsilonAtFloor (o : Olia) : Prop :=
  o.epsilonNum = 0 ∧ o.epsilonDen = 1 ∨
    o.epsilonNum = 1 ∧ o.epsilonDen.toNat < 2 ^ 14 ∧ ¬ 2 ^ 13 ∣ o.epsilonDen.toNat

theorem toNat_incDen_two (o : Olia) (rate : ByteCount) :
    (o.incDen 2 rate).toNat =
      if o.epsilonDen.toNat * 2 * rate.toNat % 2 ^ 64 = 0 then 1
      else o.epsilonDen.toNat * 2 * rate.toNat % 2 ^ 64 := by
  have hprod : (o.epsilonDen.toUInt64 * 2 * rate).toNat =
      o.epsilonDen.toNat * 2 * rate.toNat % 2 ^ 64 := by
    rw [UInt64.toNat_mul, UInt64.toNat_mul, UInt32.toNat_toUInt64, Nat.mod_mul_mod]
    rfl
  simp only [Olia.incDen]
  by_cases h0 : o.epsilonDen.toUInt64 * 2 * rate = 0
  · rw [if_pos h0, if_pos (by rw [← hprod, h0]; rfl)]
    rfl
  · rw [if_neg h0, if_neg (fun h => h0 (UInt64.toNat_inj.mp (by rw [hprod, h]; rfl))), hprod]

/-- `incNum` at a two-packet window, `epsilonNum · rate + epsilonDen · 2048 · 2048`, read in 64
bits: the second term never wraps. -/
theorem toNat_incNum_two (o : Olia) (rate : ByteCount) :
    (o.epsilonNum.toUInt64 * rate + o.epsilonDen.toUInt64 * 2048 * 2048).toNat =
      (o.epsilonNum.toUInt64.toNat * rate.toNat + o.epsilonDen.toNat * 2 ^ 22) % 2 ^ 64 := by
  have hden := o.epsilonDen.toNat_lt
  have hsq : (o.epsilonDen.toUInt64 * 2048 * 2048).toNat = o.epsilonDen.toNat * 2 ^ 22 := by
    rw [UInt64.toNat_mul, UInt64.toNat_mul, UInt32.toNat_toUInt64,
      show (2048 : UInt64).toNat = 2048 from rfl, Nat.mod_eq_of_lt (by omega),
      Nat.mod_eq_of_lt (by omega)]
    ring
  rw [UInt64.toNat_add, UInt64.toNat_mul, hsq, Nat.mod_add_mod]

/-- A sender outside `M` at two packets never pushes its counter to the decrease: the counter stays
above `-1023` whatever square rate it meets. -/
theorem countAfterAck_at_floor (o : Olia) (heps : EpsilonAtFloor o)
    (hcnt : -1023 < o.sndCwndCnt.toInt) (hcnt' : o.sndCwndCnt.toInt < 1023) (r : UInt64) :
    -1023 < (o.countAfterAck 2 (r * r) (oliaScale 2 scale)).toInt := by
  have hne : o.epsilonNum ≠ -1 := by
    rcases heps with ⟨h, -⟩ | ⟨h, -⟩ <;> rw [h] <;> decide
  have hcs : oliaScale 2 scale = 2048 := by decide
  simp only [Olia.countAfterAck, if_neg hne, hcs]
  -- the quotient is small enough to add as a non-negative `int`
  suffices hq : (oliaScale (o.epsilonNum.toUInt64 * (r * r) + o.epsilonDen.toUInt64 * 2048 * 2048)
      scale / o.incDen 2 (r * r)).toNat + 1023 < 2 ^ 63 by
    rw [toInt_add_toInt64 hq hcnt hcnt']
    omega
  rw [UInt64.toNat_div, toNat_oliaScale, toNat_incDen_two, toNat_incNum_two]
  rcases heps with ⟨hnum, hden⟩ | ⟨hnum, hE, hE13⟩
  · -- epsilon `0`: the increment is at most `2 ^ 32`
    have hnum0 : o.epsilonNum.toUInt64.toNat = 0 := by rw [hnum]; rfl
    have hden1 : o.epsilonDen.toNat = 1 := by rw [hden]; rfl
    rw [hnum0, hden1]
    calc (0 * (r * r).toNat + 1 * 2 ^ 22) % 2 ^ 64 % 2 ^ 54 * 2 ^ 10 / _ + 1023
        ≤ (0 * (r * r).toNat + 1 * 2 ^ 22) % 2 ^ 64 % 2 ^ 54 * 2 ^ 10 + 1023 :=
          Nat.add_le_add_right (Nat.div_le_self _ _) _
      _ < 2 ^ 63 := by norm_num
  · have hnum1 : o.epsilonNum.toUInt64.toNat = 1 := by rw [hnum]; rfl
    rw [hnum1, Nat.one_mul]
    exact increment_lt_of_floor hE hE13 (r := r.toNat) (by rw [UInt64.toNat_mul, Nat.pow_two])
      rfl rfl

/-! ## Windows at or above the minimum -/

/-- A window at or above the minimum, where the minimum is the two packets `path.setup` gives. -/
structure AboveMinimum (w : WindowFields) : Prop where
  min_eq : w.minCongestionWindow = defaultMinimumCongestionWindow
  le : w.minCongestionWindow ≤ w.congestionWindow

theorem AboveMinimum.two_le {w : WindowFields} (h : AboveMinimum w) :
    2 ≤ w.congestionWindow := by
  have hle := h.le
  rwa [h.min_eq] at hle

namespace OliaSender

variable {o : OliaSender}

theorem aboveMinimum_OnPacketLost (h : AboveMinimum o.windowFields) (packetNumber : PacketNumber)
    (lostBytes : ByteCount) : AboveMinimum (o.OnPacketLost packetNumber lostBytes).windowFields := by
  simp only [OnPacketLost]
  split
  · rcases o.windowFields_OnPacketLostInEvent lostBytes with hw | hw <;> rw [hw]
    · exact h
    · exact ⟨h.min_eq, le_MaxPacketNumber_right _ _⟩
  · obtain ⟨c, -, hw⟩ := o.windowFields_OnPacketLostCutback
    rw [hw]
    refine ⟨h.min_eq, ?_⟩
    split
    · exact UInt64.le_refl _
    · exact UInt64.not_lt.mp ‹_›

theorem aboveMinimum_OnRetransmissionTimeout (h : AboveMinimum o.windowFields)
    (packetsRetransmitted : Bool) :
    AboveMinimum (o.OnRetransmissionTimeout packetsRetransmitted).windowFields := by
  cases packetsRetransmitted
  · rw [windowFields_OnRetransmissionTimeout, if_neg (by decide)]
    exact h
  · rw [windowFields_OnRetransmissionTimeout, if_pos rfl]
    exact ⟨h.min_eq, UInt64.le_refl _⟩

theorem aboveMinimum_OnConnectionMigration (hb : WindowBounds o.windowFields)
    (h : AboveMinimum o.windowFields) : AboveMinimum o.OnConnectionMigration.windowFields := by
  rw [windowFields_OnConnectionMigration]
  exact ⟨h.min_eq, hb.min_le_initial⟩

theorem aboveMinimum_slowStart (h : AboveMinimum o.windowFields)
    (hlt : o.congestionWindow < o.maxTCPCongestionWindow) :
    AboveMinimum { o with congestionWindow := o.congestionWindow + 1 }.windowFields := by
  refine ⟨h.min_eq, UInt64.le_trans h.le ?_⟩
  show o.congestionWindow ≤ o.congestionWindow + 1
  rw [UInt64.le_iff_toNat_le, UInt64.toNat_add_one_of_lt hlt]
  exact Nat.le_succ _

/-- The coupled increase keeps the window at or above the minimum, provided that at two packets
the counter does not reach the decrease: above two packets a packet less still leaves two. -/
theorem aboveMinimum_increaseCoupled (hb : WindowBounds o.windowFields)
    (h : AboveMinimum o.windowFields) (hlt : o.congestionWindow < o.maxTCPCongestionWindow)
    (rate : ByteCount)
    (hfloor : o.congestionWindow = 2 →
      -1023 < (o.olia.countAfterAck 2 rate (oliaScale 2 scale)).toInt) :
    AboveMinimum (o.increaseCoupled rate).windowFields := by
  rw [windowFields_increaseCoupled]
  have h2 : (2 : UInt64) ≤ o.congestionWindow := h.two_le
  have hmax : (2 : UInt64) ≤ o.maxTCPCongestionWindow := UInt64.le_trans h2 hb.window_le
  have hmin : o.minCongestionWindow = defaultMinimumCongestionWindow := h.min_eq
  refine ⟨h.min_eq, ?_⟩
  show o.minCongestionWindow ≤ MinPacketNumber o.maxTCPCongestionWindow
    (o.olia.CongestionWindowAfterAck o.congestionWindow rate (oliaScale o.congestionWindow scale)).2
  rw [hmin]
  apply le_MinPacketNumber hmax
  rcases o.olia.CongestionWindowAfterAck_snd o.congestionWindow rate
    (oliaScale o.congestionWindow scale) with hw | hw | ⟨hcount, hw⟩ <;> rw [hw]
  · rw [UInt64.le_iff_toNat_le, UInt64.toNat_add_one_of_lt hlt]
    rw [UInt64.le_iff_toNat_le] at h2
    exact Nat.le_succ_of_le h2
  · exact h2
  · -- the decrease: impossible at two packets, harmless above
    by_cases htwo : o.congestionWindow = 2
    · rw [htwo] at hcount
      exact absurd hcount (not_le.mpr (hfloor htwo))
    · have h3 : (3 : UInt64) ≤ o.congestionWindow := by
        rw [UInt64.le_iff_toNat_le] at h2 ⊢
        have : o.congestionWindow.toNat ≠ 2 := fun h => htwo (UInt64.toNat_inj.mp h)
        simp only [UInt64.reduceToNat] at h2 ⊢
        omega
      refine UInt64.le_trans ?_ (le_MaxPacketNumber_right _ _)
      rw [UInt64.le_iff_toNat_le, UInt64.toNat_sub_of_le _ _ (UInt64.le_trans (by decide) h3)]
      rw [UInt64.le_iff_toNat_le] at h3
      simp only [UInt64.reduceToNat] at h3 ⊢
      omega

end OliaSender

/-! ## `getEpsilon` at two packets -/

/-- The coupling: a sender at two packets, with every sender at two packets or more and fewer
than 128 of them, gets epsilon `0`, or `1` over `len · BNotM` with both below `2 ^ 7`. -/
theorem epsilonAtFloor_epsilonFor {m : List (PathID × OliaSender)}
    (hfloor : ∀ e ∈ m, 2 ≤ e.2.congestionWindow) (hlen : m.length < 128)
    {e : PathID × OliaSender} (he : e ∈ m) (htwo : e.2.congestionWindow = 2) :
    EpsilonAtFloor (epsilonFor m e.2).olia := by
  have hpos : 0 < m.length := List.length_pos_of_mem he
  simp only [epsilonFor]
  rcases setEpsilon_cases m.length (getMaxCwnd m) (getBest m).1 (getBest m).2
    (countPaths m (getMaxCwnd m) (getBest m).1 (getBest m).2).1
    (countPaths m (getMaxCwnd m) (getBest m).1 (getBest m).2).2 e.2 with
    h | ⟨hB, -, -, h⟩ | ⟨hB, hmax, h⟩ <;> rw [h]
  · exact Or.inl ⟨rfl, rfl⟩
  · -- epsilon `1` over `len · BNotM`, with `BNotM` counting at most `len < 128` paths
    rw [countPaths_eq] at hB ⊢
    set b := m.countP fun e =>
      e.2.congestionWindow ≠ getMaxCwnd m ∧ atLeastBest (getBest m).1 (getBest m).2 e.2
    have hb : b ≤ m.length := List.countP_le_length
    have hbnat : b.toUInt8.toNat = b := by
      rw [Nat.toUInt8_eq, UInt8.toNat_ofNat', Nat.mod_eq_of_lt (by omega)]
    have hb0 : 0 < b := by
      rcases Nat.eq_zero_or_pos b with h0 | h0
      · exact absurd (by rw [h0]; rfl) hB
      · exact h0
    have hprod : m.length * b < 2 ^ 14 :=
      lt_of_lt_of_le (Nat.mul_lt_mul'' hlen (by omega : b < 128)) (by norm_num)
    have hden : (m.length.toUInt32 * b.toUInt8.toUInt32).toNat = m.length * b := by
      rw [UInt32.toNat_mul, UInt8.toNat_toUInt32, hbnat, Nat.toUInt32_eq, UInt32.toNat_ofNat',
        Nat.mod_eq_of_lt (by omega : m.length < 2 ^ 32), Nat.mod_eq_of_lt (by omega)]
    refine Or.inr ⟨rfl, ?_, ?_⟩
    · show (m.length.toUInt32 * b.toUInt8.toUInt32).toNat < 2 ^ 14
      rw [hden]
      exact hprod
    · show ¬ 2 ^ 13 ∣ (m.length.toUInt32 * b.toUInt8.toUInt32).toNat
      rw [hden]
      exact Nat.not_pow_dvd_mul_of_lt Nat.prime_two (i := 7) (j := 7) (by omega) (by omega)
        (by omega) (by omega)
  · -- epsilon `-1` would put every path at the largest window, two packets, and `BNotM` at `0`
    exfalso
    have hall : ∀ e' ∈ m, e'.2.congestionWindow = getMaxCwnd m := by
      intro e' he'
      have hle := le_getMaxCwnd he'
      rw [← hmax, htwo] at hle ⊢
      exact UInt64.le_antisymm hle (hfloor e' he')
    have hnone : (m.countP fun e' => e'.2.congestionWindow ≠ getMaxCwnd m ∧
        atLeastBest (getBest m).1 (getBest m).2 e'.2) = 0 :=
      List.countP_eq_zero.mpr fun e' he' hcond => (of_decide_eq_true hcond).1 (hall e' he')
    rw [countPaths_eq, hnone] at hB
    exact hB rfl

/-! ## The map over runs, below 128 paths -/

/-- Every sender of the map within its bounds and at or above the minimum. -/
structure SendersFloor (m : List (PathID × OliaSender)) : Prop where
  bounds : SendersBounds m
  floor : ∀ e ∈ m, AboveMinimum e.2.windowFields

theorem sendersFloor_nil : SendersFloor [] := ⟨sendersBounds_nil, by simp⟩

namespace SendersFloor

variable {m : List (PathID × OliaSender)}

theorem two_le (h : SendersFloor m) : ∀ e ∈ m, 2 ≤ e.2.congestionWindow :=
  fun e he => (h.floor e he).two_le

theorem updateSender (h : SendersFloor m) {pathID : PathID} {f : OliaSender → OliaSender}
    (hb : ∀ o, m.lookup pathID = some o → WindowBounds (f o).windowFields)
    (hf : ∀ o, m.lookup pathID = some o → AboveMinimum (f o).windowFields) :
    SendersFloor (Congestion.updateSender m pathID f) where
  bounds := h.bounds.updateSender hb
  floor := by
    intro e he
    rcases mem_updateSender he with ⟨-, hmem⟩ | ⟨o, hmem, rfl⟩
    · exact h.floor e hmem
    · exact hf o (h.bounds.lookup_of_mem hmem)

theorem updateSender_of_windowFields (h : SendersFloor m) {pathID : PathID}
    {f : OliaSender → OliaSender}
    (hf : ∀ o, m.lookup pathID = some o → (f o).windowFields = o.windowFields) :
    SendersFloor (Congestion.updateSender m pathID f) :=
  h.updateSender (fun o ho => (hf o ho).symm ▸ h.bounds.bounds _ (List.mem_of_lookup_eq_some ho))
    (fun o ho => (hf o ho).symm ▸ h.floor _ (List.mem_of_lookup_eq_some ho))

theorem getEpsilon (h : SendersFloor m) : SendersFloor (Congestion.getEpsilon m) where
  bounds := h.bounds.getEpsilon
  floor := by
    intro e he
    obtain ⟨o, hmem, he2⟩ := mem_getEpsilon he
    rw [he2, epsilonFor, windowFields_setEpsilon]
    exact ⟨(h.floor _ hmem).min_eq, (h.floor _ hmem).le⟩

theorem maybeIncreaseCwnd (h : SendersFloor m) (hlen : m.length < 128) (pathID : PathID)
    (bytesInFlight : ByteCount) : SendersFloor (Congestion.maybeIncreaseCwnd m pathID bytesInFlight) := by
  simp only [Congestion.maybeIncreaseCwnd]
  split
  · exact h
  rename_i o hlookup
  have hmem := List.mem_of_lookup_eq_some hlookup
  split
  · exact h
  split
  · exact h
  rename_i _ hge
  have hlt : o.congestionWindow < o.maxTCPCongestionWindow := UInt64.not_le.mp hge
  have hsame : ∀ o', m.lookup pathID = some o' → o' = o := by
    intro o' ho'
    rw [hlookup, Option.some.injEq] at ho'
    exact ho'.symm
  split
  · refine h.updateSender (fun o' ho' => ?_) (fun o' ho' => ?_)
    · rw [hsame o' ho']
      exact OliaSender.windowBounds_slowStart (h.bounds.bounds _ hmem) hlt
    · rw [hsame o' ho']
      exact OliaSender.aboveMinimum_slowStart (h.floor _ hmem) hlt
  · -- the sender `getEpsilon` leaves at the path is `o` with the epsilon of the coupling
    have hlen' : (Congestion.getEpsilon m).length = m.length := List.length_map _
    have hsame' : ∀ o', (Congestion.getEpsilon m).lookup pathID = some o' →
        o' = epsilonFor m o := by
      intro o' ho'
      obtain ⟨o₀, hmem₀, ho₀⟩ := mem_getEpsilon (List.mem_of_lookup_eq_some ho')
      rw [← hsame o₀ (h.bounds.lookup_of_mem hmem₀)]
      exact ho₀
    have hlt' : (epsilonFor m o).congestionWindow < (epsilonFor m o).maxTCPCongestionWindow := by
      have hw := windowFields_setEpsilon m.length (getMaxCwnd m) (getBest m).1 (getBest m).2
        (countPaths m (getMaxCwnd m) (getBest m).1 (getBest m).2).1
        (countPaths m (getMaxCwnd m) (getBest m).1 (getBest m).2).2 o
      have hc := congrArg WindowFields.congestionWindow hw
      have hM := congrArg WindowFields.maxTCPCongestionWindow hw
      simp only [OliaSender.windowFields] at hc hM
      rw [epsilonFor, hc, hM]
      exact hlt
    have hmemε : (pathID, epsilonFor m o) ∈ Congestion.getEpsilon m :=
      List.mem_map.mpr ⟨(pathID, o), hmem, rfl⟩
    refine h.getEpsilon.updateSender (fun o' ho' => ?_) (fun o' ho' => ?_)
    · rw [hsame' o' ho']
      exact OliaSender.windowBounds_increaseCoupled (h.getEpsilon.bounds.bounds _ hmemε) hlt' _
    · rw [hsame' o' ho']
      refine OliaSender.aboveMinimum_increaseCoupled (h.getEpsilon.bounds.bounds _ hmemε)
        (h.getEpsilon.floor _ hmemε) hlt' _ fun htwo => ?_
      have hw := h.getEpsilon.bounds.bounds _ hmemε
      have heps := epsilonAtFloor_epsilonFor h.two_le hlen hmem
        (show o.congestionWindow = 2 by
          have hc := congrArg WindowFields.congestionWindow
            (windowFields_setEpsilon m.length (getMaxCwnd m) (getBest m).1 (getBest m).2
              (countPaths m (getMaxCwnd m) (getBest m).1 (getBest m).2).1
              (countPaths m (getMaxCwnd m) (getBest m).1 (getBest m).2).2 o)
          simp only [OliaSender.windowFields] at hc
          rw [← hc]
          exact htwo)
      -- `getRate` squares its sum
      rw [getRate_eq]
      exact countAfterAck_at_floor _ heps hw.count_gt hw.count_lt _

theorem OnPacketAcked (h : SendersFloor m) (hlen : m.length < 128) (pathID : PathID)
    (ackedPacketNumber : PacketNumber) (ackedBytes bytesInFlight : ByteCount) :
    SendersFloor (Congestion.OnPacketAcked m pathID ackedPacketNumber ackedBytes bytesInFlight) := by
  simp only [Congestion.OnPacketAcked]
  split
  · exact h
  rename_i o hlookup
  have hsame : ∀ o', m.lookup pathID = some o' → o' = o := by
    intro o' ho'
    rw [hlookup, Option.some.injEq] at ho'
    exact ho'.symm
  split
  · refine h.updateSender_of_windowFields fun o' ho' => ?_
    rw [hsame o' ho']
    rfl
  · refine SendersFloor.updateSender_of_windowFields
      (SendersFloor.maybeIncreaseCwnd (h.updateSender_of_windowFields fun o' ho' => ?_)
        (by rw [← List.length_map (f := Prod.fst), keys_updateSender, List.length_map]; exact hlen)
        _ _) ?_
    · rw [hsame o' ho']
      rfl
    · intro o' _
      split <;> rfl

theorem setup (h : SendersFloor m) (pathID : PathID) (rttStats : RTTStats) :
    SendersFloor (Congestion.setup m pathID rttStats) := by
  refine ⟨h.bounds.setup pathID rttStats, ?_⟩
  simp only [Congestion.setup]
  split
  · intro e he
    rcases List.mem_cons.mp he with rfl | he
    · rw [windowFields_NewOliaSender]
      constructor <;> decide
    · exact h.floor e (List.mem_of_mem_filter he)
  · exact h.floor

theorem apply (h : SendersFloor m) (hlen : m.length < 128) (call : OliaCall) :
    SendersFloor (call.apply m) := by
  have hmem : ∀ {o : OliaSender}, m.lookup call.pathID = some o → (call.pathID, o) ∈ m :=
    fun ho => List.mem_of_lookup_eq_some ho
  cases call with
  | setup pathID rttStats => exact h.setup pathID rttStats
  | UpdateRTT pathID rttStats =>
    simp only [OliaCall.apply]
    exact h.updateSender_of_windowFields fun _ _ => rfl
  | OnPacketSent pathID packetNumber isRetransmittable =>
    simp only [OliaCall.apply]
    exact h.updateSender_of_windowFields fun o _ => o.windowFields_OnPacketSent _ _
  | OnPacketAcked pathID ackedPacketNumber ackedBytes bytesInFlight =>
    exact h.OnPacketAcked hlen pathID ackedPacketNumber ackedBytes bytesInFlight
  | OnPacketLost pathID packetNumber lostBytes =>
    simp only [OliaCall.apply]
    exact h.updateSender
      (fun o ho => OliaSender.windowBounds_OnPacketLost (h.bounds.bounds _ (hmem ho)) _ _)
      (fun o ho => OliaSender.aboveMinimum_OnPacketLost (h.floor _ (hmem ho)) _ _)
  | OnRetransmissionTimeout pathID packetsRetransmitted =>
    simp only [OliaCall.apply]
    exact h.updateSender
      (fun o ho => OliaSender.windowBounds_OnRetransmissionTimeout (h.bounds.bounds _ (hmem ho)) _)
      (fun o ho => OliaSender.aboveMinimum_OnRetransmissionTimeout (h.floor _ (hmem ho)) _)
  | MaybeExitSlowStart pathID =>
    simp only [OliaCall.apply]
    exact h.updateSender_of_windowFields fun o _ => o.windowFields_MaybeExitSlowStart
  | OnConnectionMigration pathID =>
    simp only [OliaCall.apply]
    exact h.updateSender
      (fun o ho => OliaSender.windowBounds_OnConnectionMigration (h.bounds.bounds _ (hmem ho)))
      (fun o ho => OliaSender.aboveMinimum_OnConnectionMigration (h.bounds.bounds _ (hmem ho))
        (h.floor _ (hmem ho)))

/-- Over a run whose calls name fewer than 128 paths, every window stays at or above the minimum.
The induction carries the keys inside those paths, which bounds the map's size at every step. -/
theorem runOlia (h : SendersFloor m) {paths : List PathID} (hpaths : paths.length < 128)
    (hkeys : ∀ e ∈ m, e.1 ∈ paths) (calls : List OliaCall)
    (hcalls : ∀ call ∈ calls, call.pathID ∈ paths) : SendersFloor (Congestion.runOlia m calls) := by
  induction calls generalizing m with
  | nil => exact h
  | cons call calls ih =>
    have hsub : m.map Prod.fst ⊆ paths := by
      intro k hk
      obtain ⟨e, he, rfl⟩ := List.mem_map.mp hk
      exact hkeys e he
    have hlen : m.length < 128 := by
      have := (h.bounds.nodup.subperm hsub).length_le
      rw [List.length_map] at this
      omega
    refine ih (h.apply hlen call) ?_ fun c hc => hcalls c (List.mem_cons_of_mem _ hc)
    intro e he
    rcases keys_apply m call (List.mem_map_of_mem (f := Prod.fst) he) with hk | hk
    · exact hsub hk
    · exact hk ▸ hcalls call List.mem_cons_self

end SendersFloor

/-- From a new session, over every run whose calls name fewer than 128 paths, every sender's
window stays between `minCongestionWindow` and `maxTCPCongestionWindow`. -/
theorem runOlia_window_above_minimum (calls : List OliaCall) {paths : List PathID}
    (hpaths : paths.length < 128) (hcalls : ∀ call ∈ calls, call.pathID ∈ paths) :
    ∀ e ∈ runOlia [] calls, e.2.minCongestionWindow ≤ e.2.congestionWindow ∧
      e.2.congestionWindow ≤ e.2.maxTCPCongestionWindow := by
  intro e he
  have h := sendersFloor_nil.runOlia hpaths (by simp) calls hcalls
  exact ⟨(h.floor e he).le, (h.bounds.bounds e he).window_le⟩

/-! ## At 128 paths the minimum is lost -/

/-- The path whose window falls: 100661247 ns smoothed RTT, `2 ^ 25 · 3 - 2 ^ 10 - 1`. -/
def rttSlow : RTTStats := ⟨100661247, 100661247, 100661247⟩
/-- The path that gives the first its rate term: 32768 ns. -/
def rttFast : RTTStats := ⟨32768, 32768, 32768⟩
/-- Paths with no RTT sample yet, which `getRate` skips. -/
def rttNone : RTTStats := ⟨0, 0, 0⟩

/-- Paths 1 to 128. -/
def paths128 : List PathID := (List.range 128).map fun i => (i + 1).toUInt8
/-- Path 1 and paths 3 to 65, which a timeout puts back to two packets. -/
def pathsReset : List PathID := 1 :: (List.range 63).map fun i => (i + 3).toUInt8

/-- 128 paths set up; path 1 timed out with 63 others, so 64 paths stay at the 32 packets they
start from; path 1 then sends, loses a packet (leaving slow start at two packets) and has one
acknowledged in congestion avoidance. -/
def calls128 : List OliaCall :=
  paths128.map (OliaCall.setup · rttNone) ++ [.UpdateRTT 1 rttSlow, .UpdateRTT 2 rttFast] ++
    pathsReset.map (OliaCall.OnRetransmissionTimeout · true) ++
    [.OnPacketSent 1 1 true, .OnPacketSent 1 2 true, .OnPacketLost 1 1 1460,
      .OnPacketSent 1 3 true, .OnPacketAcked 1 3 1460 2920]

set_option maxRecDepth 100000 in
/-- With 128 senders, 64 at 32 packets and 64 at two, `getEpsilon` gives path 1 epsilon `1` over
`128 · 64 = 2 ^ 13`; its rate `(3 · 2 ^ 25) ^ 2` wraps `incDen` to zero and the increment to a
negative `int`, and the acknowledgement takes its window to one packet, below the minimum of
two. -/
theorem runOlia_window_below_minimum :
    ((runOlia [] calls128).lookup 1).map (fun o => (o.minCongestionWindow, o.congestionWindow)) =
      some (2, 1) := by
  decide +kernel

end Congestion
end PStream
