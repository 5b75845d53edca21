import Mathlib.Data.UInt
import PStream.Protocol
import PStream.Wire.ByteOrder
import PStream.Lib.Numbers

/-!
# Inferring a packet number from its low bytes

A packet carries only the low `len` bytes of its number.  `InferPacketNumber` puts the rest back
from the largest number received so far, `L`: of the three numbers with those low bytes in the
epoch of `L` and in the two epochs around it, it takes the one closest to `L + 1`.

* `InferPacketNumber_eq`: for every length below eight bytes and numbers below `2 ^ 62`, a
  number that lies closer than half an epoch to `L + 1` is inferred exactly.  Every candidate has
  the sent low bytes, so the sent number is the one candidate that close
  (`Nat.eq_of_mod_eq_of_dist_lt`) and strictly closer than the others
  (`Nat.dist_lt_dist_of_mod_eq`).  That holds of the candidate below the first epoch too, which
  wraps to near `2 ^ 64` but keeps its low bytes, since the epoch divides `2 ^ 64`.
* `InferPacketNumber_publicHeader`: the length `GetPacketNumberLengthForPublicHeader` chooses
  keeps the distance to the least unacknowledged packet below half an epoch, so a receiver whose
  `L + 1` is no farther from the packet number than that infers it.
-/

set_option autoImplicit false

namespace PStream

open Protocol Utils

/-- `delta`: how far apart two packet numbers are. -/
def delta (a b : PacketNumber) : PacketNumber := if a < b then b - a else a - b

/-- `closestTo`: whichever of `a` and `b` is nearer `target`, and `b` on a tie. -/
def closestTo (target a b : PacketNumber) : PacketNumber :=
  if delta target a < delta target b then a else b

/-- `protocol.InferPacketNumber`.  The shift is by a `uint8`, so a length of 32 bytes or more
wraps it, and Go shifts a `uint64` by 64 or more to zero (`goShl`). -/
def InferPacketNumber (packetNumberLength : PacketNumberLen)
    (lastPacketNumber wirePacketNumber : PacketNumber) : PacketNumber :=
  let epochDelta : PacketNumber := goShl 1 (packetNumberLength * 8).toNat
  let epoch := lastPacketNumber &&& ~~~(epochDelta - 1)
  let prevEpochBegin := epoch - epochDelta
  let nextEpochBegin := epoch + epochDelta
  closestTo (lastPacketNumber + 1) (epoch + wirePacketNumber)
    (closestTo (lastPacketNumber + 1) (prevEpochBegin + wirePacketNumber)
      (nextEpochBegin + wirePacketNumber))

/-! ## Distances and the choice between two candidates -/

theorem toNat_delta (a b : PacketNumber) : (delta a b).toNat = Nat.dist a.toNat b.toNat := by
  unfold delta
  split_ifs with h
  · rw [UInt64.toNat_sub_of_le _ _ (UInt64.le_of_lt h),
      Nat.dist_eq_sub_of_le (UInt64.lt_iff_toNat_lt.mp h).le]
  · have hle : b ≤ a := UInt64.not_lt.mp h
    rw [UInt64.toNat_sub_of_le _ _ hle, Nat.dist_eq_sub_of_le_right (UInt64.le_iff_toNat_le.mp hle)]

theorem closestTo_mem (target a b : PacketNumber) :
    closestTo target a b = a ∨ closestTo target a b = b := by
  unfold closestTo
  split_ifs
  · exact .inl rfl
  · exact .inr rfl

/-- `closestTo` returns `x` when `x` is one of the two and strictly nearer than the other. -/
theorem closestTo_eq {target a b x : PacketNumber} (hx : x = a ∨ x = b)
    (ha : a ≠ x → delta target x < delta target a) (hb : b ≠ x → delta target x < delta target b) :
    closestTo target a b = x := by
  unfold closestTo
  split_ifs with h
  · rcases hx with rfl | rfl
    · rfl
    · by_contra hne
      exact absurd (UInt64.lt_trans (ha hne) h) (UInt64.lt_irrefl _)
  · rcases hx with rfl | rfl
    · by_contra hne
      exact h (hb hne)
    · rfl

/-- The nested choice of `InferPacketNumber` returns the candidate strictly nearest the target. -/
theorem closestTo_closestTo_eq {target c₀ c₁ c₂ x : PacketNumber} (hx : x = c₀ ∨ x = c₁ ∨ x = c₂)
    (hc : ∀ c, c = c₀ ∨ c = c₁ ∨ c = c₂ → c ≠ x → delta target x < delta target c) :
    closestTo target c₀ (closestTo target c₁ c₂) = x := by
  have hinner := closestTo_mem target c₁ c₂
  apply closestTo_eq
  · rcases hx with h | h | h
    · exact .inl h
    -- the sent number is one of the inner two, so the inner choice returns it
    · exact .inr (closestTo_eq (.inl h) (hc c₁ (.inr (.inl rfl))) (hc c₂ (.inr (.inr rfl)))).symm
    · exact .inr (closestTo_eq (.inr h) (hc c₁ (.inr (.inl rfl))) (hc c₂ (.inr (.inr rfl)))).symm
  · exact hc c₀ (.inl rfl)
  · rcases hinner with h | h <;> rw [h]
    · exact hc c₁ (.inr (.inl rfl))
    · exact hc c₂ (.inr (.inr rfl))

/-! ## The epoch and its candidates -/

theorem toNat_epochDelta {len : PacketNumberLen} (hlen : len.toNat < 8) :
    (goShl 1 (len * 8).toNat).toNat = 2 ^ (8 * len.toNat) := by
  have hs : (len * 8).toNat = 8 * len.toNat := by
    rw [UInt8.toNat_mul, Nat.mod_eq_of_lt (by simp; omega)]
    simp [Nat.mul_comm]
  rw [hs, toNat_goShl_one (by omega)]

/-- Clearing the bits below the epoch rounds the last packet number down to its epoch. -/
theorem toNat_epoch (L d : PacketNumber) {k : Nat} (hk : k < 64) (hd : d.toNat = 2 ^ k) :
    (L &&& ~~~(d - 1)).toNat = L.toNat / 2 ^ k * 2 ^ k := by
  have hmask : (~~~(d - 1)).toNat = 2 ^ k * (2 ^ (64 - k) - 1) := by
    have hd1 : (d - 1).toNat = 2 ^ k - 1 := by
      rw [UInt64.toNat_sub_of_le _ _ (UInt64.le_iff_toNat_le.mpr (by
        rw [hd]; exact Nat.one_le_two_pow)), hd, UInt64.toNat_one]
    have hsplit : 2 ^ k * 2 ^ (64 - k) = 2 ^ 64 := by
      rw [← Nat.pow_add, Nat.add_sub_cancel' hk.le]
    rw [UInt64.toNat_not, hd1, Nat.mul_sub, Nat.mul_one, hsplit,
      show UInt64.size = 2 ^ 64 from rfl]
    have := Nat.one_le_two_pow (n := k)
    have := Nat.pow_lt_pow_right (a := 2) (by omega) hk
    omega
  rw [UInt64.toNat_and, hmask, Nat.and_two_pow_mul_two_pow_sub_one (by
    rw [Nat.add_sub_cancel' hk.le]; exact UInt64.toNat_lt L)]

/-- Low bytes modulo a divisor of `2 ^ 64` survive a `uint64` addition. -/
theorem toNat_add_mod_of_dvd {E : Nat} (hE : E ∣ 2 ^ 64) (a b : UInt64) :
    (a + b).toNat % E = (a.toNat + b.toNat) % E := by
  rw [UInt64.toNat_add, Nat.mod_mod_of_dvd _ hE]

/-- Numbers that differ by a multiple of the epoch have the same low bytes. -/
theorem toNat_mod_of_add_eq {E : Nat} (hE : E ∣ 2 ^ 64) {a b d : UInt64} (h : a + d = b)
    (hd : d.toNat % E = 0) : a.toNat % E = b.toNat % E := by
  rw [← h, toNat_add_mod_of_dvd hE, Nat.add_mod, hd, Nat.add_zero, Nat.mod_mod]

/-! ## Exact inference -/

section Exact

variable {E : Nat} {e w p t : Nat}

/-- The number `p` lies within half an epoch of the target `t`, and `e` is the epoch below
`t`: then `p` is in that epoch or in one of its two neighbours, at the place given by its
remainder `w`. -/
theorem near_epoch (hE : 0 < E) (he : e % E = 0) (hw : p % E = w) (ht : e < t) (ht' : t ≤ e + E)
    (hnear : 2 * Nat.dist p t < E) :
    (E ≤ e ∧ p = e - E + w) ∨ p = e + w ∨ p = e + E + w := by
  have hwE : w < E := hw ▸ Nat.mod_lt p hE
  have hdist := Nat.dist_tri_left' p t
  have hdist' := Nat.dist_tri_right p t
  rcases Nat.lt_or_ge p e with hpe | hpe
  · -- below the epoch: the epoch is not the first, and `p` is in the one before
    have heE : E ≤ e := by
      obtain ⟨q, hq⟩ := Nat.dvd_of_mod_eq_zero he
      rcases Nat.eq_zero_or_pos q with h0 | hpos
      · rw [hq, h0] at ht' hpe; omega
      · rw [hq]; exact Nat.le_mul_of_pos_right E hpos
    refine .inl ⟨heE, Nat.eq_of_mod_eq_of_dist_lt (E := E) ?_ ?_⟩
    · rw [hw, Nat.add_mod, Nat.sub_mod_eq_zero_of_mod_eq (by rw [he, Nat.mod_self]),
        Nat.zero_add, Nat.mod_mod, Nat.mod_eq_of_lt hwE]
    · rw [Nat.dist_eq_max_sub_min]; omega
  rcases Nat.lt_or_ge p (e + E) with hpE | hpE
  · refine .inr (.inl (Nat.eq_of_mod_eq_of_dist_lt (E := E) ?_ ?_))
    · rw [hw, Nat.add_mod, he, Nat.zero_add, Nat.mod_mod, Nat.mod_eq_of_lt hwE]
    · rw [Nat.dist_eq_max_sub_min]; omega
  · refine .inr (.inr (Nat.eq_of_mod_eq_of_dist_lt (E := E) ?_ ?_))
    · rw [hw, Nat.add_assoc, Nat.add_mod, he, Nat.zero_add, Nat.mod_mod, Nat.add_mod,
        Nat.mod_self, Nat.zero_add, Nat.mod_mod, Nat.mod_eq_of_lt hwE]
    · rw [Nat.dist_eq_max_sub_min]; omega

end Exact

/-- A packet number closer than half an epoch to `L + 1` is inferred from its low bytes, for every
length below eight bytes and numbers below `2 ^ 62`. -/
theorem InferPacketNumber_eq {len : PacketNumberLen} {L pn : PacketNumber} (hlen : len.toNat < 8)
    (hL : L.toNat < 2 ^ 62) (hpn : pn.toNat < 2 ^ 62)
    (hnear : 2 * Nat.dist pn.toNat (L.toNat + 1) < 2 ^ (8 * len.toNat)) :
    InferPacketNumber len L (pn.toNat % 2 ^ (8 * len.toNat)).toUInt64 = pn := by
  have hk : 8 * len.toNat < 64 := by omega
  have hE56 : 2 ^ (8 * len.toNat) ≤ 2 ^ 56 := Nat.pow_le_pow_right (by omega) (by omega)
  have hEpos : 0 < 2 ^ (8 * len.toNat) := Nat.two_pow_pos _
  have hdvd : 2 ^ (8 * len.toNat) ∣ 2 ^ 64 := Nat.pow_dvd_pow 2 hk.le
  dsimp only [InferPacketNumber]
  generalize hd : goShl 1 (len * 8).toNat = d
  have hdE : d.toNat = 2 ^ (8 * len.toNat) := hd ▸ toNat_epochDelta hlen
  have hep := toNat_epoch L d hk hdE
  generalize L &&& ~~~(d - 1) = ep at hep
  generalize hE : 2 ^ (8 * len.toNat) = E at *
  -- the epoch `e` of `L`, the low bytes `w` and the three candidates as numbers
  set e := L.toNat / E * E with he_def
  have he : e % E = 0 := Nat.mul_mod_left _ _
  have hLe : e ≤ L.toNat := Nat.div_mul_le_self _ _
  have hLE : L.toNat < e + E := by
    have := Nat.div_add_mod' L.toNat E
    have := Nat.mod_lt L.toNat hEpos
    omega
  have hwE : pn.toNat % E < E := Nat.mod_lt _ hEpos
  have hw : (pn.toNat % E).toUInt64.toNat = pn.toNat % E := by
    rw [UInt64.toNat_ofNat', Nat.mod_eq_of_lt (by omega)]
  generalize hwdef : (pn.toNat % E).toUInt64 = w at hw
  have ht : (L + 1).toNat = L.toNat + 1 := by
    rw [UInt64.toNat_add, UInt64.toNat_one, Nat.mod_eq_of_lt (by omega)]
  have hc₀ : (ep + w).toNat = e + pn.toNat % E := by
    rw [UInt64.toNat_add, hep, hw, Nat.mod_eq_of_lt (by omega)]
  have hc₂ : (ep + d + w).toNat = e + E + pn.toNat % E := by
    rw [UInt64.toNat_add, UInt64.toNat_add, hep, hdE, hw, Nat.mod_eq_of_lt (by omega),
      Nat.mod_eq_of_lt (by omega)]
  -- every candidate has the low bytes of `pn`
  have hmod₀ : (ep + w).toNat % E = pn.toNat % E := by
    rw [hc₀, Nat.add_mod, he, Nat.zero_add, Nat.mod_mod, Nat.mod_mod]
  have hmod₁ : (ep - d + w).toNat % E = pn.toNat % E := by
    rw [toNat_mod_of_add_eq hdvd (show ep - d + w + d = ep + w by
      rw [add_right_comm, sub_add_cancel]) (by rw [hdE, Nat.mod_self]), hmod₀]
  have hmod₂ : (ep + d + w).toNat % E = pn.toNat % E := by
    rw [← toNat_mod_of_add_eq hdvd (show ep + w + d = ep + d + w by rw [add_right_comm])
      (by rw [hdE, Nat.mod_self]), hmod₀]
  apply closestTo_closestTo_eq
  · -- `pn` is one of the three candidates
    rw [← ht] at hnear
    rcases near_epoch hEpos he rfl (by rw [ht]; omega) (by rw [ht]; omega) hnear with
      ⟨heE, hp⟩ | hp | hp
    · refine .inr (.inl (UInt64.toNat_inj.mp ?_))
      rw [UInt64.toNat_add, UInt64.toNat_sub_of_le _ _ (UInt64.le_iff_toNat_le.mpr
        (by rw [hep, hdE]; exact heE)), hep, hdE, hw, Nat.mod_eq_of_lt (by omega)]
      exact hp
    · exact .inl (UInt64.toNat_inj.mp (by rw [hc₀]; exact hp))
    · exact .inr (.inr (UInt64.toNat_inj.mp (by rw [hc₂]; exact hp)))
  · -- and strictly the nearest one
    intro c hc hne
    have hcmod : c.toNat % E = pn.toNat % E := by
      rcases hc with rfl | rfl | rfl
      · exact hmod₀
      · exact hmod₁
      · exact hmod₂
    rw [UInt64.lt_iff_toNat_lt, toNat_delta, toNat_delta, Nat.dist_comm,
      Nat.dist_comm _ c.toNat]
    exact Nat.dist_lt_dist_of_mod_eq hcmod.symm (fun h => hne (UInt64.toNat_inj.mp h).symm)
      (by rw [ht]; exact hnear)

/-- A packet numbered `pn` while `leastUnacked` is the oldest packet in flight, less than `2 ^ 31`
packets back, is inferred from the low bytes of the length its header gets, by every receiver
whose `L + 1` is no farther from `pn` than `leastUnacked` is. -/
theorem InferPacketNumber_publicHeader {pn leastUnacked L : PacketNumber}
    (hd : (pn - leastUnacked).toNat < 2 ^ 31)
    (hL : Nat.dist pn.toNat (L.toNat + 1) ≤ (pn - leastUnacked).toNat)
    (hpn : pn.toNat < 2 ^ 62) (hL62 : L.toNat < 2 ^ 62) :
    InferPacketNumber (GetPacketNumberLengthForPublicHeader pn leastUnacked) L
      (pn.toNat % 2 ^ (8 * (GetPacketNumberLengthForPublicHeader pn leastUnacked).toNat)).toUInt64 =
        pn := by
  -- two bytes below a distance of `2 ^ 15`, four below `2 ^ 31`: half an epoch either way
  rcases getPacketNumberLengthForPublicHeader_cases pn leastUnacked with
    ⟨h, hlen⟩ | ⟨-, h, hlen⟩ | ⟨h, -⟩
  · rw [hlen]
    exact InferPacketNumber_eq (by decide) hL62 hpn (by simp; omega)
  · rw [hlen]
    exact InferPacketNumber_eq (by decide) hL62 hpn (by simp; omega)
  · omega

/-- Packet 65540, sent while 65500 is unacknowledged, gets two bytes; a receiver at 65530 is still
in the epoch below and infers it from its low bytes 4. -/
theorem InferPacketNumber_publicHeader_65540 :
    InferPacketNumber (GetPacketNumberLengthForPublicHeader 65540 65500) 65530
      ((65540 : PacketNumber).toNat %
        2 ^ (8 * (GetPacketNumberLengthForPublicHeader 65540 65500).toNat)).toUInt64 = 65540 :=
  InferPacketNumber_publicHeader (by decide) (by decide) (by decide) (by decide)

end PStream
