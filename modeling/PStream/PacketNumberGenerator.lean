import PStream.Ackhandler.Sent

/-!
# The packet number generator

`packetNumberGenerator` hands out the packet numbers of a path and, against optimistic ACKs, is
meant to skip one number at random about every `averagePeriod` packets: once `next` reaches
`nextToSkip`, it steps over it and draws the next number to skip, between two and about
`2 · averagePeriod` ahead.

* `SkipWindow` is that intent as an invariant: the number to skip lies ahead of `next`, by at most
  `2 · averagePeriod`, so it is never more than that many calls away.  A drawn skip establishes it
  (`skipWindow_generateNewSkip`) and every `Pop` with a successful draw keeps it
  (`SkipWindow.Pop`).
* `popAll_newPacketNumberGenerator`: the constructor never draws a skip.  It leaves `nextToSkip`
  at `0`, which `next` only reaches after `2 ^ 64 - 1` calls, so the generator hands out
  `1, 2, 3, …` and never skips; `SentPacket` then records no skipped number
  (`skippedPackets_SentPacket_of_consecutive`), and no ACK can be caught acknowledging one.
-/

set_option autoImplicit false

namespace PStream

open Protocol

/-- The generator's state.  The random numbers it draws are passed to `Pop` instead. -/
structure PacketNumberGenerator where
  averagePeriod : PacketNumber
  next : PacketNumber
  nextToSkip : PacketNumber
  deriving DecidableEq, Repr

/-- `newPacketNumberGenerator`: the first number is 1; `nextToSkip` keeps its zero value. -/
def newPacketNumberGenerator (averagePeriod : PacketNumber) : PacketNumberGenerator :=
  { averagePeriod, next := 1, nextToSkip := 0 }

namespace PacketNumberGenerator

def Peek (p : PacketNumberGenerator) : PacketNumber := p.next

/-- `generateNewSkip` with the number `getRandomNumber` drew, `none` when `rand.Read` failed: the
error is returned and `nextToSkip` stays.  `math.MaxUint16 / 2` is the constant `32767`. -/
def generateNewSkip (p : PacketNumberGenerator) (num : Option UInt16) : PacketNumberGenerator :=
  match num with
  | none => p
  | some num =>
    let skip : PacketNumber := num.toUInt64 * (p.averagePeriod - 1) / (65535 / 2)
    { p with nextToSkip := p.next + 2 + skip }

/-- `Pop`, offered the random number a skip would draw. -/
def Pop (p : PacketNumberGenerator) (num : Option UInt16) : PacketNumber × PacketNumberGenerator :=
  let next := p.next
  let p := { p with next := p.next + 1 }
  if p.next = p.nextToSkip then
    let p := { p with next := p.next + 1 }
    (next, p.generateNewSkip num)
  else (next, p)

/-- The numbers of successive `Pop` calls, one random number offered to each. -/
def popAll : PacketNumberGenerator → List (Option UInt16) → List PacketNumber × PacketNumberGenerator
  | p, [] => ([], p)
  | p, num :: nums =>
    let (n, p) := p.Pop num
    let (ns, p) := popAll p nums
    (n :: ns, p)

/-! ## One call -/

variable (p : PacketNumberGenerator) (num : Option UInt16)

@[simp] theorem next_generateNewSkip : (p.generateNewSkip num).next = p.next := by
  cases num <;> rfl

@[simp] theorem averagePeriod_generateNewSkip :
    (p.generateNewSkip num).averagePeriod = p.averagePeriod := by
  cases num <;> rfl

theorem Pop_of_ne (h : p.next + 1 ≠ p.nextToSkip) : p.Pop num = (p.next, { p with next := p.next + 1 }) := by
  unfold Pop
  rw [if_neg h]

theorem Pop_of_eq (h : p.next + 1 = p.nextToSkip) :
    p.Pop num = (p.next, { p with next := p.next + 1 + 1 }.generateNewSkip num) := by
  unfold Pop
  rw [if_pos h]

/-- `Pop` returns what `Peek` showed. -/
theorem Pop_fst : (p.Pop num).1 = p.Peek := by
  by_cases h : p.next + 1 = p.nextToSkip
  · rw [Pop_of_eq p num h]
    rfl
  · rw [Pop_of_ne p num h]
    rfl

@[simp] theorem averagePeriod_Pop : (p.Pop num).2.averagePeriod = p.averagePeriod := by
  by_cases h : p.next + 1 = p.nextToSkip
  · rw [Pop_of_eq p num h, averagePeriod_generateNewSkip]
  · rw [Pop_of_ne p num h]

/-! ## The intended window -/

/-- The skip `generateNewSkip` draws, `num · (averagePeriod - 1) / 32767`, is at most
`2 · (averagePeriod - 1)` for a period below `32768`. -/
theorem toNat_skip_le (n : UInt16) {averagePeriod : PacketNumber} (h1 : 1 ≤ averagePeriod.toNat)
    (hp : averagePeriod.toNat ≤ 32767) :
    (n.toUInt64 * (averagePeriod - 1) / (65535 / 2)).toNat ≤ 2 * (averagePeriod.toNat - 1) := by
  have hsub : (averagePeriod - 1).toNat = averagePeriod.toNat - 1 := by
    rw [UInt64.toNat_sub_of_le _ _ (UInt64.le_iff_toNat_le.mpr (by rw [UInt64.toNat_one]; exact h1)),
      UInt64.toNat_one]
  have hn : n.toUInt64.toNat ≤ 65535 := by
    rw [UInt16.toNat_toUInt64]
    exact Nat.le_of_lt_succ n.toNat_lt
  have hprod : n.toUInt64.toNat * (averagePeriod.toNat - 1) ≤ 65535 * (averagePeriod.toNat - 1) :=
    Nat.mul_le_mul_right _ hn
  rw [UInt64.toNat_div, UInt64.toNat_mul, hsub, Nat.mod_eq_of_lt (by omega),
    show (65535 / 2 : UInt64).toNat = 32767 from rfl]
  exact Nat.le_of_lt_succ ((Nat.div_lt_iff_lt_mul (by omega)).mpr (by omega))

/-- The number to skip lies ahead of `next`, by at most `2 · averagePeriod`. -/
structure SkipWindow (p : PacketNumberGenerator) : Prop where
  next_lt : p.next.toNat < p.nextToSkip.toNat
  le_next : p.nextToSkip.toNat ≤ p.next.toNat + 2 * p.averagePeriod.toNat

section Window

variable {p}

/-- A successful draw opens a window, for a period from 1 to `32767` and no wraparound. -/
theorem skipWindow_generateNewSkip (n : UInt16) (h1 : 1 ≤ p.averagePeriod.toNat)
    (hp : p.averagePeriod.toNat ≤ 32767) (hwrap : p.next.toNat + 2 * p.averagePeriod.toNat < 2 ^ 64) :
    SkipWindow (p.generateNewSkip (some n)) := by
  have hskip := toNat_skip_le n h1 hp
  have hto : (p.next + 2 + n.toUInt64 * (p.averagePeriod - 1) / (65535 / 2)).toNat =
      p.next.toNat + 2 + (n.toUInt64 * (p.averagePeriod - 1) / (65535 / 2)).toNat := by
    rw [UInt64.toNat_add, UInt64.toNat_add, show (2 : UInt64).toNat = 2 from rfl,
      Nat.mod_eq_of_lt (by omega), Nat.mod_eq_of_lt (by omega)]
  constructor
  · show p.next.toNat < (p.next + 2 + _).toNat
    omega
  · show (p.next + 2 + _).toNat ≤ p.next.toNat + 2 * p.averagePeriod.toNat
    omega

/-- `Pop` keeps the window when its draw succeeds: it either steps over the number to skip and
draws a new one, or moves one closer to it. -/
theorem SkipWindow.Pop (hw : SkipWindow p) (n : UInt16) (h1 : 1 ≤ p.averagePeriod.toNat)
    (hp : p.averagePeriod.toNat ≤ 32767)
    (hwrap : p.next.toNat + 4 * p.averagePeriod.toNat + 2 < 2 ^ 64) :
    SkipWindow (p.Pop (some n)).2 := by
  have hlt := hw.next_lt
  have hle := hw.le_next
  have hsucc : (p.next + 1).toNat = p.next.toNat + 1 := by
    rw [UInt64.toNat_add, UInt64.toNat_one, Nat.mod_eq_of_lt (by omega)]
  by_cases hskip : p.next + 1 = p.nextToSkip
  · -- the number to skip is stepped over and a new one drawn
    rw [Pop_of_eq p _ hskip]
    have hsucc2 : (p.next + 1 + 1).toNat = p.next.toNat + 2 := by
      rw [UInt64.toNat_add, hsucc, UInt64.toNat_one, Nat.mod_eq_of_lt (by omega)]
    exact skipWindow_generateNewSkip n h1 hp (by simp only [hsucc2]; omega)
  · rw [Pop_of_ne p _ hskip]
    have hne : (p.next + 1).toNat ≠ p.nextToSkip.toNat := fun h => hskip (UInt64.toNat_inj.mp h)
    constructor
    · show (p.next + 1).toNat < p.nextToSkip.toNat
      omega
    · show p.nextToSkip.toNat ≤ (p.next + 1).toNat + 2 * p.averagePeriod.toNat
      omega

end Window

/-! ## From the constructor: no skip at all -/

/-- With `nextToSkip` at zero, `Pop` counts up by one until `next` wraps. -/
theorem popAll_of_nextToSkip_zero (nums : List (Option UInt16)) : ∀ p : PacketNumberGenerator,
    p.nextToSkip = 0 → p.next.toNat + nums.length < 2 ^ 64 →
    popAll p nums = ((List.range nums.length).map fun i => p.next + i.toUInt64,
      { p with next := p.next + nums.length.toUInt64 }) := by
  induction nums with
  | nil => intro p _ _; simp [popAll]
  | cons num nums ih =>
    intro p h0 hlen
    have hsucc : (p.next + 1).toNat = p.next.toNat + 1 := by
      rw [UInt64.toNat_add, UInt64.toNat_one, Nat.mod_eq_of_lt (by simp at hlen; omega)]
    -- `next + 1` is not zero, so it is not the number to skip
    have hne : p.next + 1 ≠ p.nextToSkip := by
      rw [h0]
      intro h
      rw [h] at hsucc
      simp at hsucc
    have hrest := ih { p with next := p.next + 1 } h0 (by simp only [hsucc]; simp at hlen; omega)
    simp only [popAll, Pop_of_ne p num hne, hrest]
    rw [List.length_cons, List.range_succ_eq_map, List.map_cons, List.map_map]
    have hshift : ∀ i : Nat, p.next + (i + 1).toUInt64 = p.next + 1 + i.toUInt64 := fun i => by
      apply UInt64.toNat_inj.mp
      simp only [UInt64.toNat_add, UInt64.toNat_ofNat', UInt64.toNat_one]
      omega
    refine Prod.ext (List.cons_eq_cons.mpr ⟨by simp, List.map_congr_left fun i _ => (hshift i).symm⟩) ?_
    rw [hshift]

end PacketNumberGenerator

open PacketNumberGenerator

/-- A new generator hands out `1, 2, …, n` and never skips a number: `nextToSkip` stays `0`, below
`next`, however the random draws come out, for every run of fewer than `2 ^ 64 - 1` calls. -/
theorem popAll_newPacketNumberGenerator (averagePeriod : PacketNumber)
    (nums : List (Option UInt16)) (hlen : nums.length + 1 < 2 ^ 64) :
    (popAll (newPacketNumberGenerator averagePeriod) nums).1 =
        (List.range nums.length).map (fun i => (i + 1).toUInt64) ∧
      (popAll (newPacketNumberGenerator averagePeriod) nums).2.nextToSkip = 0 := by
  rw [popAll_of_nextToSkip_zero nums _ rfl (by simp only [newPacketNumberGenerator]; simp; omega)]
  refine ⟨List.map_congr_left fun i _ => UInt64.toNat_inj.mp ?_, rfl⟩
  simp only [newPacketNumberGenerator, UInt64.toNat_add, UInt64.toNat_ofNat', UInt64.toNat_one]
  omega

/-- A thousand packets from a new generator of period 500: numbers 1 to 1000, none skipped. -/
theorem popAll_newPacketNumberGenerator_500 :
    (popAll (newPacketNumberGenerator SkipPacketAveragePeriodLength)
        (List.replicate 1000 (some 65535))).1 =
        (List.range 1000).map (fun i => (i + 1).toUInt64) ∧
      (popAll (newPacketNumberGenerator SkipPacketAveragePeriodLength)
        (List.replicate 1000 (some 65535))).2.nextToSkip = 0 := by
  have h := popAll_newPacketNumberGenerator SkipPacketAveragePeriodLength
    (List.replicate 1000 (some 65535)) (by rw [List.length_replicate]; decide)
  rw [List.length_replicate] at h
  exact h

/-! ## What the sent packet handler sees -/

namespace Ackhandler

namespace SentPacketHandler

@[simp] theorem skippedPackets_updateLossDetectionAlarm (env : RTTEnv) (h : SentPacketHandler) :
    (h.updateLossDetectionAlarm env).skippedPackets = h.skippedPackets := by
  unfold updateLossDetectionAlarm
  split_ifs <;> rfl

/-- A packet numbered right after the last one records no skipped number. -/
theorem skippedPackets_SentPacket_of_consecutive (env : RTTEnv) (now : Int)
    {h h' : SentPacketHandler} {packet : Packet}
    (hpn : packet.PacketNumber = h.lastSentPacketNumber + 1)
    (hs : h.SentPacket env now packet = .ok h') : h'.skippedPackets = h.skippedPackets := by
  unfold SentPacket at hs
  split_ifs at hs with hle hfull
  cases hs
  -- the loop starts at the packet's own number and stops at once
  have hloop : skipLoop packet.PacketNumber (packet.PacketNumber - h.lastSentPacketNumber).toNat
      (h.lastSentPacketNumber + 1) h.skippedPackets = h.skippedPackets := by
    rw [hpn, show h.lastSentPacketNumber + 1 - h.lastSentPacketNumber = 1 by
      rw [UInt64.add_comm]; exact UInt64.add_sub_cancel _ _]
    simp [skipLoop]
  split_ifs <;> simp [skippedPackets_updateLossDetectionAlarm, hloop]

end SentPacketHandler

end Ackhandler

end PStream
