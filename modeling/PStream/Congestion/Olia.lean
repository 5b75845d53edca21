import PStream.Protocol

/-!
# The OLIA senders

The coupled congestion control of the multipath paths: `congestion.Olia` (olia.go), which keeps
a path's bytes between losses and the fixed-point counter of its coupled increase, and
`congestion.OliaSender` (olia_sender.go), the Reno-style sender around it.  Every path but the
initial one gets a sender when it is set up (`path.setup`), and all of them share one map
`oliaSenders`: `getEpsilon` reads the windows, RTTs and loss counters of every sender in it and
writes the epsilon of each.  So the state of the model is that map, a list of entries with
distinct path IDs in the order Go's iteration happens to visit them, and an acknowledgement on
one path is a function of the whole map.

The window and the packet numbers are `uint64`s, `sndCwndCnt` and `epsilonNum` Go `int`s (64
bits), `epsilonDen` a `uint32`, and the counters `M` and `BNotM` of `getEpsilon` `uint8`s: each is
the Lean type of that width, so the model wraps where the Go code wraps.  A `time.Duration` is an
`int64` of nanoseconds.  The sender's `RTTStats` belongs to its path's sent packet handler, which
updates it on every acknowledgement; the model keeps the three values the sender reads and lets
the path replace them (`OliaCall.UpdateRTT`).

Two pieces of the Go code are left out, since nothing the sender decides depends on them: the PRR
sender (`prr`), which only `TimeUntilSend` reads, and `congestionWindowCount`, which is only ever
reset.  The Reno cutback is computed in `float32` by Go; `RenoCutback` is the exact quotient that
the truncated `float32` product equals for the windows a sender can have (at most
`DefaultMaxCongestionWindow`).
-/

set_option autoImplicit false

namespace PStream
namespace Congestion

open Protocol

/-- `time.Duration`, an `int64` number of nanoseconds. -/
abbrev Duration := Int64

def Microsecond : Duration := 1000

/-! ## The helpers of `internal/utils` -/

namespace Utils

def MaxPacketNumber (a b : PacketNumber) : PacketNumber := if a > b then a else b

def MinPacketNumber (a b : PacketNumber) : PacketNumber := if a < b then a else b

def MaxByteCount (a b : ByteCount) : ByteCount := if a > b then a else b

def MinInt64 (a b : Int64) : Int64 := if a < b then a else b

def MaxInt64 (a b : Int64) : Int64 := if a > b then a else b

theorem le_MaxPacketNumber_left (a b : PacketNumber) : a ≤ MaxPacketNumber a b := by
  simp only [MaxPacketNumber]
  split_ifs with h
  · exact UInt64.le_refl a
  · exact UInt64.not_lt.mp h

theorem le_MaxPacketNumber_right (a b : PacketNumber) : b ≤ MaxPacketNumber a b := by
  simp only [MaxPacketNumber]
  split_ifs with h
  · exact UInt64.le_of_lt h
  · exact UInt64.le_refl b

theorem MaxPacketNumber_le {a b c : PacketNumber} (ha : a ≤ c) (hb : b ≤ c) :
    MaxPacketNumber a b ≤ c := by
  simp only [MaxPacketNumber]
  split_ifs
  · exact ha
  · exact hb

theorem MinPacketNumber_le_left (a b : PacketNumber) : MinPacketNumber a b ≤ a := by
  simp only [MinPacketNumber]
  split_ifs with h
  · exact UInt64.le_refl a
  · exact UInt64.not_lt.mp h

theorem le_MinPacketNumber {a b c : PacketNumber} (ha : c ≤ a) (hb : c ≤ b) :
    c ≤ MinPacketNumber a b := by
  simp only [MinPacketNumber]
  split_ifs
  · exact ha
  · exact hb

end Utils

open Utils

/-! ## `Olia` -/

/-- The fixed-point shift of the coupled increase. -/
def scale : UInt64 := 10

def oliaScale (val : UInt64) (scale : UInt64) : UInt64 := val <<< scale

/-- `(1 << scale) - 1`, the value of `sndCwndCnt` at which the window grows by a packet; its
negation is the value at which it shrinks by one. -/
def cwndCountLimit : Int64 := 1023

structure Olia where
  /-- Total number of bytes acked two losses ago. -/
  loss1 : ByteCount
  /-- Total number of bytes acked at the last loss. -/
  loss2 : ByteCount
  /-- Current number of bytes acked. -/
  loss3 : ByteCount
  epsilonNum : Int64
  epsilonDen : UInt32
  sndCwndCnt : Int64
  deriving DecidableEq, Repr

def NewOlia (ackedBytes : ByteCount) : Olia :=
  { loss1 := ackedBytes, loss2 := ackedBytes, loss3 := ackedBytes,
    epsilonNum := 0, epsilonDen := 1, sndCwndCnt := 0 }

namespace Olia

variable (o : Olia)

def Reset (o : Olia) : Olia :=
  { o with loss1 := 0, loss2 := 0, loss3 := 0, epsilonNum := 0, epsilonDen := 1, sndCwndCnt := 0 }

def SmoothedBytesBetweenLosses : ByteCount := MaxByteCount (o.loss3 - o.loss2) (o.loss2 - o.loss1)

def UpdateAckedSinceLastLoss (ackedBytes : ByteCount) : Olia := { o with loss3 := o.loss3 + ackedBytes }

def OnPacketLost : Olia := { o with loss1 := o.loss2, loss2 := o.loss3 }

/-- `incDen` of `CongestionWindowAfterAck`: epsilon's denominator times the window times the rate,
with a product that wrapped to `0` read as `1`. -/
def incDen (currentCongestionWindow : PacketNumber) (rate : ByteCount) : UInt64 :=
  if o.epsilonDen.toUInt64 * currentCongestionWindow * rate = 0 then 1
  else o.epsilonDen.toUInt64 * currentCongestionWindow * rate

/-- `sndCwndCnt` once `CongestionWindowAfterAck` has added the increasing term, scaled by
`2 ^ scale` against rounding.  A sender in `M` (epsilon `-1`) subtracts when the rate is above
`epsilonDen · cwndScaled²`; every other sender adds `epsilonNum · rate + epsilonDen · cwndScaled²`. -/
def countAfterAck (currentCongestionWindow : PacketNumber) (rate : ByteCount) (cwndScaled : UInt64) :
    Int64 :=
  if o.epsilonNum = -1 then
    if o.epsilonDen.toUInt64 * cwndScaled * cwndScaled < rate then
      o.sndCwndCnt - (oliaScale (rate - o.epsilonDen.toUInt64 * cwndScaled * cwndScaled) scale /
        o.incDen currentCongestionWindow rate).toInt64
    else
      o.sndCwndCnt + (oliaScale (o.epsilonDen.toUInt64 * cwndScaled * cwndScaled - rate) scale /
        o.incDen currentCongestionWindow rate).toInt64
  else
    o.sndCwndCnt + (oliaScale (o.epsilonNum.toUInt64 * rate +
      o.epsilonDen.toUInt64 * cwndScaled * cwndScaled) scale /
        o.incDen currentCongestionWindow rate).toInt64

/-- The new window and the counter it leaves: a packet more once the counter reaches
`cwndCountLimit`, a packet less (but never below one) once it reaches its negation. -/
def CongestionWindowAfterAck (currentCongestionWindow : PacketNumber) (rate : ByteCount)
    (cwndScaled : UInt64) : Olia × PacketNumber :=
  if o.countAfterAck currentCongestionWindow rate cwndScaled ≥ cwndCountLimit then
    ({ o with sndCwndCnt := 0 }, currentCongestionWindow + 1)
  else if o.countAfterAck currentCongestionWindow rate cwndScaled ≤ 0 - cwndCountLimit then
    ({ o with sndCwndCnt := 0 }, MaxPacketNumber 1 (currentCongestionWindow - 1))
  else
    ({ o with sndCwndCnt := o.countAfterAck currentCongestionWindow rate cwndScaled },
      currentCongestionWindow)

/-- The counter is the only field of `Olia` an acknowledgement moves. -/
theorem CongestionWindowAfterAck_fst (c : PacketNumber) (rate : ByteCount) (cwndScaled : UInt64) :
    (o.CongestionWindowAfterAck c rate cwndScaled).1 =
      { o with sndCwndCnt := (o.CongestionWindowAfterAck c rate cwndScaled).1.sndCwndCnt } := by
  simp only [CongestionWindowAfterAck]
  split_ifs <;> rfl

/-- The counter an acknowledgement leaves lies strictly between the two limits: it is reset when it
reaches either. -/
theorem sndCwndCnt_CongestionWindowAfterAck (c : PacketNumber) (rate : ByteCount)
    (cwndScaled : UInt64) :
    -1023 < (o.CongestionWindowAfterAck c rate cwndScaled).1.sndCwndCnt.toInt ∧
      (o.CongestionWindowAfterAck c rate cwndScaled).1.sndCwndCnt.toInt < 1023 := by
  have hlimit : cwndCountLimit.toInt = 1023 := by decide
  have hneg : (0 - cwndCountLimit).toInt = -1023 := by decide
  simp only [CongestionWindowAfterAck]
  by_cases hup : o.countAfterAck c rate cwndScaled ≥ cwndCountLimit
  · rw [if_pos hup]
    dsimp only
    decide
  by_cases hdown : o.countAfterAck c rate cwndScaled ≤ 0 - cwndCountLimit
  · rw [if_neg hup, if_pos hdown]
    dsimp only
    decide
  rw [if_neg hup, if_neg hdown]
  rw [ge_iff_le, Int64.le_iff_toInt_le, hlimit] at hup
  rw [Int64.le_iff_toInt_le, hneg] at hdown
  dsimp only
  exact ⟨by omega, by omega⟩

/-- The window an acknowledgement leaves: a packet more, the same, or, once the counter has
reached the lower limit, a packet less but at least one. -/
theorem CongestionWindowAfterAck_snd (c : PacketNumber) (rate : ByteCount) (cwndScaled : UInt64) :
    (o.CongestionWindowAfterAck c rate cwndScaled).2 = c + 1 ∨
      (o.CongestionWindowAfterAck c rate cwndScaled).2 = c ∨
      (o.countAfterAck c rate cwndScaled).toInt ≤ -1023 ∧
        (o.CongestionWindowAfterAck c rate cwndScaled).2 = MaxPacketNumber 1 (c - 1) := by
  have hneg : (0 - cwndCountLimit).toInt = -1023 := by decide
  simp only [CongestionWindowAfterAck]
  by_cases hup : o.countAfterAck c rate cwndScaled ≥ cwndCountLimit
  · rw [if_pos hup]
    exact Or.inl rfl
  by_cases hdown : o.countAfterAck c rate cwndScaled ≤ 0 - cwndCountLimit
  · rw [if_neg hup, if_pos hdown]
    rw [Int64.le_iff_toInt_le, hneg] at hdown
    exact Or.inr (Or.inr ⟨hdown, rfl⟩)
  rw [if_neg hup, if_neg hdown]
  exact Or.inr (Or.inl rfl)

end Olia

/-! ## Hybrid slow start -/

def hybridStartLowWindow : ByteCount := 16

def hybridStartMinSamples : UInt32 := 8

def hybridStartDelayFactorExp : Int64 := 3

def hybridStartDelayMinThresholdUs : Int64 := 4000

def hybridStartDelayMaxThresholdUs : Int64 := 16000

structure HybridSlowStart where
  endPacketNumber : PacketNumber
  lastSentPacketNumber : PacketNumber
  started : Bool
  currentMinRTT : Duration
  rttSampleCount : UInt32
  hystartFound : Bool
  deriving DecidableEq, Repr

namespace HybridSlowStart

variable (s : HybridSlowStart)

/-- The zero value a sender starts with. -/
def zero : HybridSlowStart :=
  { endPacketNumber := 0, lastSentPacketNumber := 0, started := false, currentMinRTT := 0,
    rttSampleCount := 0, hystartFound := false }

def StartReceiveRound (lastSent : PacketNumber) : HybridSlowStart :=
  { s with endPacketNumber := lastSent, currentMinRTT := 0, rttSampleCount := 0, started := true }

def IsEndOfRound (ack : PacketNumber) : Bool := s.endPacketNumber < ack

/-- The first eight RTT samples of a round keep their minimum; the eighth compares it with the
session's minimum plus an eighth of it, clamped to `[4 ms, 16 ms]`. -/
def sampleRTT (latestRTT minRTT : Duration) : HybridSlowStart :=
  let s := { s with rttSampleCount := s.rttSampleCount + 1 }
  let s :=
    if s.rttSampleCount ≤ hybridStartMinSamples ∧ (s.currentMinRTT = 0 ∨ s.currentMinRTT > latestRTT)
    then { s with currentMinRTT := latestRTT } else s
  if s.rttSampleCount = hybridStartMinSamples then
    let minRTTincreaseThresholdUs := (minRTT / Microsecond) >>> hybridStartDelayFactorExp
    let minRTTincreaseThresholdUs := MinInt64 minRTTincreaseThresholdUs hybridStartDelayMaxThresholdUs
    let minRTTincreaseThreshold :=
      MaxInt64 minRTTincreaseThresholdUs hybridStartDelayMinThresholdUs * Microsecond
    if s.currentMinRTT > minRTT + minRTTincreaseThreshold then { s with hystartFound := true } else s
  else s

def ShouldExitSlowStart (latestRTT minRTT : Duration) (congestionWindow : ByteCount) :
    HybridSlowStart × Bool :=
  let s := if !s.started then s.StartReceiveRound s.lastSentPacketNumber else s
  if s.hystartFound then (s, true)
  else
    let s := s.sampleRTT latestRTT minRTT
    (s, congestionWindow ≥ hybridStartLowWindow && s.hystartFound)

def OnPacketSent (packetNumber : PacketNumber) : HybridSlowStart :=
  { s with lastSentPacketNumber := packetNumber }

def OnPacketAcked (ackedPacketNumber : PacketNumber) : HybridSlowStart :=
  if s.IsEndOfRound ackedPacketNumber then { s with started := false } else s

def Restart : HybridSlowStart := { s with started := false, hystartFound := false }

end HybridSlowStart

/-! ## `OliaSender` -/

/-- What the sender reads of its path's `RTTStats`. -/
structure RTTStats where
  minRTT : Duration
  latestRTT : Duration
  smoothedRTT : Duration
  deriving DecidableEq, Repr

structure connectionStats where
  slowstartPacketsLost : PacketNumber
  slowstartBytesLost : ByteCount
  deriving DecidableEq, Repr

def maxBurstBytes : ByteCount := 3 * DefaultTCPMSS

def defaultMinimumCongestionWindow : PacketNumber := 2

def defaultNumConnections : Nat := 2

structure OliaSender where
  hybridSlowStart : HybridSlowStart
  rttStats : RTTStats
  stats : connectionStats
  olia : Olia
  largestSentPacketNumber : PacketNumber
  largestAckedPacketNumber : PacketNumber
  /-- The largest packet number outstanding when the window was last cut back. -/
  largestSentAtLastCutback : PacketNumber
  /-- In packets. -/
  congestionWindow : PacketNumber
  /-- In packets; ssthresh. -/
  slowstartThreshold : PacketNumber
  lastCutbackExitedSlowstart : Bool
  slowStartLargeReduction : Bool
  minCongestionWindow : PacketNumber
  maxTCPCongestionWindow : PacketNumber
  numConnections : Nat
  initialCongestionWindow : PacketNumber
  initialMaxCongestionWindow : PacketNumber
  deriving DecidableEq, Repr

def NewOliaSender (rttStats : RTTStats)
    (initialCongestionWindow initialMaxCongestionWindow : PacketNumber) : OliaSender :=
  { hybridSlowStart := HybridSlowStart.zero,
    rttStats,
    stats := ⟨0, 0⟩,
    olia := NewOlia 0,
    largestSentPacketNumber := 0,
    largestAckedPacketNumber := 0,
    largestSentAtLastCutback := 0,
    congestionWindow := initialCongestionWindow,
    slowstartThreshold := initialMaxCongestionWindow,
    lastCutbackExitedSlowstart := false,
    slowStartLargeReduction := false,
    minCongestionWindow := defaultMinimumCongestionWindow,
    maxTCPCongestionWindow := initialMaxCongestionWindow,
    numConnections := defaultNumConnections,
    initialCongestionWindow,
    initialMaxCongestionWindow }

/-- `PacketNumber(float32(cwnd) * RenoBeta())`, with `RenoBeta() = (n - 1 + 0.7) / n` for `n`
emulated connections.  Below `2 ^ 12` packets the `float32` product truncates to this quotient. -/
def RenoCutback (numConnections : Nat) (congestionWindow : PacketNumber) : PacketNumber :=
  (congestionWindow.toNat * (10 * numConnections - 3) / (10 * numConnections) : Nat).toUInt64

/-- The cutback never grows the window, since `RenoBeta() ≤ 1`. -/
theorem RenoCutback_le (numConnections : Nat) (congestionWindow : PacketNumber) :
    RenoCutback numConnections congestionWindow ≤ congestionWindow := by
  have hq : congestionWindow.toNat * (10 * numConnections - 3) / (10 * numConnections) ≤
      congestionWindow.toNat := by
    apply Nat.div_le_of_le_mul
    calc congestionWindow.toNat * (10 * numConnections - 3)
        ≤ congestionWindow.toNat * (10 * numConnections) := Nat.mul_le_mul_left _ (Nat.sub_le _ _)
      _ = 10 * numConnections * congestionWindow.toNat := Nat.mul_comm _ _
  rw [UInt64.le_iff_toNat_le, RenoCutback, Nat.toUInt64_eq, UInt64.toNat_ofNat',
    Nat.mod_eq_of_lt (lt_of_le_of_lt hq congestionWindow.toNat_lt)]
  exact hq

namespace OliaSender

variable (o : OliaSender)

def GetCongestionWindow : ByteCount := o.congestionWindow * DefaultTCPMSS

def GetSlowStartThreshold : ByteCount := o.slowstartThreshold * DefaultTCPMSS

def InSlowStart : Bool := o.GetCongestionWindow < o.GetSlowStartThreshold

def InRecovery : Bool :=
  o.largestAckedPacketNumber ≤ o.largestSentAtLastCutback && o.largestAckedPacketNumber ≠ 0

def ExitSlowstart : OliaSender := { o with slowstartThreshold := o.congestionWindow }

def isCwndLimited (bytesInFlight : ByteCount) : Bool :=
  if bytesInFlight ≥ o.GetCongestionWindow then true
  else
    (o.InSlowStart && bytesInFlight > o.GetCongestionWindow / 2) ||
      o.GetCongestionWindow - bytesInFlight ≤ maxBurstBytes

/-- Only data packets count; the PRR sender's share of the call is left out. -/
def OnPacketSent (packetNumber : PacketNumber) (isRetransmittable : Bool) : OliaSender × Bool :=
  if !isRetransmittable then (o, false)
  else
    ({ o with largestSentPacketNumber := packetNumber,
              hybridSlowStart := o.hybridSlowStart.OnPacketSent packetNumber }, true)

def MaybeExitSlowStart : OliaSender :=
  if o.InSlowStart then
    let (hybridSlowStart, exit) := o.hybridSlowStart.ShouldExitSlowStart o.rttStats.latestRTT
      o.rttStats.minRTT (o.GetCongestionWindow / DefaultTCPMSS)
    let o := { o with hybridSlowStart }
    if exit then o.ExitSlowstart else o
  else o

/-- A loss of a packet sent before the last cutback: NewReno counts it into the same loss event,
and only the large-reduction slow start takes a packet off for every MSS lost. -/
def OnPacketLostInEvent (lostBytes : ByteCount) : OliaSender :=
  if o.lastCutbackExitedSlowstart then
    let stats : connectionStats :=
      { slowstartPacketsLost := o.stats.slowstartPacketsLost + 1,
        slowstartBytesLost := o.stats.slowstartBytesLost + lostBytes }
    let o := { o with stats }
    if o.slowStartLargeReduction then
      let o :=
        if stats.slowstartPacketsLost = 1 ∨
            stats.slowstartBytesLost / DefaultTCPMSS > (stats.slowstartBytesLost - lostBytes) / DefaultTCPMSS
        then { o with congestionWindow := MaxPacketNumber (o.congestionWindow - 1) o.minCongestionWindow }
        else o
      { o with slowstartThreshold := o.congestionWindow }
    else o
  else o

/-- A loss that starts a new loss event: the window is cut back, to no less than the minimum. -/
def OnPacketLostCutback : OliaSender :=
  let o := { o with
    lastCutbackExitedSlowstart := o.InSlowStart,
    stats := if o.InSlowStart then
        { o.stats with slowstartPacketsLost := o.stats.slowstartPacketsLost + 1 }
      else o.stats,
    olia := o.olia.OnPacketLost }
  let cwnd :=
    if o.slowStartLargeReduction && o.InSlowStart then o.congestionWindow - 1
    else RenoCutback o.numConnections o.congestionWindow
  -- Enforce a minimum congestion window.
  let cwnd := if cwnd < o.minCongestionWindow then o.minCongestionWindow else cwnd
  { o with congestionWindow := cwnd, slowstartThreshold := cwnd,
           largestSentAtLastCutback := o.largestSentPacketNumber }

def OnPacketLost (packetNumber : PacketNumber) (lostBytes : ByteCount) : OliaSender :=
  if packetNumber ≤ o.largestSentAtLastCutback then o.OnPacketLostInEvent lostBytes
  else o.OnPacketLostCutback

def OnRetransmissionTimeout (packetsRetransmitted : Bool) : OliaSender :=
  let o := { o with largestSentAtLastCutback := 0 }
  if !packetsRetransmitted then o
  else
    { o with hybridSlowStart := o.hybridSlowStart.Restart, olia := o.olia.Reset,
             slowstartThreshold := o.congestionWindow / 2,
             congestionWindow := o.minCongestionWindow }

def OnConnectionMigration : OliaSender :=
  { o with hybridSlowStart := o.hybridSlowStart.Restart,
           largestSentPacketNumber := 0,
           largestAckedPacketNumber := 0,
           largestSentAtLastCutback := 0,
           lastCutbackExitedSlowstart := false,
           olia := o.olia.Reset,
           congestionWindow := o.initialCongestionWindow,
           slowstartThreshold := o.initialMaxCongestionWindow,
           maxTCPCongestionWindow := o.initialMaxCongestionWindow }

/-- The coupled increase of congestion avoidance, with the epsilon `getEpsilon` has just given the
sender and the `rate` of all paths. -/
def increaseCoupled (rate : ByteCount) : OliaSender :=
  { o with
    olia := (o.olia.CongestionWindowAfterAck o.congestionWindow rate
      (oliaScale o.congestionWindow scale)).1,
    congestionWindow := MinPacketNumber o.maxTCPCongestionWindow
      (o.olia.CongestionWindowAfterAck o.congestionWindow rate
        (oliaScale o.congestionWindow scale)).2 }

end OliaSender

/-! ## The shared map -/

/-- Writing through the pointer the map holds for `pathID`. -/
def updateSender (oliaSenders : List (PathID × OliaSender)) (pathID : PathID)
    (f : OliaSender → OliaSender) : List (PathID × OliaSender) :=
  oliaSenders.map fun e => if e.1 = pathID then (e.1, f e.2) else e

theorem keys_updateSender (m : List (PathID × OliaSender)) (pathID : PathID)
    (f : OliaSender → OliaSender) : (updateSender m pathID f).map Prod.fst = m.map Prod.fst := by
  simp only [updateSender, List.map_map]
  apply List.map_congr_left
  intro e _
  by_cases h : e.1 = pathID <;> simp [h]

/-- An entry after the write is an entry of another path, or the path's sender rewritten. -/
theorem mem_updateSender {m : List (PathID × OliaSender)} {pathID : PathID}
    {f : OliaSender → OliaSender} {e : PathID × OliaSender} (he : e ∈ updateSender m pathID f) :
    e.1 ≠ pathID ∧ e ∈ m ∨ ∃ o, (pathID, o) ∈ m ∧ e = (pathID, f o) := by
  obtain ⟨⟨k, o⟩, hmem, rfl⟩ := List.mem_map.mp he
  by_cases h : k = pathID
  · subst h
    exact Or.inr ⟨o, hmem, by simp⟩
  · exact Or.inl ⟨by simp [h], by simp [h, hmem]⟩

def getMaxCwnd (m : List (PathID × OliaSender)) : PacketNumber :=
  m.foldl (fun bestCwnd e => MaxPacketNumber bestCwnd e.2.congestionWindow) 0

/-- The fold of `getMaxCwnd` ends at least at where it starts and at every window it passes. -/
theorem le_foldl_MaxPacketNumber (m : List (PathID × OliaSender)) (acc : PacketNumber) :
    acc ≤ m.foldl (fun bestCwnd e => MaxPacketNumber bestCwnd e.2.congestionWindow) acc ∧
      ∀ e ∈ m, e.2.congestionWindow ≤
        m.foldl (fun bestCwnd e => MaxPacketNumber bestCwnd e.2.congestionWindow) acc := by
  induction m generalizing acc with
  | nil => exact ⟨UInt64.le_refl acc, by simp⟩
  | cons e m ih =>
    obtain ⟨hacc, hmem⟩ := ih (MaxPacketNumber acc e.2.congestionWindow)
    rw [List.foldl_cons]
    refine ⟨UInt64.le_trans (le_MaxPacketNumber_left _ _) hacc, ?_⟩
    intro e' he'
    rcases List.mem_cons.mp he' with rfl | he'
    · exact UInt64.le_trans (le_MaxPacketNumber_right _ _) hacc
    · exact hmem e' he'

theorem le_getMaxCwnd {m : List (PathID × OliaSender)} {e : PathID × OliaSender} (he : e ∈ m) :
    e.2.congestionWindow ≤ getMaxCwnd m :=
  (le_foldl_MaxPacketNumber m 0).2 e he

/-- The sum over the paths of `cwnd · pathRTT / RTT` (plus one, against a zero divisor), squared. -/
def getRate (m : List (PathID × OliaSender)) (pathRTT : Duration) : ByteCount :=
  let rate := m.foldl (fun rate e =>
    if e.2.rttStats.smoothedRTT ≠ 0 then
      rate + oliaScale e.2.congestionWindow scale * pathRTT.toUInt64 /
        e.2.rttStats.smoothedRTT.toUInt64
    else rate) 1
  rate * rate

/-- The sum `getRate` squares, before `rate *= rate`. -/
def rateSum (m : List (PathID × OliaSender)) (pathRTT : Duration) : ByteCount :=
  m.foldl (fun rate e =>
    if e.2.rttStats.smoothedRTT ≠ 0 then
      rate + oliaScale e.2.congestionWindow scale * pathRTT.toUInt64 /
        e.2.rttStats.smoothedRTT.toUInt64
    else rate) 1

theorem getRate_eq (m : List (PathID × OliaSender)) (pathRTT : Duration) :
    getRate m pathRTT = rateSum m pathRTT * rateSum m pathRTT := rfl

/-- `tmpRTT`: the square of a sender's smoothed RTT. -/
def squaredRTT (os : OliaSender) : Duration := os.rttStats.smoothedRTT * os.rttStats.smoothedRTT

/-- The comparison of `getEpsilon`: the sender's bytes between losses per squared RTT are at least
those of the best path so far, cross-multiplied in `int64`. -/
def atLeastBest (bestRTT : Duration) (bestBytes : ByteCount) (os : OliaSender) : Bool :=
  os.olia.SmoothedBytesBetweenLosses.toInt64 * bestRTT ≥ bestBytes.toInt64 * squaredRTT os

/-- The first loop of `getEpsilon`: the best path, as the pair `(bestRTT, bestBytes)`. -/
def getBest (m : List (PathID × OliaSender)) : Duration × ByteCount :=
  m.foldl (fun best e =>
    if atLeastBest best.1 best.2 e.2 then (squaredRTT e.2, e.2.olia.SmoothedBytesBetweenLosses)
    else best) (0, 0)

/-- The second loop of `getEpsilon`: the `uint8` sizes of `M`, the paths with the largest window,
and of `BNotM`, the best paths among the others. -/
def countPaths (m : List (PathID × OliaSender)) (maxCwnd : PacketNumber) (bestRTT : Duration)
    (bestBytes : ByteCount) : UInt8 × UInt8 :=
  m.foldl (fun counts e =>
    if e.2.congestionWindow = maxCwnd then (counts.1 + 1, counts.2)
    else if atLeastBest bestRTT bestBytes e.2 then (counts.1, counts.2 + 1)
    else counts) (0, 0)

/-- The two counters are the numbers of such paths, as `uint8`s. -/
theorem countPaths_eq (m : List (PathID × OliaSender)) (maxCwnd : PacketNumber)
    (bestRTT : Duration) (bestBytes : ByteCount) :
    countPaths m maxCwnd bestRTT bestBytes =
      ((m.countP fun e => e.2.congestionWindow = maxCwnd).toUInt8,
        (m.countP fun e => e.2.congestionWindow ≠ maxCwnd ∧ atLeastBest bestRTT bestBytes e.2).toUInt8) := by
  -- the fold counts from any start
  suffices h : ∀ (l : List (PathID × OliaSender)) (a b : UInt8),
      l.foldl (fun counts e =>
        if e.2.congestionWindow = maxCwnd then (counts.1 + 1, counts.2)
        else if atLeastBest bestRTT bestBytes e.2 then (counts.1, counts.2 + 1)
        else counts) (a, b) =
      (a + (l.countP fun e => e.2.congestionWindow = maxCwnd).toUInt8,
        b + (l.countP fun e =>
          e.2.congestionWindow ≠ maxCwnd ∧ atLeastBest bestRTT bestBytes e.2).toUInt8) by
    simp only [countPaths]
    rw [h m 0 0, UInt8.zero_add, UInt8.zero_add]
  intro l
  induction l with
  | nil => simp
  | cons e l ih =>
    intro a b
    rw [List.foldl_cons, List.countP_cons, List.countP_cons]
    by_cases hmax : e.2.congestionWindow = maxCwnd
    · rw [if_pos hmax, ih]
      simp only [hmax, decide_true, if_true, ne_eq, not_true_eq_false, false_and, decide_false,
        Bool.false_eq_true, if_false, Nat.add_zero, Nat.toUInt8_eq, UInt8.ofNat_add,
        UInt8.ofNat_one]
      exact Prod.ext (by ac_rfl) rfl
    by_cases hbest : atLeastBest bestRTT bestBytes e.2 = true
    · rw [if_neg hmax, if_pos hbest, ih]
      simp only [hmax, hbest, decide_false, Bool.false_eq_true, if_false, Nat.add_zero, ne_eq,
        not_false_eq_true, and_self, decide_true, if_true, Nat.toUInt8_eq, UInt8.ofNat_add,
        UInt8.ofNat_one]
      exact Prod.ext rfl (by ac_rfl)
    · rw [if_neg hmax, if_neg hbest, ih]
      simp [hmax, hbest]

/-- The third loop of `getEpsilon`, for one sender. -/
def setEpsilon (len : Nat) (maxCwnd : PacketNumber) (bestRTT : Duration) (bestBytes : ByteCount)
    (M BNotM : UInt8) (os : OliaSender) : OliaSender :=
  if BNotM = 0 then { os with olia := { os.olia with epsilonNum := 0, epsilonDen := 1 } }
  else if os.congestionWindow < maxCwnd ∧ atLeastBest bestRTT bestBytes os then
    { os with olia := { os.olia with epsilonNum := 1, epsilonDen := len.toUInt32 * BNotM.toUInt32 } }
  else if os.congestionWindow = maxCwnd then
    { os with olia := { os.olia with epsilonNum := -1, epsilonDen := len.toUInt32 * M.toUInt32 } }
  else { os with olia := { os.olia with epsilonNum := 0, epsilonDen := 1 } }

/-- The three epsilons a sender can get, with what each requires. -/
theorem setEpsilon_cases (len : Nat) (maxCwnd : PacketNumber) (bestRTT : Duration)
    (bestBytes : ByteCount) (M BNotM : UInt8) (os : OliaSender) :
    setEpsilon len maxCwnd bestRTT bestBytes M BNotM os =
        { os with olia := { os.olia with epsilonNum := 0, epsilonDen := 1 } } ∨
      BNotM ≠ 0 ∧ os.congestionWindow < maxCwnd ∧ atLeastBest bestRTT bestBytes os = true ∧
        setEpsilon len maxCwnd bestRTT bestBytes M BNotM os =
          { os with olia := { os.olia with epsilonNum := 1,
                                           epsilonDen := len.toUInt32 * BNotM.toUInt32 } } ∨
      BNotM ≠ 0 ∧ os.congestionWindow = maxCwnd ∧
        setEpsilon len maxCwnd bestRTT bestBytes M BNotM os =
          { os with olia := { os.olia with epsilonNum := -1,
                                           epsilonDen := len.toUInt32 * M.toUInt32 } } := by
  simp only [setEpsilon]
  by_cases hzero : BNotM = 0
  · exact Or.inl (if_pos hzero)
  rw [if_neg hzero]
  by_cases hbelow : os.congestionWindow < maxCwnd ∧ atLeastBest bestRTT bestBytes os = true
  · exact Or.inr (Or.inl ⟨hzero, hbelow.1, hbelow.2, if_pos hbelow⟩)
  rw [if_neg hbelow]
  by_cases hmax : os.congestionWindow = maxCwnd
  · exact Or.inr (Or.inr ⟨hzero, hmax, if_pos hmax⟩)
  · exact Or.inl (if_neg hmax)

/-- What one sender of `m` gets from `getEpsilon`: the third loop, with what the first two found. -/
def epsilonFor (m : List (PathID × OliaSender)) (os : OliaSender) : OliaSender :=
  setEpsilon m.length (getMaxCwnd m) (getBest m).1 (getBest m).2
    (countPaths m (getMaxCwnd m) (getBest m).1 (getBest m).2).1
    (countPaths m (getMaxCwnd m) (getBest m).1 (getBest m).2).2 os

def getEpsilon (m : List (PathID × OliaSender)) : List (PathID × OliaSender) :=
  m.map fun e => (e.1, epsilonFor m e.2)

theorem keys_getEpsilon (m : List (PathID × OliaSender)) :
    (getEpsilon m).map Prod.fst = m.map Prod.fst := by
  simp [getEpsilon, List.map_map, Function.comp_def]

theorem mem_getEpsilon {m : List (PathID × OliaSender)} {e : PathID × OliaSender}
    (he : e ∈ getEpsilon m) : ∃ o, (e.1, o) ∈ m ∧ e.2 = epsilonFor m o := by
  obtain ⟨⟨k, o⟩, hmem, rfl⟩ := List.mem_map.mp he
  exact ⟨o, hmem, rfl⟩

/-- Do not increase the window unless the sender is close to using it; in slow start add a packet,
otherwise make the coupled increase. -/
def maybeIncreaseCwnd (oliaSenders : List (PathID × OliaSender)) (pathID : PathID)
    (bytesInFlight : ByteCount) : List (PathID × OliaSender) :=
  match oliaSenders.lookup pathID with
  | none => oliaSenders
  | some o =>
    if !o.isCwndLimited bytesInFlight then oliaSenders
    else if o.congestionWindow ≥ o.maxTCPCongestionWindow then oliaSenders
    else if o.InSlowStart then
      updateSender oliaSenders pathID fun o => { o with congestionWindow := o.congestionWindow + 1 }
    else
      updateSender (getEpsilon oliaSenders) pathID
        (·.increaseCoupled (getRate (getEpsilon oliaSenders) o.rttStats.smoothedRTT))

/-- A sender in congestion avoidance at `congestionWindow` packets, with smoothed RTT `rtt`. -/
def avoidingSender (congestionWindow : PacketNumber) (rtt : Duration) : OliaSender :=
  { NewOliaSender ⟨rtt, rtt, rtt⟩ congestionWindow DefaultMaxCongestionWindow.toUInt64 with
    slowstartThreshold := congestionWindow }

/-- Two paths at the window cap, one with a 10 s and one with a 1 ms smoothed RTT. -/
def spreadSenders : List (PathID × OliaSender) :=
  [(1, avoidingSender 2499 10000000000), (2, avoidingSender 2500 1000000)]

/-- Within the windows and RTTs of a real connection, an acknowledgement on the 10 s path takes the
coupled increase, and the `rate *= rate` of `getRate` wraps: the sum it squares is `25602558977`,
whose square is above `2 ^ 69`. -/
theorem getRate_wraps_in_range :
    (∀ e ∈ spreadSenders, e.2.congestionWindow ≤ DefaultMaxCongestionWindow.toUInt64 ∧
      1000000 ≤ e.2.rttStats.smoothedRTT ∧ e.2.rttStats.smoothedRTT ≤ 10000000000) ∧
    ((spreadSenders.lookup 1).map fun o => o.isCwndLimited (2499 * DefaultTCPMSS) &&
      o.congestionWindow < o.maxTCPCongestionWindow && !o.InSlowStart) = some true ∧
    (rateSum (getEpsilon spreadSenders) 10000000000).toNat = 25602558977 ∧
    (getRate (getEpsilon spreadSenders) 10000000000).toNat ≠ 25602558977 ^ 2 := by
  decide

def OnPacketAcked (oliaSenders : List (PathID × OliaSender)) (pathID : PathID)
    (ackedPacketNumber : PacketNumber) (ackedBytes bytesInFlight : ByteCount) :
    List (PathID × OliaSender) :=
  match oliaSenders.lookup pathID with
  | none => oliaSenders
  | some o =>
    let o := { o with
      largestAckedPacketNumber := MaxPacketNumber ackedPacketNumber o.largestAckedPacketNumber }
    -- PRR is used when in recovery
    if o.InRecovery then updateSender oliaSenders pathID fun _ => o
    else
      let o := { o with olia := o.olia.UpdateAckedSinceLastLoss ackedBytes }
      updateSender (maybeIncreaseCwnd (updateSender oliaSenders pathID fun _ => o) pathID bytesInFlight)
        pathID fun o =>
          if o.InSlowStart then
            { o with hybridSlowStart := o.hybridSlowStart.OnPacketAcked ackedPacketNumber }
          else o

/-- `path.setup`: every path but the initial one gets a new sender in the map. -/
def setup (oliaSenders : List (PathID × OliaSender)) (pathID : PathID) (rttStats : RTTStats) :
    List (PathID × OliaSender) :=
  if pathID ≠ InitialPathID then
    (pathID, NewOliaSender rttStats InitialCongestionWindow.toUInt64
      DefaultMaxCongestionWindow.toUInt64) :: oliaSenders.filter (·.1 ≠ pathID)
  else oliaSenders

/-- The calls the senders of the map receive, on any path, and the path's RTT statistics moving
as its sent packet handler measures. -/
inductive OliaCall where
  | setup (pathID : PathID) (rttStats : RTTStats)
  | UpdateRTT (pathID : PathID) (rttStats : RTTStats)
  | OnPacketSent (pathID : PathID) (packetNumber : PacketNumber) (isRetransmittable : Bool)
  | OnPacketAcked (pathID : PathID) (ackedPacketNumber : PacketNumber)
      (ackedBytes bytesInFlight : ByteCount)
  | OnPacketLost (pathID : PathID) (packetNumber : PacketNumber) (lostBytes : ByteCount)
  | OnRetransmissionTimeout (pathID : PathID) (packetsRetransmitted : Bool)
  | MaybeExitSlowStart (pathID : PathID)
  | OnConnectionMigration (pathID : PathID)
  deriving DecidableEq, Repr

def OliaCall.apply (m : List (PathID × OliaSender)) : OliaCall → List (PathID × OliaSender)
  | .setup pathID rttStats => Congestion.setup m pathID rttStats
  | .UpdateRTT pathID rttStats => updateSender m pathID fun o => { o with rttStats }
  | .OnPacketSent pathID packetNumber isRetransmittable =>
    updateSender m pathID fun o => (o.OnPacketSent packetNumber isRetransmittable).1
  | .OnPacketAcked pathID ackedPacketNumber ackedBytes bytesInFlight =>
    Congestion.OnPacketAcked m pathID ackedPacketNumber ackedBytes bytesInFlight
  | .OnPacketLost pathID packetNumber lostBytes =>
    updateSender m pathID (·.OnPacketLost packetNumber lostBytes)
  | .OnRetransmissionTimeout pathID packetsRetransmitted =>
    updateSender m pathID (·.OnRetransmissionTimeout packetsRetransmitted)
  | .MaybeExitSlowStart pathID => updateSender m pathID (·.MaybeExitSlowStart)
  | .OnConnectionMigration pathID => updateSender m pathID (·.OnConnectionMigration)

/-- The path a call is made on. -/
def OliaCall.pathID : OliaCall → PathID
  | .setup pathID _ | .UpdateRTT pathID _ | .OnPacketSent pathID _ _ | .OnPacketAcked pathID _ _ _
  | .OnPacketLost pathID _ _ | .OnRetransmissionTimeout pathID _ | .MaybeExitSlowStart pathID
  | .OnConnectionMigration pathID => pathID

theorem keys_maybeIncreaseCwnd (m : List (PathID × OliaSender)) (pathID : PathID)
    (bytesInFlight : ByteCount) :
    (maybeIncreaseCwnd m pathID bytesInFlight).map Prod.fst = m.map Prod.fst := by
  simp only [maybeIncreaseCwnd]
  split
  · rfl
  split
  · rfl
  split
  · rfl
  split
  · exact keys_updateSender _ _ _
  · rw [keys_updateSender, keys_getEpsilon]

theorem keys_OnPacketAcked (m : List (PathID × OliaSender)) (pathID : PathID)
    (ackedPacketNumber : PacketNumber) (ackedBytes bytesInFlight : ByteCount) :
    (OnPacketAcked m pathID ackedPacketNumber ackedBytes bytesInFlight).map Prod.fst =
      m.map Prod.fst := by
  simp only [OnPacketAcked]
  split
  · rfl
  split
  · exact keys_updateSender _ _ _
  · rw [keys_updateSender, keys_maybeIncreaseCwnd, keys_updateSender]

/-- A call adds no path to the map but its own. -/
theorem keys_apply (m : List (PathID × OliaSender)) (call : OliaCall) {k : PathID}
    (hk : k ∈ (call.apply m).map Prod.fst) : k ∈ m.map Prod.fst ∨ k = call.pathID := by
  cases call with
  | setup pathID rttStats =>
    simp only [OliaCall.apply, setup] at hk
    split at hk
    · rcases List.mem_cons.mp hk with rfl | hk
      · exact Or.inr rfl
      · exact Or.inl (List.Sublist.subset (List.Sublist.map Prod.fst List.filter_sublist) hk)
    · exact Or.inl hk
  | OnPacketAcked pathID ackedPacketNumber ackedBytes bytesInFlight =>
    simp only [OliaCall.apply, keys_OnPacketAcked] at hk
    exact Or.inl hk
  | _ =>
    simp only [OliaCall.apply, keys_updateSender] at hk
    exact Or.inl hk

/-- The map after a sequence of calls. -/
def runOlia (m : List (PathID × OliaSender)) (calls : List OliaCall) : List (PathID × OliaSender) :=
  calls.foldl OliaCall.apply m

end Congestion
end PStream
