import PStream.Wire.Ack

/-!
# Received packets and the ACKs for them

`receivedPacketHistory` keeps the packet numbers received on a path as a list of disjoint
intervals, lowest first (Go's doubly linked list, from `Front` to `Back`).  A new packet extends
an interval, merges two, or opens a new one; the walk that finds the place starts at the back,
since packets mostly arrive in order.  `DeleteUpTo` drops everything at or below a limit.

`receivedPacketHandler` wraps the history with the largest packet number observed and the logic
that decides when an ACK is due; `GetAckFrame` and `GetClosePathFrame` turn the history into a
frame.  The clock is an argument (`now`, nanoseconds); the zero `time.Time` of an unset alarm is
`none`.

`ReceivedPacket` raises `largestObserved` before it asks the history to record the packet, and the
history refuses a packet once it tracks `MaxTrackedReceivedAckRanges` intervals.  After such a
refusal the next ACK claims a largest acknowledged packet that no range contains; the last section
builds 2500 intervals and sends packet 5002 after them.
-/

set_option autoImplicit false

namespace PStream
namespace Ackhandler

open Wire

/-- `utils.PacketInterval`. -/
structure PacketInterval where
  Start : PacketNumber
  End : PacketNumber
  deriving DecidableEq, Repr

/-- A `receivedPacketHistory`. -/
structure ReceivedPacketHistory where
  ranges : List PacketInterval
  lowestInReceivedPacketNumbers : PacketNumber
  deriving DecidableEq, Repr

def errTooManyOutstandingReceivedAckRanges : String :=
  "TooManyOutstandingReceivedPackets: Too many outstanding received ACK ranges"

/-- `newReceivedPacketHistory`. -/
def newReceivedPacketHistory : ReceivedPacketHistory := ⟨[], 0⟩

namespace ReceivedPacketHistory

/-- The loop of `ReceivedPacket`, from the back of the list: the current element is the head of
`revPrev`, which holds the elements before it in reverse; `after` holds those behind it.  The
packet is already there, extends the element (and then maybe merges it with the one before), goes
right behind it, or the walk moves one element to the front.  Past the front, the packet opens a
new first interval. -/
def walk (p : PacketNumber) : List PacketInterval → List PacketInterval → List PacketInterval
  | [], after => ⟨p, p⟩ :: after
  | el :: revPrev, after =>
    if p ≥ el.Start ∧ p ≤ el.End then revPrev.reverse ++ el :: after
    else if el.End = p - 1 ∨ el.Start = p + 1 then
      let el := if el.End = p - 1 then { el with End := p } else { el with Start := p }
      match revPrev with
      | prev :: revPrev' =>
        if prev.End + 1 = el.Start then revPrev'.reverse ++ { prev with End := el.End } :: after
        else revPrev.reverse ++ el :: after
      | [] => el :: after
    else if p > el.End then revPrev.reverse ++ el :: ⟨p, p⟩ :: after
    else walk p revPrev (el :: after)

/-- `ReceivedPacket`: record `p`, unless `MaxTrackedReceivedAckRanges` intervals are tracked
already. -/
def ReceivedPacket (h : ReceivedPacketHistory) (p : PacketNumber) :
    ReceivedPacketHistory × Except String Unit :=
  if h.ranges.length ≥ Protocol.MaxTrackedReceivedAckRanges then
    (h, .error errTooManyOutstandingReceivedAckRanges)
  else if h.ranges = [] then ({ h with ranges := [⟨p, p⟩] }, .ok ())
  else ({ h with ranges := walk p h.ranges.reverse [] }, .ok ())

/-- The loop of `DeleteUpTo`, from the front: cut the interval that holds `p`, drop those that end
at or below it, and stop at the first one above it. -/
def deleteLoop (p : PacketNumber) : List PacketInterval → List PacketInterval
  | [] => []
  | el :: rest =>
    if p ≥ el.Start ∧ p < el.End then { el with Start := p + 1 } :: deleteLoop p rest
    else if el.End ≤ p then deleteLoop p rest
    else el :: rest

/-- `DeleteUpTo`. -/
def DeleteUpTo (h : ReceivedPacketHistory) (p : PacketNumber) : ReceivedPacketHistory :=
  { ranges := deleteLoop p h.ranges
    lowestInReceivedPacketNumbers := max h.lowestInReceivedPacketNumbers (p + 1) }

/-- `GetAckRanges`: the intervals as ACK ranges, highest first. -/
def GetAckRanges (h : ReceivedPacketHistory) : List AckRange :=
  h.ranges.reverse.map fun r => { First := r.Start, Last := r.End }

/-- `GetHighestAckRange`: the last interval, or the zero range. -/
def GetHighestAckRange (h : ReceivedPacketHistory) : AckRange :=
  match h.ranges.getLast? with
  | some r => { First := r.Start, Last := r.End }
  | none => { First := 0, Last := 0 }

end ReceivedPacketHistory

/-- A `receivedPacketHandler`.  The Go `int` counters are naturals: they are reset with every
ACK and never come near overflow. -/
structure ReceivedPacketHandler where
  largestObserved : PacketNumber
  lowerLimit : PacketNumber
  largestObservedReceivedTime : Int
  packetHistory : ReceivedPacketHistory
  ackSendDelay : Int
  packetsReceivedSinceLastAck : Nat
  retransmittablePacketsReceivedSinceLastAck : Nat
  ackQueued : Bool
  ackAlarm : Option Int
  lastAck : Option AckFrame
  version : VersionNumber
  packets : UInt64

/-- `protocol.AckSendDelay`, 25 ms. -/
def AckSendDelay : Int := 25 * 1000000

def errInvalidPacketNumber : String := "ReceivedPacketHandler: Invalid packet number"

/-- `NewReceivedPacketHandler`. -/
def NewReceivedPacketHandler (version : VersionNumber) : ReceivedPacketHandler :=
  { largestObserved := 0, lowerLimit := 0, largestObservedReceivedTime := 0
    packetHistory := newReceivedPacketHistory, ackSendDelay := AckSendDelay
    packetsReceivedSinceLastAck := 0, retransmittablePacketsReceivedSinceLastAck := 0
    ackQueued := false, ackAlarm := none, lastAck := none, version, packets := 0 }

namespace ReceivedPacketHandler

/-- `maybeQueueAck`: queue an ACK for the first packet, every 20 packets before QUIC 39, for a
packet below the last ACK's largest, for a new gap above it, and for every second retransmittable
packet; otherwise arm the alarm.  The Go method sets `ackQueued` in one `if` after the other;
here the conditions are collected first and the record is updated once. -/
def maybeQueueAck (h : ReceivedPacketHandler) (packetNumber : PacketNumber)
    (shouldInstigateAck : Bool) (now : Int) : ReceivedPacketHandler :=
  let packetsReceived := h.packetsReceivedSinceLastAck + 1
  let retransmittable := if shouldInstigateAck then
      h.retransmittablePacketsReceivedSinceLastAck + 1
    else h.retransmittablePacketsReceivedSinceLastAck
  let queued := h.ackQueued || h.lastAck.isNone ||
    (decide (h.version < Protocol.Version39) && decide (packetsReceived ≥ 20)) ||
    match h.lastAck with
    | some la => decide (packetNumber < la.LargestAcked) ||
        decide (h.packetHistory.GetHighestAckRange.First > la.LargestAcked)
    | none => false
  let (queued, alarm) := if !queued ∧ shouldInstigateAck then
      if retransmittable ≥ 2 then (true, h.ackAlarm)
      else if h.ackAlarm.isNone then (false, some (now + h.ackSendDelay))
      else (false, h.ackAlarm)
    else (queued, h.ackAlarm)
  { h with packetsReceivedSinceLastAck := packetsReceived
           retransmittablePacketsReceivedSinceLastAck := retransmittable
           ackQueued := queued
           ackAlarm := if queued then none else alarm }

/-- `ReceivedPacket`: packet 0 is refused; a packet raises `largestObserved`, and is recorded
unless it is at or below the lower limit. -/
def ReceivedPacket (h : ReceivedPacketHandler) (packetNumber : PacketNumber)
    (shouldInstigateAck : Bool) (now : Int) : ReceivedPacketHandler × Except String Unit :=
  if packetNumber = 0 then (h, .error errInvalidPacketNumber) else
  let h := { h with packets := h.packets + 1 }
  let h := if packetNumber > h.largestObserved then
      { h with largestObserved := packetNumber, largestObservedReceivedTime := now }
    else h
  if packetNumber ≤ h.lowerLimit then (h, .ok ()) else
  match h.packetHistory.ReceivedPacket packetNumber with
  | (_, .error e) => (h, .error e)
  | (hist, .ok ()) =>
    ((({ h with packetHistory := hist }).maybeQueueAck packetNumber shouldInstigateAck now), .ok ())

/-- `SetLowerLimit`. -/
def SetLowerLimit (h : ReceivedPacketHandler) (p : PacketNumber) : ReceivedPacketHandler :=
  { h with lowerLimit := p, packetHistory := h.packetHistory.DeleteUpTo p }

/-- `GetAckFrame`: `nil` (the inner `none`) unless an ACK is queued or the alarm has gone off.  The
lowest range is read at index `len - 1`, which panics on an empty history. -/
def GetAckFrame (h : ReceivedPacketHandler) (now : Int) :
    Option (ReceivedPacketHandler × Option AckFrame) :=
  if !h.ackQueued ∧ (h.ackAlarm.isNone ∨ h.ackAlarm.any (· > now)) then some (h, none) else do
  let ackRanges := h.packetHistory.GetAckRanges
  let lowest ← ackRanges.getLast?
  let ack : AckFrame :=
    { PathID := 0, LargestAcked := h.largestObserved, LowestAcked := lowest.First
      AckRanges := if ackRanges.length > 1 then ackRanges else []
      PacketReceivedTime := h.largestObservedReceivedTime, DelayTime := 0 }
  pure ({ h with lastAck := some ack, ackAlarm := none, ackQueued := false
                 packetsReceivedSinceLastAck := 0
                 retransmittablePacketsReceivedSinceLastAck := 0 }, some ack)

/-- `GetClosePathFrame`; it panics on an empty history too. -/
def GetClosePathFrame (h : ReceivedPacketHandler) : Option ClosePathFrame := do
  let ackRanges := h.packetHistory.GetAckRanges
  let lowest ← ackRanges.getLast?
  pure { PathID := 0, LargestAcked := h.largestObserved, LowestAcked := lowest.First
         AckRanges := if ackRanges.length > 1 then ackRanges else [] }

/-- Packets received one after the other, at time `now`, each asking for an ACK; errors do not
stop the run. -/
def receiveAll (h : ReceivedPacketHandler) (ps : List PacketNumber) (now : Int) :
    ReceivedPacketHandler :=
  ps.foldl (fun h p => (h.ReceivedPacket p true now).1) h

end ReceivedPacketHandler

/-! ## A full history

The packets 2, 4, ..., 2k leave a gap behind each of them, so each opens an interval of its own.
-/

namespace ReceivedPacketHistory

/-- A packet more than one above the last interval opens a new interval behind it. -/
theorem walk_above_last {p : PacketNumber} {el : PacketInterval} (L : List PacketInterval)
    (hse : el.Start ≤ el.End) (hp : el.End.toNat + 1 < p.toNat) (hmax : p.toNat + 1 < 2 ^ 64) :
    walk p (el :: L.reverse) [] = L ++ [el, ⟨p, p⟩] := by
  have hs := UInt64.le_iff_toNat_le.1 hse
  have hin : ¬ (p ≥ el.Start ∧ p ≤ el.End) := by
    simp only [ge_iff_le, UInt64.le_iff_toNat_le]
    omega
  have hext : ¬ (el.End = p - 1 ∨ el.Start = p + 1) := by
    simp only [← UInt64.toNat_inj, UInt64.toNat_sub, UInt64.toNat_add, UInt64.toNat_one]
    omega
  have hgt : p > el.End := UInt64.lt_iff_toNat_lt.2 (by omega)
  simp [walk, hin, hext, hgt]

/-- The packets 2, 4, ..., 2k. -/
def evenPackets (k : Nat) : List PacketNumber := (List.range k).map fun i => (2 * (i + 1)).toUInt64

/-- One interval for each packet. -/
def singletons (ps : List PacketNumber) : List PacketInterval := ps.map fun p => ⟨p, p⟩

theorem evenPackets_succ (k : Nat) :
    evenPackets (k + 1) = evenPackets k ++ [(2 * (k + 1)).toUInt64] := by
  simp [evenPackets, List.range_succ]

/-- Packet `2(k+1)` after the packets 2, ..., 2k opens an interval of its own. -/
theorem receivedPacket_next_even {hist : ReceivedPacketHistory} {k : Nat}
    (hk : k < Protocol.MaxTrackedReceivedAckRanges) (hr : hist.ranges = singletons (evenPackets k)) :
    hist.ReceivedPacket (2 * (k + 1)).toUInt64 =
      ({ hist with ranges := singletons (evenPackets (k + 1)) }, .ok ()) := by
  have hlen : ¬ hist.ranges.length ≥ Protocol.MaxTrackedReceivedAckRanges := by
    simp [hr, singletons, evenPackets]
    omega
  have hmax : Protocol.MaxTrackedReceivedAckRanges = 2500 := rfl
  cases k with
  | zero => simp [ReceivedPacket, hmax, hr, singletons, evenPackets]
  | succ j =>
    have hne : hist.ranges ≠ [] := by simp [hr, singletons, evenPackets]
    have hsplit : hist.ranges.reverse =
        ⟨(2 * (j + 1)).toUInt64, (2 * (j + 1)).toUInt64⟩ :: (singletons (evenPackets j)).reverse := by
      simp [hr, evenPackets_succ, singletons]
    rw [ReceivedPacket, if_neg hlen, if_neg hne, hsplit, walk_above_last _ (UInt64.le_refl _)
      (by simp; omega) (by simp; omega)]
    simp [evenPackets_succ j.succ, evenPackets_succ j, singletons]

end ReceivedPacketHistory

namespace ReceivedPacketHandler

/-- The first packet recorded queues an ACK. -/
theorem maybeQueueAck_ackQueued {h : ReceivedPacketHandler} (hla : h.lastAck = none)
    (p : PacketNumber) (i : Bool) (now : Int) : (h.maybeQueueAck p i now).ackQueued = true := by
  unfold maybeQueueAck
  simp [hla]

/-- A new largest packet above the lower limit, while fewer than `MaxTrackedReceivedAckRanges`
intervals are tracked: it becomes `largestObserved`, goes into the history, and the lower limit
and the last ACK stay. -/
theorem receivedPacket_new_largest {h : ReceivedPacketHandler} {p : PacketNumber} (i : Bool)
    (now : Int) (hp0 : p ≠ 0) (hlarge : p > h.largestObserved) (hlow : ¬ p ≤ h.lowerLimit)
    (hlen : h.packetHistory.ranges.length < Protocol.MaxTrackedReceivedAckRanges) :
    let h' := (h.ReceivedPacket p i now).1
    h'.packetHistory = (h.packetHistory.ReceivedPacket p).1 ∧ h'.largestObserved = p ∧
      h'.lowerLimit = h.lowerLimit ∧ h'.lastAck = h.lastAck ∧
      (h.lastAck = none → h'.ackQueued = true) := by
  have hok : (h.packetHistory.ReceivedPacket p).2 = .ok () := by
    unfold ReceivedPacketHistory.ReceivedPacket
    split_ifs <;> first | omega | rfl
  rcases hres : h.packetHistory.ReceivedPacket p with ⟨hist, _ | ⟨⟩⟩
  · rw [hres] at hok
    cases hok
  · simp only [ReceivedPacket, hp0, if_false, hlarge, if_true, hlow, hres]
    refine ⟨rfl, rfl, rfl, rfl, fun hla => ?_⟩
    apply maybeQueueAck_ackQueued
    exact hla

theorem receiveAll_append_singleton (h : ReceivedPacketHandler) (ps : List PacketNumber)
    (p : PacketNumber) (now : Int) :
    h.receiveAll (ps ++ [p]) now = ((h.receiveAll ps now).ReceivedPacket p true now).1 := by
  simp [receiveAll, List.foldl_append]

open ReceivedPacketHistory in
/-- The handler after the packets 2, 4, ..., 2k, for k up to the limit on tracked intervals: one
interval per packet, an ACK queued, and none sent. -/
theorem receiveAll_evenPackets (version : VersionNumber) (now : Int) :
    ∀ k ≤ Protocol.MaxTrackedReceivedAckRanges,
      ((NewReceivedPacketHandler version).receiveAll (evenPackets k) now).packetHistory.ranges =
        singletons (evenPackets k) ∧
      ((NewReceivedPacketHandler version).receiveAll (evenPackets k) now).largestObserved =
        (2 * k).toUInt64 ∧
      ((NewReceivedPacketHandler version).receiveAll (evenPackets k) now).lowerLimit = 0 ∧
      ((NewReceivedPacketHandler version).receiveAll (evenPackets k) now).lastAck = none ∧
      (0 < k → ((NewReceivedPacketHandler version).receiveAll (evenPackets k) now).ackQueued = true)
  | 0, _ => by
    simp [evenPackets, receiveAll, NewReceivedPacketHandler, newReceivedPacketHistory, singletons]
  | k + 1, hk => by
    -- the run up to 2k, then one step
    obtain ⟨hr, hl, hll, hla, -⟩ := receiveAll_evenPackets version now k (by omega)
    have hmax : Protocol.MaxTrackedReceivedAckRanges = 2500 := rfl
    rw [evenPackets_succ, receiveAll_append_singleton]
    generalize (NewReceivedPacketHandler version).receiveAll (evenPackets k) now = h at hr hl hll hla ⊢
    have hlen : h.packetHistory.ranges.length < Protocol.MaxTrackedReceivedAckRanges := by
      rw [hr]
      simp [singletons, evenPackets]
      omega
    -- the new packet, as a number: above everything so far and not 0
    have hnat : ((2 * (k + 1)).toUInt64).toNat = 2 * (k + 1) := by
      simp only [Nat.toUInt64_eq, UInt64.toNat_ofNat']
      omega
    have hp0 : (2 * (k + 1)).toUInt64 ≠ 0 := by
      intro h0
      have := congrArg UInt64.toNat h0
      simp only [hnat, UInt64.toNat_zero] at this
      omega
    have hlarge : (2 * (k + 1)).toUInt64 > h.largestObserved := by
      rw [hl, gt_iff_lt, UInt64.lt_iff_toNat_lt, hnat]
      simp only [Nat.toUInt64_eq, UInt64.toNat_ofNat']
      omega
    have hlow : ¬ (2 * (k + 1)).toUInt64 ≤ h.lowerLimit := by
      rw [hll, UInt64.le_iff_toNat_le, hnat, UInt64.toNat_zero]
      omega
    obtain ⟨hh, hl', hll', hla', hq⟩ := receivedPacket_new_largest true now
      hp0 hlarge hlow hlen
    refine ⟨?_, hl', hll'.trans hll, hla'.trans hla, fun _ => hq hla⟩
    rw [hh, receivedPacket_next_even (by omega) hr, evenPackets_succ]

/-- A packet above `largestObserved` that the history refuses still becomes `largestObserved`;
the history and the ACK state stay as they were. -/
theorem receivedPacket_refused {h : ReceivedPacketHandler} {p : PacketNumber} (i : Bool)
    (now : Int) {e : String} (hp0 : p ≠ 0) (hlarge : p > h.largestObserved)
    (hlow : ¬ p ≤ h.lowerLimit) (hfull : (h.packetHistory.ReceivedPacket p).2 = .error e) :
    let r := h.ReceivedPacket p i now
    r.2 = .error e ∧ r.1.largestObserved = p ∧ r.1.packetHistory = h.packetHistory ∧
      r.1.ackQueued = h.ackQueued := by
  rcases hres : h.packetHistory.ReceivedPacket p with ⟨hist, _ | ⟨⟩⟩
  · rw [hres] at hfull
    cases hfull
    simp [ReceivedPacket, hp0, hlarge, hlow, hres]
  · rw [hres] at hfull
    cases hfull

/-- With an ACK queued and a history of at least two intervals, the ACK claims `largestObserved`
and lists the history's ranges. -/
theorem getAckFrame_queued {h : ReceivedPacketHandler} (now : Int) (hq : h.ackQueued = true)
    (hlen : 1 < h.packetHistory.ranges.length) :
    ∃ h' f, h.GetAckFrame now = some (h', some f) ∧ f.LargestAcked = h.largestObserved ∧
      f.AckRanges = h.packetHistory.GetAckRanges := by
  have hlen' : 1 < h.packetHistory.GetAckRanges.length := by
    simpa [ReceivedPacketHistory.GetAckRanges] using hlen
  obtain ⟨lo, hlo⟩ : ∃ lo, h.packetHistory.GetAckRanges.getLast? = some lo :=
    Option.isSome_iff_exists.1 (List.getLast?_isSome.2 fun h0 => by simp [h0] at hlen')
  simp only [GetAckFrame, hq, hlo]
  refine ⟨_, _, rfl, rfl, ?_⟩
  simp [hlen']

open ReceivedPacketHistory in
/-- Packet 5002 after the packets 2, 4, ..., 5000 is refused by the full history, but it has raised
`largestObserved`: the ACK claims 5002, and its first range ends at 5000. -/
theorem getAckFrame_largestAcked_unrecorded :
    ∃ h f, ((NewReceivedPacketHandler Protocol.VersionMP).receiveAll
        (evenPackets 2500 ++ [5002]) 0).GetAckFrame 0 = some (h, some f) ∧
      f.LargestAcked = 5002 ∧ f.AckRanges.head?.map AckRange.Last = some 5000 ∧
      validateAckRanges f.LargestAcked f.AckRanges = false := by
  obtain ⟨hr, hl, hll, -, hq⟩ := receiveAll_evenPackets Protocol.VersionMP 0 2500 le_rfl
  rw [receiveAll_append_singleton]
  generalize (NewReceivedPacketHandler Protocol.VersionMP).receiveAll (evenPackets 2500) 0 = h
    at hr hl hll hq ⊢
  -- the history is full and refuses 5002
  have hlen : h.packetHistory.ranges.length = 2500 := by simp [hr, singletons, evenPackets]
  have hfull : h.packetHistory.ReceivedPacket 5002 =
      (h.packetHistory, .error errTooManyOutstandingReceivedAckRanges) := by
    simp [ReceivedPacketHistory.ReceivedPacket, hlen, Protocol.MaxTrackedReceivedAckRanges,
      Protocol.DefaultMaxCongestionWindow]
  have hlarge : (5002 : PacketNumber) > h.largestObserved := by rw [hl]; decide
  have hlow : ¬ (5002 : PacketNumber) ≤ h.lowerLimit := by rw [hll]; decide
  -- the two highest intervals
  have hranges : h.packetHistory.GetAckRanges =
      ⟨5000, 5000⟩ :: ⟨4998, 4998⟩ :: (singletons (evenPackets 2498)).reverse.map
        fun r => { First := r.Start, Last := r.End } := by
    simp [GetAckRanges, hr, evenPackets_succ 2499, evenPackets_succ 2498, singletons]
  have hp0 : (5002 : PacketNumber) ≠ 0 := by decide
  obtain ⟨-, hl', hhist, hq'⟩ := receivedPacket_refused true 0 hp0 hlarge hlow
    (by rw [hfull])
  generalize (h.ReceivedPacket 5002 true 0).1 = h' at hl' hhist hq' ⊢
  obtain ⟨h'', f, hget, hla, har⟩ := getAckFrame_queued (h := h') 0 (hq'.trans (hq (by omega)))
    (by rw [hhist, hlen]; omega)
  rw [hhist] at har
  rw [hl'] at hla
  refine ⟨h'', f, hget, hla, ?_, ?_⟩
  · simp [har, hranges]
  · simp [hla, har, hranges, validateAckRanges]

end ReceivedPacketHandler

end Ackhandler
end PStream
