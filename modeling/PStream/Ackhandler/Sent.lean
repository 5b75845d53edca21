import Mathlib.Algebra.Group.Int.Defs
import PStream.Wire.Ack

/-!
# Sent packets

`sentPacketHandler` keeps, for one path, the retransmittable packets that were sent and are
neither acknowledged nor declared lost (`packetHistory`, in the order they were sent), the bytes
they take (`bytesInFlight`), the packets queued for retransmission, and the state of the three
timers: time-based loss detection, tail loss probes (TLP) and retransmission time-outs (RTO).

Packets leave the history by five routes, each of which adjusts `bytesInFlight` itself: an ACK
acknowledges them (`onPacketAcked`), loss detection or a close-path frame declares them lost, and
a TLP or an RTO queues them for retransmission (`queuePacketForRetransmission`).

## What is an argument here

The clock is an argument: `now` is the time of the call in nanoseconds, and `time.Time{}` is
`none`.  The round-trip statistics and the congestion controller are objects the handler shares
with the rest of the connection; a call reads three durations of them, given as an `RTTEnv`.  What
the handler *tells* them (`OnPacketSent`, `OnPacketAcked`, `OnPacketLost`, `UpdateRTT`,
`UpdateBDW`, ...) changes nothing the handler reads and is left out, and so is the RTT sample that
`ReceivedAck` takes with `maybeUpdateRTT`.  The RTO callback's answer is an argument of `OnAlarm`.

A frame of a packet is only asked for its dynamic type, so a packet's frames are a list of
`FrameType`s.  The linked list of packets is a list, and removing an element is `List.erase` of
its value.
-/

set_option autoImplicit false

namespace PStream
namespace Ackhandler

open Wire

/-- The dynamic type of a `wire.Frame`. -/
inductive FrameType where
  | ack
  | stopWaiting
  | stream
  | rstStream
  | windowUpdate
  | blocked
  | ping
  | goaway
  | connectionClose
  | addAddress
  | closePath
  | paths
  deriving DecidableEq, Repr

/-- `IsFrameRetransmittable`: everything but ACK and STOP_WAITING frames. -/
def IsFrameRetransmittable : FrameType → Bool
  | .stopWaiting => false
  | .ack => false
  | _ => true

/-- `stripNonRetransmittableFrames`. -/
def stripNonRetransmittableFrames (fs : List FrameType) : List FrameType :=
  fs.filter IsFrameRetransmittable

/-- A sent `Packet`.  Its encryption level is not read by the handler. -/
structure Packet where
  PacketNumber : PacketNumber
  Frames : List FrameType
  Length : ByteCount
  SendTime : Int
  deriving DecidableEq, Repr

/-- `Packet.IsRetransmittable`, which, unlike `IsFrameRetransmittable`, does not count CONNECTION_CLOSE
and CLOSE_PATH frames. -/
def Packet.IsRetransmittable (p : Packet) : Bool :=
  p.Frames.any fun
    | .stream | .rstStream | .windowUpdate | .blocked | .ping | .goaway | .addAddress | .paths => true
    | _ => false

/-- A `stopWaitingManager`; the frame it sent last is kept as its `LeastUnacked`. -/
structure StopWaitingManager where
  largestLeastUnackedSent : PacketNumber
  nextLeastUnacked : PacketNumber
  lastStopWaitingFrame : Option PacketNumber
  deriving DecidableEq, Repr

namespace StopWaitingManager

/-- `GetStopWaitingFrame`: a frame when the least unacked packet has moved on, or, when `force`d,
the last one again. -/
def GetStopWaitingFrame (s : StopWaitingManager) (force : Bool) :
    StopWaitingManager × Option PacketNumber :=
  if s.nextLeastUnacked ≤ s.largestLeastUnackedSent then
    if force then
      let s := if s.lastStopWaitingFrame.isNone ∧ s.largestLeastUnackedSent > 0 then
          { s with lastStopWaitingFrame := some s.nextLeastUnacked }
        else s
      (s, s.lastStopWaitingFrame)
    else (s, none)
  else
    ({ s with largestLeastUnackedSent := s.nextLeastUnacked
              lastStopWaitingFrame := some s.nextLeastUnacked }, some s.nextLeastUnacked)

def ReceivedAck (s : StopWaitingManager) (ack : AckFrame) : StopWaitingManager :=
  if ack.LargestAcked ≥ s.nextLeastUnacked then { s with nextLeastUnacked := ack.LargestAcked + 1 }
  else s

def QueuedRetransmissionForPacketNumber (s : StopWaitingManager) (p : PacketNumber) :
    StopWaitingManager :=
  if p ≥ s.nextLeastUnacked then { s with nextLeastUnacked := p + 1 } else s

end StopWaitingManager

/-- What a call reads of the connection's RTT statistics and congestion controller, in
nanoseconds. -/
structure RTTEnv where
  latestRTT : Int
  smoothedRTT : Int
  /-- `congestion.RetransmissionDelay()`. -/
  retransmissionDelay : Int

/-- A `sentPacketHandler`. -/
structure SentPacketHandler where
  lastSentPacketNumber : PacketNumber
  skippedPackets : List PacketNumber
  numNonRetransmittablePackets : Nat
  LargestAcked : PacketNumber
  largestReceivedPacketWithAck : PacketNumber
  packetHistory : List Packet
  stopWaitingManager : StopWaitingManager
  retransmissionQueue : List Packet
  bytesInFlight : ByteCount
  rtoCount : UInt32
  tlpCount : UInt32
  lossTime : Option Int
  lastSentTime : Int
  alarm : Option Int
  packets : UInt64
  retransmissions : UInt64
  losses : UInt64

/-- `NewSentPacketHandler`: every field at its zero value. -/
def NewSentPacketHandler : SentPacketHandler :=
  { lastSentPacketNumber := 0, skippedPackets := [], numNonRetransmittablePackets := 0
    LargestAcked := 0, largestReceivedPacketWithAck := 0, packetHistory := []
    stopWaitingManager := ⟨0, 0, none⟩, retransmissionQueue := [], bytesInFlight := 0
    rtoCount := 0, tlpCount := 0, lossTime := none, lastSentTime := 0, alarm := none
    packets := 0, retransmissions := 0, losses := 0 }

def ErrDuplicateOrOutOfOrderAck : String := "SentPacketHandler: Duplicate or out-of-order ACK"
def ErrTooManyTrackedSentPackets : String :=
  "Too many outstanding non-acked and non-retransmitted packets"
def ErrAckForSkippedPacket : String := "InvalidAckData: Received an ACK for a skipped packet number"
def errAckForUnsentPacket : String := "InvalidAckData: Received ACK for an unsent package"
def errPacketNumberNotIncreasing : String := "Already sent a packet with a higher packet number"

/-- The time-outs, in nanoseconds. -/
def defaultRTOTimeout : Int := 500 * 1000000
def minRTOTimeout : Int := 200 * 1000000
def maxRTOTimeout : Int := 60 * 1000000000
def maxTailLossProbes : UInt32 := 2
def minRetransmissionTime : Int := 200 * 1000000
def minTailLossProbeTimeout : Int := 10 * 1000000

/-- Go's `%x`. -/
def hexString (n : UInt64) : String := String.ofList (Nat.toDigits 16 n.toNat)

/-! ## The ranges an ACK or CLOSE_PATH frame acknowledges -/

/-- `for packetNumber > ackRange.Last && ackRangeIndex < len(AckRanges)-1 { ackRangeIndex++ }`.
The ranges are walked from the lowest up: `ranges` is the part of the reversed list from
`ackRangeIndex` on, so its head is `ackRange`, and a range after the head is the test on the
index. -/
def advanceRange (p : PacketNumber) : List AckRange → List AckRange
  | r :: r' :: rs => if p > r.Last then advanceRange p (r' :: rs) else r :: r' :: rs
  | rs => rs

/-- The loop of `determineNewlyAckedPackets`, over the history from the front, for a frame's
largest and lowest acknowledged packets and its ranges reversed.  A packet in a range is
acknowledged; one above the range the walk stopped at is the "BUG" error.  An index out of range
would panic (`none`). -/
def ackedLoop (largestAcked lowestAcked : PacketNumber) (hasMissingRanges : Bool)
    (bugSuffix : String) : List AckRange → List Packet → Option (Except String (List Packet))
  | _, [] => some (.ok [])
  | ranges, el :: els =>
    let p := el.PacketNumber
    if p < lowestAcked then ackedLoop largestAcked lowestAcked hasMissingRanges bugSuffix ranges els
    else if p > largestAcked then some (.ok [])
    else if hasMissingRanges then
      match advanceRange p ranges with
      | [] => none
      | r :: rs =>
        if p ≥ r.First then
          if p > r.Last then
            let hp := hexString p
            let hf := hexString r.First
            let hl := hexString r.Last
            some (.error (s!"BUG: ackhandler would have acked wrong packet 0x{hp}, while " ++
              s!"evaluating range 0x{hf} -> 0x{hl}" ++ bugSuffix))
          else
            (ackedLoop largestAcked lowestAcked hasMissingRanges bugSuffix (r :: rs) els).map
              (·.map (el :: ·))
        else ackedLoop largestAcked lowestAcked hasMissingRanges bugSuffix (r :: rs) els
    else
      (ackedLoop largestAcked lowestAcked hasMissingRanges bugSuffix ranges els).map
        (·.map (el :: ·))

namespace SentPacketHandler

variable (env : RTTEnv) (now : Int)

/-- `largestInOrderAcked`: one below the oldest packet in flight, or `LargestAcked`. -/
def largestInOrderAcked (h : SentPacketHandler) : PacketNumber :=
  match h.packetHistory with
  | p :: _ => p.PacketNumber - 1
  | [] => h.LargestAcked

def ShouldSendRetransmittablePacket (h : SentPacketHandler) : Bool :=
  h.numNonRetransmittablePackets ≥ Protocol.MaxNonRetransmittablePackets

def GetLeastUnacked (h : SentPacketHandler) : PacketNumber := h.largestInOrderAcked + 1

/-! ### Timers -/

/-- `computeRTOTimeout`: the congestion controller's delay, at least 200 ms, doubled for every RTO
in a row and capped at 60 s.  The doubling is a shift of an `int64`, which wraps, and is 0 for a
shift of 64 or more. -/
def computeRTOTimeout (h : SentPacketHandler) : Int :=
  let rto := if env.retransmissionDelay = 0 then defaultRTOTimeout else env.retransmissionDelay
  let rto := max rto minRTOTimeout
  let rto : Int := if h.rtoCount.toNat < 64 then (Int64.ofInt (rto * 2 ^ h.rtoCount.toNat)).toInt
    else 0
  min rto maxRTOTimeout

def hasMultipleOutstandingRetransmittablePackets (h : SentPacketHandler) : Bool :=
  h.packetHistory.length ≥ 2

def computeTLPTimeout (h : SentPacketHandler) : Int :=
  let rtt := env.smoothedRTT
  if h.hasMultipleOutstandingRetransmittablePackets then
    max (2 * rtt) (rtt * 3 / 2 + minRetransmissionTime / 2)
  else max (2 * rtt) minTailLossProbeTimeout

/-- `updateLossDetectionAlarm`: no alarm without packets in flight; otherwise the loss time, a TLP
or an RTO after the last packet sent. -/
def updateLossDetectionAlarm (h : SentPacketHandler) : SentPacketHandler :=
  if h.packetHistory = [] then { h with alarm := none }
  else if h.lossTime.isSome then { h with alarm := h.lossTime }
  else if env.smoothedRTT ≠ 0 ∧ h.tlpCount < maxTailLossProbes then
    { h with alarm := some (h.lastSentTime + h.computeTLPTimeout env) }
  else { h with alarm := some (h.lastSentTime + max (h.computeRTOTimeout env) minRetransmissionTime) }

/-! ### Taking packets out of the history -/

/-- `onPacketAcked`. -/
def onPacketAcked (h : SentPacketHandler) (p : Packet) : SentPacketHandler :=
  { h with bytesInFlight := h.bytesInFlight - p.Length, rtoCount := 0, tlpCount := 0
           packetHistory := h.packetHistory.erase p }

/-- `queuePacketForRetransmission`. -/
def queuePacketForRetransmission (h : SentPacketHandler) (p : Packet) : SentPacketHandler :=
  { h with bytesInFlight := h.bytesInFlight - p.Length
           retransmissionQueue := h.retransmissionQueue ++ [p]
           packetHistory := h.packetHistory.erase p
           stopWaitingManager :=
             h.stopWaitingManager.QueuedRetransmissionForPacketNumber p.PacketNumber }

/-- `queueRTO`. -/
def queueRTO (h : SentPacketHandler) (p : Packet) : SentPacketHandler :=
  { h.queuePacketForRetransmission p with losses := h.losses + 1 }

/-- The loop of `detectLostPackets` over the history up to `LargestAcked`: a packet sent more than
`delayUntilLost` ago is lost; the first one that is not sets the loss time. -/
def lossLoop (largestAcked : PacketNumber) (delayUntilLost : Int) :
    List Packet → Option Int → List Packet × Option Int
  | [], lossTime => ([], lossTime)
  | p :: ps, lossTime =>
    if p.PacketNumber > largestAcked then ([], lossTime) else
    let timeSinceSent := now - p.SendTime
    if timeSinceSent > delayUntilLost then
      let (lost, lossTime) := lossLoop largestAcked delayUntilLost ps lossTime
      (p :: lost, lossTime)
    else
      let lossTime := if lossTime.isNone then some (now + (delayUntilLost - timeSinceSent))
        else lossTime
      lossLoop largestAcked delayUntilLost ps lossTime

/-- `detectLostPackets`.  `time.Duration((1.0 + 1/8) * float64(maxRTT))` is `maxRTT * 9 / 8`
for every round-trip time below 2^50 ns, which the float holds exactly. -/
def detectLostPackets (h : SentPacketHandler) : SentPacketHandler :=
  let maxRTT := max env.latestRTT env.smoothedRTT
  let delayUntilLost := maxRTT * 9 / 8
  let (lost, lossTime) := lossLoop now h.LargestAcked delayUntilLost h.packetHistory none
  let h := { h with lossTime, losses := h.losses + lost.length.toUInt64 }
  lost.foldl queuePacketForRetransmission h

/-- `SetInflightAsLost`: every packet up to `LargestAcked` is lost. -/
def SetInflightAsLost (h : SentPacketHandler) : SentPacketHandler :=
  let lost := h.packetHistory.takeWhile fun p => p.PacketNumber ≤ h.LargestAcked
  let h := { h with losses := h.losses + lost.length.toUInt64 }
  lost.foldl queuePacketForRetransmission h

def retransmitTLP (h : SentPacketHandler) : SentPacketHandler :=
  match h.packetHistory.getLast? with
  | some p => h.queuePacketForRetransmission p
  | none => h

/-- `for h.packetHistory.Len() > 0 { h.queueRTO(h.packetHistory.Front()) }`; each round takes
one packet out, so the length of the history is enough fuel. -/
def retransmitAllLoop : Nat → SentPacketHandler → SentPacketHandler
  | 0, h => h
  | fuel + 1, h =>
    match h.packetHistory with
    | p :: _ => retransmitAllLoop fuel (h.queueRTO p)
    | [] => h

def retransmitAllPackets (h : SentPacketHandler) : SentPacketHandler :=
  retransmitAllLoop h.packetHistory.length h

def retransmitOldestPacket (h : SentPacketHandler) : SentPacketHandler :=
  match h.packetHistory with
  | p :: _ => h.queueRTO p
  | [] => h

def retransmitOldestTwoPackets (h : SentPacketHandler) : SentPacketHandler :=
  h.retransmitOldestPacket.retransmitOldestPacket

def hasOutstandingRetransmittablePacket (h : SentPacketHandler) : Bool :=
  h.packetHistory.any Packet.IsRetransmittable

/-! ### Skipped packet numbers -/

/-- `for p := h.lastSentPacketNumber + 1; p < packet.PacketNumber; p++`: record the skipped numbers,
keeping the last `MaxTrackedSkippedPackets`. -/
def skipLoop (pn : PacketNumber) : Nat → PacketNumber → List PacketNumber → List PacketNumber
  | 0, _, skipped => skipped
  | fuel + 1, p, skipped =>
    if p < pn then
      let skipped := skipped ++ [p]
      let skipped := if skipped.length > Protocol.MaxTrackedSkippedPackets then skipped.drop 1
        else skipped
      skipLoop pn fuel (p + 1) skipped
    else skipped

/-- `garbageCollectSkippedPackets`: drop the skipped numbers up to the last one at or below the
largest packet acknowledged in order. -/
def garbageCollectSkippedPackets (h : SentPacketHandler) : SentPacketHandler :=
  let lioa := h.largestInOrderAcked
  let deleteIndex := h.skippedPackets.zipIdx.foldl
    (fun d (p, i) => if p ≤ lioa then i + 1 else d) 0
  { h with skippedPackets := h.skippedPackets.drop deleteIndex }

/-! ### The API -/

/-- `SentPacket`: refuse a packet number that does not increase and a history that is full;
otherwise record the skipped numbers, and keep the packet if it has retransmittable frames. -/
def SentPacket (h : SentPacketHandler) (packet : Packet) : Except String SentPacketHandler :=
  if packet.PacketNumber ≤ h.lastSentPacketNumber then .error errPacketNumberNotIncreasing
  else if h.retransmissionQueue.length + h.packetHistory.length + 1 >
      Protocol.MaxTrackedSentPackets then .error ErrTooManyTrackedSentPackets
  else
    let skipped := skipLoop packet.PacketNumber (packet.PacketNumber - h.lastSentPacketNumber).toNat
      (h.lastSentPacketNumber + 1) h.skippedPackets
    let h := { h with skippedPackets := skipped, lastSentPacketNumber := packet.PacketNumber
                      packets := h.packets + 1, lastSentTime := now }
    let packet := { packet with Frames := stripNonRetransmittableFrames packet.Frames }
    let h := if packet.Frames ≠ [] then
        { h with bytesInFlight := h.bytesInFlight + packet.Length
                 packetHistory := h.packetHistory ++ [{ packet with SendTime := now }]
                 numNonRetransmittablePackets := 0 }
      else { h with numNonRetransmittablePackets := h.numNonRetransmittablePackets + 1 }
    .ok (h.updateLossDetectionAlarm env)

def determineNewlyAckedPackets (h : SentPacketHandler) (f : AckFrame) :
    Option (Except String (List Packet)) :=
  ackedLoop f.LargestAcked f.LowestAcked f.HasMissingRanges "" f.AckRanges.reverse h.packetHistory

def determineNewlyAckedPacketsClosePath (h : SentPacketHandler) (f : ClosePathFrame) :
    Option (Except String (List Packet)) :=
  ackedLoop f.LargestAcked f.LowestAcked f.HasMissingRanges " with ClosePath frame"
    f.AckRanges.reverse h.packetHistory

def skippedPacketsAcked (h : SentPacketHandler) (f : AckFrame) : Bool :=
  h.skippedPackets.any f.AcksPacket

def skippedPacketsAckedClosePath (h : SentPacketHandler) (f : ClosePathFrame) : Bool :=
  h.skippedPackets.any f.AcksPacket

/-- `ReceivedAck` of an ACK frame that came in the packet `withPacketNumber`.  The counter of the
last ACK and `LargestAcked` change before the checks that can still fail. -/
def ReceivedAck (h : SentPacketHandler) (f : AckFrame) (withPacketNumber : PacketNumber) :
    Option (SentPacketHandler × Except String Unit) :=
  if f.LargestAcked > h.lastSentPacketNumber then some (h, .error errAckForUnsentPacket)
  else if withPacketNumber ≤ h.largestReceivedPacketWithAck then
    some (h, .error ErrDuplicateOrOutOfOrderAck)
  else
  let h := { h with largestReceivedPacketWithAck := withPacketNumber }
  -- a repeated ACK: nothing above what is acknowledged in order
  if f.LargestAcked ≤ h.largestInOrderAcked then some (h, .ok ())
  else
  let h := { h with LargestAcked := f.LargestAcked }
  if h.skippedPacketsAcked f then some (h, .error ErrAckForSkippedPacket)
  else
  match h.determineNewlyAckedPackets f with
  | none => none
  | some (.error e) => some (h, .error e)
  | some (.ok acked) =>
    let h := acked.foldl onPacketAcked h
    let h := (h.detectLostPackets env now).updateLossDetectionAlarm env
    let h := h.garbageCollectSkippedPackets
    some ({ h with stopWaitingManager := h.stopWaitingManager.ReceivedAck f }, .ok ())

/-- `ReceivedClosePath`: the packets the frame acknowledges are acknowledged, every other one up to
`LargestAcked` is lost. -/
def ReceivedClosePath (h : SentPacketHandler) (f : ClosePathFrame)
    (withPacketNumber : PacketNumber) : Option (SentPacketHandler × Except String Unit) :=
  if f.LargestAcked > h.lastSentPacketNumber then some (h, .error errAckForUnsentPacket)
  else if withPacketNumber ≤ h.largestReceivedPacketWithAck then
    some (h, .error ErrDuplicateOrOutOfOrderAck)
  else
  let h := { h with largestReceivedPacketWithAck := withPacketNumber }
  if h.skippedPacketsAckedClosePath f then some (h, .error ErrAckForSkippedPacket)
  else
  match h.determineNewlyAckedPacketsClosePath f with
  | none => none
  | some (.error e) => some (h, .error e)
  | some (.ok acked) =>
    let h := acked.foldl onPacketAcked h
    some (h.SetInflightAsLost.garbageCollectSkippedPackets, .ok ())

/-- `OnAlarm`, with the RTO callback's answer `potentiallyFailed`: detect losses, send a TLP, or
retransmit on an RTO, the oldest two packets or, for a path that may have failed, all of them. -/
def OnAlarm (potentiallyFailed : Bool) (h : SentPacketHandler) : SentPacketHandler :=
  if !h.hasOutstandingRetransmittablePacket then { h with alarm := none } else
  let h := if h.lossTime.isSome then h.detectLostPackets env now
    else if h.tlpCount < maxTailLossProbes then
      let h := h.retransmitTLP
      { h with tlpCount := h.tlpCount + 1 }
    else
      let h := if potentiallyFailed then h.retransmitAllPackets else h.retransmitOldestTwoPackets
      { h with rtoCount := h.rtoCount + 1 }
  h.updateLossDetectionAlarm env

/-- `DequeuePacketForRetransmission`. -/
def DequeuePacketForRetransmission (h : SentPacketHandler) : SentPacketHandler × Option Packet :=
  match h.retransmissionQueue with
  | [] => (h, none)
  | p :: ps => ({ h with retransmissionQueue := ps, retransmissions := h.retransmissions + 1 }, some p)

/-- `DuplicatePacket`: queue a packet for retransmission once more; it stays in the history. -/
def DuplicatePacket (h : SentPacketHandler) (p : Packet) : SentPacketHandler :=
  { h with retransmissionQueue := h.retransmissionQueue ++ [p] }

/-- `SendingAllowed`, for the controller's congestion window. -/
def SendingAllowed (congestionWindow : ByteCount) (h : SentPacketHandler) : Bool :=
  let congestionLimited := h.bytesInFlight > congestionWindow
  let maxTrackedLimited :=
    h.retransmissionQueue.length + h.packetHistory.length ≥ Protocol.MaxTrackedSentPackets
  let haveRetransmissions := h.retransmissionQueue ≠ []
  !maxTrackedLimited && (!congestionLimited || haveRetransmissions)

end SentPacketHandler

end Ackhandler
end PStream
