import PStream.Ackhandler.SentInvariant
import PStream.Wire.RoundTrip

/-!
# STOP_WAITING frames against the packet number length

The packer sends the frame `GetStopWaitingFrame` returns in a packet whose number length
`GetPacketNumberLengthForPublicHeader` sizes from `GetLeastUnacked`, the oldest packet of the
history.  The frame carries `nextLeastUnacked` of the stop-waiting manager, which ACKs and
retransmissions raise; the two are kept apart.

* `Raises h h'`: the only way a call of the API moves the manager is to raise `nextLeastUnacked` to
  one past a packet already sent.  `StopWaitingInv` follows, over every run that also calls
  `GetStopWaitingFrame` (`PathReachable.stopWaitingInv`): every frame has
  `0 < LeastUnacked ≤ lastSentPacketNumber + 1`.
* `stopWaitingFrame_decodes`: for every frame of a reachable handler and every later packet
  number, `Write` succeeds and `ParseStopWaitingFrame` returns `LeastUnacked` exactly when the
  distance fits into the packet number length.
* `stopWaitingFrame_truncated`: the distance need not fit.  A packet that is not retransmittable
  never enters the history, so after `2 ^ 16` of them a retransmittable packet moves
  `GetLeastUnacked` far above `nextLeastUnacked`: the header gets two bytes, `Write` keeps the low
  16 bits of a distance of `2 ^ 16 + 1`, and the frame decodes to another `LeastUnacked`.
-/

set_option autoImplicit false

namespace PStream
namespace Ackhandler

open Wire ExceptOption Protocol

namespace SentPacketHandler

variable (env : RTTEnv) (now : Int)

/-! ## How a call moves the stop-waiting manager -/

/-- `h'` is `h` with `nextLeastUnacked` left alone or raised to at most one past the last packet
sent; the rest of the manager and the last packet number stay. -/
structure Raises (h h' : SentPacketHandler) : Prop where
  lastSentPacketNumber_eq : h'.lastSentPacketNumber = h.lastSentPacketNumber
  largestLeastUnackedSent_eq : h'.stopWaitingManager.largestLeastUnackedSent =
    h.stopWaitingManager.largestLeastUnackedSent
  lastStopWaitingFrame_eq : h'.stopWaitingManager.lastStopWaitingFrame =
    h.stopWaitingManager.lastStopWaitingFrame
  nextLeastUnacked_le : h'.stopWaitingManager.nextLeastUnacked =
      h.stopWaitingManager.nextLeastUnacked ∨
    h'.stopWaitingManager.nextLeastUnacked.toNat ≤ h.lastSentPacketNumber.toNat + 1

namespace Raises

variable {h h' h₁ h₂ : SentPacketHandler}

theorem of_eq (hs : h'.stopWaitingManager = h.stopWaitingManager)
    (hl : h'.lastSentPacketNumber = h.lastSentPacketNumber) : Raises h h' :=
  ⟨hl, by rw [hs], by rw [hs], .inl (by rw [hs])⟩

theorem refl (h : SentPacketHandler) : Raises h h := of_eq rfl rfl

/-- The manager's own raise, by a packet number at most the last one sent. -/
theorem of_next {x : PacketNumber}
    (hs : h'.stopWaitingManager = { h.stopWaitingManager with nextLeastUnacked := x + 1 })
    (hl : h'.lastSentPacketNumber = h.lastSentPacketNumber) (hx : x ≤ h.lastSentPacketNumber) :
    Raises h h' := by
  refine ⟨hl, by rw [hs], by rw [hs], .inr ?_⟩
  rw [hs, UInt64.toNat_add, UInt64.toNat_one]
  exact le_trans (Nat.mod_le _ _) (Nat.add_le_add_right (UInt64.le_iff_toNat_le.1 hx) 1)

theorem trans (r₁ : Raises h h₁) (r₂ : Raises h₁ h₂) : Raises h h₂ where
  lastSentPacketNumber_eq := r₂.lastSentPacketNumber_eq.trans r₁.lastSentPacketNumber_eq
  largestLeastUnackedSent_eq := r₂.largestLeastUnackedSent_eq.trans r₁.largestLeastUnackedSent_eq
  lastStopWaitingFrame_eq := r₂.lastStopWaitingFrame_eq.trans r₁.lastStopWaitingFrame_eq
  nextLeastUnacked_le := by
    rcases r₂.nextLeastUnacked_le with h2 | h2
    · rw [h2]
      exact r₁.nextLeastUnacked_le
    · rw [← r₁.lastSentPacketNumber_eq]
      exact .inr h2

theorem left (r : Raises h₁ h') (hs : h₁.stopWaitingManager = h.stopWaitingManager)
    (hl : h₁.lastSentPacketNumber = h.lastSentPacketNumber) : Raises h h' :=
  (of_eq hs hl).trans r

theorem right (r : Raises h h₁) (hs : h'.stopWaitingManager = h₁.stopWaitingManager)
    (hl : h'.lastSentPacketNumber = h₁.lastSentPacketNumber) : Raises h h' :=
  r.trans (of_eq hs hl)

end Raises

/-- Every packet of the history was sent: the part of `Inv` the raises need. -/
def HistorySent (h : SentPacketHandler) : Prop :=
  ∀ p ∈ h.packetHistory, p.PacketNumber ≤ h.lastSentPacketNumber

@[simp] theorem stopWaitingManager_updateLossDetectionAlarm (h : SentPacketHandler) :
    (h.updateLossDetectionAlarm env).stopWaitingManager = h.stopWaitingManager := by
  unfold updateLossDetectionAlarm
  split_ifs <;> rfl

@[simp] theorem lastSentPacketNumber_updateLossDetectionAlarm (h : SentPacketHandler) :
    (h.updateLossDetectionAlarm env).lastSentPacketNumber = h.lastSentPacketNumber := by
  unfold updateLossDetectionAlarm
  split_ifs <;> rfl

@[simp] theorem packetHistory_updateLossDetectionAlarm (h : SentPacketHandler) :
    (h.updateLossDetectionAlarm env).packetHistory = h.packetHistory :=
  congrArg Prod.fst (books_updateLossDetectionAlarm env h)

@[simp] theorem retransmissionQueue_updateLossDetectionAlarm (h : SentPacketHandler) :
    (h.updateLossDetectionAlarm env).retransmissionQueue = h.retransmissionQueue :=
  congrArg (fun b => b.2.2.2) (books_updateLossDetectionAlarm env h)

theorem queuePacketForRetransmission_raises (h : SentPacketHandler) {p : Packet}
    (hp : p.PacketNumber ≤ h.lastSentPacketNumber) :
    Raises h (h.queuePacketForRetransmission p) := by
  unfold queuePacketForRetransmission StopWaitingManager.QueuedRetransmissionForPacketNumber
  split_ifs
  · exact Raises.of_next rfl rfl hp
  · exact Raises.of_eq rfl rfl

theorem historySent_queuePacketForRetransmission {h : SentPacketHandler} (hh : HistorySent h)
    (p : Packet) : HistorySent (h.queuePacketForRetransmission p) :=
  fun q hq => hh q (List.erase_subset hq)

theorem foldl_queuePacketForRetransmission_raises :
    ∀ (l : List Packet) (h : SentPacketHandler),
      (∀ p ∈ l, p.PacketNumber ≤ h.lastSentPacketNumber) →
        Raises h (l.foldl queuePacketForRetransmission h)
  | [], h, _ => Raises.refl h
  | p :: l, h, hl => by
    have r := queuePacketForRetransmission_raises h (hl p List.mem_cons_self)
    refine r.trans (foldl_queuePacketForRetransmission_raises l _ fun q hq => ?_)
    rw [r.lastSentPacketNumber_eq]
    exact hl q (List.mem_cons_of_mem p hq)

theorem foldl_onPacketAcked_raises :
    ∀ (l : List Packet) (h : SentPacketHandler), Raises h (l.foldl onPacketAcked h)
  | [], h => Raises.refl h
  | p :: l, h => by
    rw [List.foldl_cons]
    have r : Raises h (h.onPacketAcked p) := Raises.of_eq rfl rfl
    exact r.trans (foldl_onPacketAcked_raises l _)

theorem historySent_foldl_onPacketAcked {h : SentPacketHandler} (hh : HistorySent h)
    (l : List Packet) : HistorySent (l.foldl onPacketAcked h) := by
  have r := foldl_onPacketAcked_removes l h
  intro p hp
  rw [r.packetHistory_eq] at hp
  rw [r.lastSentPacketNumber_eq]
  exact hh p ((List.diff_sublist _ _).subset hp)

theorem detectLostPackets_raises {h : SentPacketHandler} (hh : HistorySent h) :
    Raises h (h.detectLostPackets env now) := by
  dsimp only [detectLostPackets]
  have hsub := lossLoop_sublist now h.LargestAcked (max env.latestRTT env.smoothedRTT * 9 / 8)
    h.packetHistory none
  generalize lossLoop now h.LargestAcked _ h.packetHistory none = r at hsub ⊢
  obtain ⟨lost, lossTime⟩ := r
  refine (foldl_queuePacketForRetransmission_raises _ _ fun p hp => ?_).left rfl rfl
  exact hh p (hsub.subset hp)

theorem SetInflightAsLost_raises {h : SentPacketHandler} (hh : HistorySent h) :
    Raises h h.SetInflightAsLost := by
  dsimp only [SetInflightAsLost]
  refine (foldl_queuePacketForRetransmission_raises _ _ fun p hp => ?_).left rfl rfl
  exact hh p ((List.takeWhile_sublist _).subset hp)

theorem retransmitTLP_raises {h : SentPacketHandler} (hh : HistorySent h) :
    Raises h h.retransmitTLP := by
  unfold retransmitTLP
  split
  · exact queuePacketForRetransmission_raises h (hh _ (List.mem_of_getLast? ‹_›))
  · exact Raises.refl h

theorem retransmitOldestPacket_raises {h : SentPacketHandler} (hh : HistorySent h) :
    Raises h h.retransmitOldestPacket ∧ HistorySent h.retransmitOldestPacket := by
  unfold retransmitOldestPacket
  split
  · rename_i p ps hps
    refine ⟨(queuePacketForRetransmission_raises h (hh p (by simp [hps]))).right rfl rfl,
      historySent_queuePacketForRetransmission hh p⟩
  · exact ⟨Raises.refl h, hh⟩

/-- Each round of the RTO loop queues the oldest packet, which was sent. -/
theorem retransmitAllLoop_raises (fuel : Nat) : ∀ {h : SentPacketHandler}, HistorySent h →
    Raises h (retransmitAllLoop fuel h) := by
  induction fuel with
  | zero => exact fun _ => Raises.refl _
  | succ fuel ih =>
    intro h hh
    rw [retransmitAllLoop]
    split
    · rename_i p ps hps
      have r : Raises h (h.queueRTO p) :=
        (queuePacketForRetransmission_raises h (hh p (by simp [hps]))).right rfl rfl
      exact r.trans (ih (historySent_queuePacketForRetransmission hh p))
    · exact Raises.refl h

theorem onAlarm_raises {h : SentPacketHandler} (hh : HistorySent h) (potentiallyFailed : Bool) :
    Raises h (h.OnAlarm env now potentiallyFailed) := by
  unfold OnAlarm
  dsimp only
  split_ifs
  · exact Raises.of_eq rfl rfl
  · exact (detectLostPackets_raises env now hh).right (by simp) (by simp)
  · exact (retransmitTLP_raises hh).right (by simp) (by simp)
  · exact (retransmitAllLoop_raises h.packetHistory.length hh).right
      (by simp [retransmitAllPackets]) (by simp [retransmitAllPackets])
  · obtain ⟨r₁, hh₁⟩ := retransmitOldestPacket_raises hh
    exact (r₁.trans (retransmitOldestPacket_raises hh₁).1).right
      (by simp [retransmitOldestTwoPackets]) (by simp [retransmitOldestTwoPackets])

/-- The manager's `ReceivedAck`, for an ACK of nothing above the last packet sent. -/
theorem stopWaitingManager_receivedAck_raises (h : SentPacketHandler) {f : AckFrame}
    (hf : f.LargestAcked ≤ h.lastSentPacketNumber) :
    Raises h { h with stopWaitingManager := h.stopWaitingManager.ReceivedAck f } := by
  unfold StopWaitingManager.ReceivedAck
  split_ifs
  · exact Raises.of_next rfl rfl hf
  · exact Raises.of_eq rfl rfl

/-- What an ACK does once it passes its checks: acknowledge the packets of the walk, detect losses,
set the alarm and forget skipped numbers. -/
theorem handled_raises {h : SentPacketHandler} (hh : HistorySent h) (acked : List Packet) :
    Raises h ((((acked.foldl onPacketAcked h).detectLostPackets env now).updateLossDetectionAlarm
      env).garbageCollectSkippedPackets) :=
  ((foldl_onPacketAcked_raises acked h).trans
    (detectLostPackets_raises env now (historySent_foldl_onPacketAcked hh acked))).right
      (by simp [garbageCollectSkippedPackets]) (by simp [garbageCollectSkippedPackets])

section Frames

variable {h h' : SentPacketHandler} {withPacketNumber : PacketNumber} {r : Except String Unit}

/-- An ACK moves the manager only once it has been handled: to one past `LargestAcked`, which was
sent. -/
theorem receivedAck_raises (hh : HistorySent h) {f : AckFrame}
    (hr : h.ReceivedAck env now f withPacketNumber = some (h', r)) : Raises h h' := by
  unfold ReceivedAck at hr
  dsimp only at hr
  split_ifs at hr with hunsent hdup hrepeated hskipped
  · obtain ⟨rfl, -⟩ := Prod.mk.inj (Option.some.inj hr)
    exact Raises.refl h
  · obtain ⟨rfl, -⟩ := Prod.mk.inj (Option.some.inj hr)
    exact Raises.refl h
  · obtain ⟨rfl, -⟩ := Prod.mk.inj (Option.some.inj hr)
    exact Raises.of_eq rfl rfl
  · obtain ⟨rfl, -⟩ := Prod.mk.inj (Option.some.inj hr)
    exact Raises.of_eq rfl rfl
  split at hr
  · cases hr
  · obtain ⟨rfl, -⟩ := Prod.mk.inj (Option.some.inj hr)
    exact Raises.of_eq rfl rfl
  rename_i acked _
  obtain ⟨rfl, -⟩ := Prod.mk.inj (Option.some.inj hr)
  -- the walk and loss detection raise; then the manager's own `ReceivedAck`
  have r₁ := (handled_raises env now (h := { h with
      largestReceivedPacketWithAck := withPacketNumber
      LargestAcked := f.LargestAcked }) hh acked).left (h := h) rfl rfl
  refine r₁.trans (stopWaitingManager_receivedAck_raises _ ?_)
  rw [r₁.lastSentPacketNumber_eq]
  exact UInt64.not_lt.1 hunsent

/-- A CLOSE_PATH frame moves the manager only through the packets it declares lost. -/
theorem receivedClosePath_raises (hh : HistorySent h) {f : ClosePathFrame}
    (hr : h.ReceivedClosePath f withPacketNumber = some (h', r)) : Raises h h' := by
  unfold ReceivedClosePath at hr
  dsimp only at hr
  split_ifs at hr
  · obtain ⟨rfl, -⟩ := Prod.mk.inj (Option.some.inj hr)
    exact Raises.refl h
  · obtain ⟨rfl, -⟩ := Prod.mk.inj (Option.some.inj hr)
    exact Raises.refl h
  · obtain ⟨rfl, -⟩ := Prod.mk.inj (Option.some.inj hr)
    exact Raises.of_eq rfl rfl
  split at hr
  · cases hr
  · obtain ⟨rfl, -⟩ := Prod.mk.inj (Option.some.inj hr)
    exact Raises.of_eq rfl rfl
  rename_i acked _
  obtain ⟨rfl, -⟩ := Prod.mk.inj (Option.some.inj hr)
  have hh₁ : HistorySent { h with largestReceivedPacketWithAck := withPacketNumber } := hh
  have r₁ := ((foldl_onPacketAcked_raises acked _).trans
    (SetInflightAsLost_raises (historySent_foldl_onPacketAcked hh₁ acked))).left (h := h) rfl rfl
  exact r₁.right rfl rfl

end Frames

/-! ## The invariant over runs -/

/-- What the stop-waiting manager keeps against the packets sent: `nextLeastUnacked` at most one
past the last of them, no frame sent before one is recorded, and the recorded frame's
`LeastUnacked` positive and at most one past the last packet sent. -/
structure StopWaitingInv (h : SentPacketHandler) : Prop where
  nextLeastUnacked_le :
    h.stopWaitingManager.nextLeastUnacked.toNat ≤ h.lastSentPacketNumber.toNat + 1
  none_sent : h.stopWaitingManager.lastStopWaitingFrame = none →
    h.stopWaitingManager.largestLeastUnackedSent = 0
  last_le : ∀ x, h.stopWaitingManager.lastStopWaitingFrame = some x →
    0 < x ∧ x.toNat ≤ h.lastSentPacketNumber.toNat + 1

namespace StopWaitingInv

variable {env now} {h h' : SentPacketHandler}

theorem newSentPacketHandler : StopWaitingInv NewSentPacketHandler :=
  ⟨by decide, fun _ => rfl, nofun⟩

theorem raises (hw : StopWaitingInv h) (r : Raises h h') : StopWaitingInv h' where
  nextLeastUnacked_le := by
    rw [r.lastSentPacketNumber_eq]
    rcases r.nextLeastUnacked_le with hn | hn
    · rw [hn]
      exact hw.nextLeastUnacked_le
    · exact hn
  none_sent hn := by
    rw [r.largestLeastUnackedSent_eq]
    exact hw.none_sent (r.lastStopWaitingFrame_eq ▸ hn)
  last_le x hx := by
    rw [r.lastSentPacketNumber_eq]
    exact hw.last_le x (r.lastStopWaitingFrame_eq ▸ hx)

/-- The same manager, with more packets sent. -/
theorem of_le (hw : StopWaitingInv h) (hs : h'.stopWaitingManager = h.stopWaitingManager)
    (hl : h.lastSentPacketNumber ≤ h'.lastSentPacketNumber) : StopWaitingInv h' := by
  have hl' := UInt64.le_iff_toNat_le.1 hl
  refine ⟨?_, ?_, fun x hx => ?_⟩
  · rw [hs]
    exact le_trans hw.nextLeastUnacked_le (by omega)
  · rw [hs]
    exact hw.none_sent
  · rw [hs] at hx
    obtain ⟨h0, hle⟩ := hw.last_le x hx
    exact ⟨h0, by omega⟩

theorem sentPacket (hw : StopWaitingInv h) {packet : Packet}
    (hs : h.SentPacket env now packet = .ok h') : StopWaitingInv h' := by
  unfold SentPacket at hs
  dsimp only at hs
  split_ifs at hs with hpn hfull
  all_goals
    cases hs
    exact hw.of_le (by simp) (by simpa using UInt64.le_of_lt (UInt64.not_le.1 hpn))

theorem getStopWaitingFrame (hw : StopWaitingInv h) (force : Bool) :
    StopWaitingInv
      { h with stopWaitingManager := (h.stopWaitingManager.GetStopWaitingFrame force).1 } := by
  obtain ⟨hn, hnone, hlast⟩ := hw
  unfold StopWaitingManager.GetStopWaitingFrame
  split_ifs with hle hforce hfirst
  · -- a first forced frame needs a frame sent before: none was
    simp only [Option.isNone_iff_eq_none] at hfirst
    exact absurd (hnone hfirst.1) (UInt64.ne_of_lt hfirst.2).symm
  · exact ⟨hn, hnone, hlast⟩
  · exact ⟨hn, hnone, hlast⟩
  · -- a new frame: `nextLeastUnacked` is above `largestLeastUnackedSent`, so positive
    refine ⟨hn, nofun, fun x hx => ?_⟩
    obtain rfl := (Option.some.inj hx).symm
    exact ⟨UInt64.lt_of_le_of_lt UInt64.zero_le (UInt64.not_le.1 hle), hn⟩

/-- Every frame the manager returns has a positive `LeastUnacked` at most one past the last packet
sent. -/
theorem frame (hw : StopWaitingInv h) {force : Bool} {x : PacketNumber}
    (hf : (h.stopWaitingManager.GetStopWaitingFrame force).2 = some x) :
    0 < x ∧ x.toNat ≤ h.lastSentPacketNumber.toNat + 1 := by
  unfold StopWaitingManager.GetStopWaitingFrame at hf
  split_ifs at hf with hle hforce hfirst
  · simp only [Option.isNone_iff_eq_none] at hfirst
    exact absurd (hw.none_sent hfirst.1) (UInt64.ne_of_lt hfirst.2).symm
  · exact hw.last_le x hf
  · obtain rfl := (Option.some.inj hf).symm
    exact ⟨UInt64.lt_of_le_of_lt UInt64.zero_le (UInt64.not_le.1 hle), hw.nextLeastUnacked_le⟩

theorem dequeuePacketForRetransmission_raises (h : SentPacketHandler) :
    Raises h h.DequeuePacketForRetransmission.1 := by
  unfold DequeuePacketForRetransmission
  split <;> exact Raises.of_eq rfl rfl

/-- One call of the API keeps the invariant; the bookkeeping invariant says that the packets it
can queue for retransmission were sent. -/
theorem step (hi : Inv h) (hw : StopWaitingInv h) (hs : Step h h') : StopWaitingInv h' := by
  cases hs with
  | sentPacket env now packet hs => exact hw.sentPacket hs
  | receivedAck env now f withPacketNumber r hr =>
    exact hw.raises (receivedAck_raises env now hi.le_lastSent hr)
  | receivedClosePath f withPacketNumber r hr =>
    exact hw.raises (receivedClosePath_raises hi.le_lastSent hr)
  | onAlarm env now potentiallyFailed =>
    exact hw.raises (onAlarm_raises env now hi.le_lastSent potentiallyFailed)
  | dequeuePacketForRetransmission => exact hw.raises (dequeuePacketForRetransmission_raises h)
  | duplicatePacket _ p => exact hw.raises (Raises.of_eq rfl rfl)

end StopWaitingInv

/-! ## Runs with the packer's calls -/

/-- A call of the API, or the packer asking for a STOP_WAITING frame. -/
inductive PathStep : SentPacketHandler → SentPacketHandler → Prop
  | handler {h h' : SentPacketHandler} : Step h h' → PathStep h h'
  | getStopWaitingFrame (h : SentPacketHandler) (force : Bool) :
      PathStep h
        { h with stopWaitingManager := (h.stopWaitingManager.GetStopWaitingFrame force).1 }

/-- A handler that some sequence of calls and frames taken leads to from a new one. -/
def PathReachable (h : SentPacketHandler) : Prop :=
  Relation.ReflTransGen PathStep NewSentPacketHandler h

/-- Both invariants hold along every such run; the frames taken touch no books. -/
theorem PathReachable.inv {h : SentPacketHandler} (hr : PathReachable h) :
    Inv h ∧ StopWaitingInv h := by
  induction hr with
  | refl => exact ⟨Inv.newSentPacketHandler, StopWaitingInv.newSentPacketHandler⟩
  | tail _ hs ih =>
    obtain ⟨hi, hw⟩ := ih
    cases hs with
    | handler hs => exact ⟨hi.step hs, hw.step hi hs⟩
    | getStopWaitingFrame force => exact ⟨hi.of_books rfl, hw.getStopWaitingFrame force⟩

theorem Reachable.pathReachable {h : SentPacketHandler} (hr : Reachable h) : PathReachable h := by
  induction hr with
  | refl => exact .refl
  | tail _ hs ih => exact ih.tail (PathStep.handler hs)

/-- The STOP_WAITING frame the packer puts into the packet `packetNumber`: the manager's
`LeastUnacked`, with the packet's number and the length `getPublicHeader` gives it from
`GetLeastUnacked`. -/
def packStopWaitingFrame (h : SentPacketHandler) (packetNumber leastUnacked : PacketNumber) :
    StopWaitingFrame :=
  { LeastUnacked := leastUnacked
    PacketNumberLen := GetPacketNumberLengthForPublicHeader packetNumber h.GetLeastUnacked
    PacketNumber := packetNumber }

/-- Every frame of a reachable handler, put into a packet numbered above the last one sent, is
written, and `ParseStopWaitingFrame` reads back its `LeastUnacked` modulo the packet number length:
exactly, if and only if the distance fits. -/
theorem stopWaitingFrame_decodes {h : SentPacketHandler} (hr : PathReachable h) {force : Bool}
    {leastUnacked : PacketNumber}
    (hf : (h.stopWaitingManager.GetStopWaitingFrame force).2 = some leastUnacked)
    {packetNumber : PacketNumber} (hpn : h.lastSentPacketNumber < packetNumber)
    (version : VersionNumber) (rest : List UInt8) :
    0 < leastUnacked ∧ leastUnacked ≤ packetNumber ∧
      ∃ bs, Returns ((packStopWaitingFrame h packetNumber leastUnacked).Write version) bs ∧
        ParseStopWaitingFrame packetNumber
            (GetPacketNumberLengthForPublicHeader packetNumber h.GetLeastUnacked) version
            (bs ++ rest) = .ok ((packStopWaitingFrame h packetNumber leastUnacked).received, rest) ∧
        ((packStopWaitingFrame h packetNumber leastUnacked).received.LeastUnacked = leastUnacked ↔
          (packetNumber - leastUnacked).toNat <
            2 ^ (8 * (GetPacketNumberLengthForPublicHeader packetNumber h.GetLeastUnacked).toNat)) := by
  obtain ⟨-, hw⟩ := hr.inv
  obtain ⟨hpos, hle⟩ := hw.frame hf
  have hpn' := UInt64.lt_iff_toNat_lt.1 hpn
  have hlu : leastUnacked ≤ packetNumber := UInt64.le_iff_toNat_le.2 (by omega)
  have h0 : packetNumber ≠ 0 := fun h0 => by rw [h0] at hpn'; simp at hpn'
  -- the header never has a one-byte packet number
  have hlen : GetPacketNumberLengthForPublicHeader packetNumber h.GetLeastUnacked = 2 ∨
      GetPacketNumberLengthForPublicHeader packetNumber h.GetLeastUnacked = 4 ∨
      GetPacketNumberLengthForPublicHeader packetNumber h.GetLeastUnacked = 6 := by
    rcases getPacketNumberLengthForPublicHeader_cases packetNumber h.GetLeastUnacked with
      ⟨-, hl⟩ | ⟨-, -, hl⟩ | ⟨-, hl⟩ <;> simp [hl]
  obtain ⟨bs, hbs⟩ := StopWaitingFrame.write_returns (f := packStopWaitingFrame h packetNumber
    leastUnacked) version h0 hlu hlen
  exact ⟨hpos, hlu, bs, hbs, ParseStopWaitingFrame_Write version rest _ hbs hpos,
    StopWaitingFrame.received_leastUnacked_iff hlu⟩

/-! ## The distance need not fit -/

/-- The RTT statistics of a connection without samples. -/
def noRTT : RTTEnv := ⟨0, 0, 0⟩

/-- A packet of one byte with a PING frame, sent at time 0. -/
def pingPacket (packetNumber : PacketNumber) : Packet := ⟨packetNumber, [.ping], 1, 0⟩

/-- A packet of one byte with only an ACK frame, which is not retransmittable. -/
def ackOnlyPacket (packetNumber : PacketNumber) : Packet := ⟨packetNumber, [.ack], 1, 0⟩

/-- An ACK of packet 1 alone. -/
def ackOfFirst : AckFrame := ⟨0, 1, 1, [], 0, 0⟩

/-- The handler once packet 1, with a PING, is sent and acknowledged: no packet in flight, and
`nextLeastUnacked` at 2. -/
def ackedFirst : SentPacketHandler :=
  { lastSentPacketNumber := 1, skippedPackets := [], numNonRetransmittablePackets := 0
    LargestAcked := 1, largestReceivedPacketWithAck := 1, packetHistory := []
    stopWaitingManager := ⟨0, 2, none⟩, retransmissionQueue := [], bytesInFlight := 0
    rtoCount := 0, tlpCount := 0, lossTime := none, lastSentTime := 0, alarm := none
    packets := 1, retransmissions := 0, losses := 0 }

theorem reachable_ackedFirst : Reachable ackedFirst :=
  .tail (.tail .refl (Step.sentPacket noRTT 0 (pingPacket 1) rfl))
    (Step.receivedAck noRTT 0 ackOfFirst 1 (.ok ()) rfl)

/-- A first frame: `LeastUnacked` 2, sent in packet 2 with a two-byte packet number, is written and
read back whole. -/
theorem stopWaitingFrame_decodes_ackedFirst :
    0 < (2 : PacketNumber) ∧ (2 : PacketNumber) ≤ 2 ∧
      ∃ bs, Returns ((packStopWaitingFrame ackedFirst 2 2).Write VersionWhatever) bs ∧
        ParseStopWaitingFrame 2 (GetPacketNumberLengthForPublicHeader 2 ackedFirst.GetLeastUnacked)
            VersionWhatever (bs ++ []) = .ok ((packStopWaitingFrame ackedFirst 2 2).received, []) ∧
        ((packStopWaitingFrame ackedFirst 2 2).received.LeastUnacked = 2 ↔
          ((2 : PacketNumber) - 2).toNat <
            2 ^ (8 * (GetPacketNumberLengthForPublicHeader 2 ackedFirst.GetLeastUnacked).toNat)) :=
  stopWaitingFrame_decodes reachable_ackedFirst.pathReachable
    (show (ackedFirst.stopWaitingManager.GetStopWaitingFrame false).2 = some 2 from rfl) (by decide)
    VersionWhatever []

/-- A packet with only an ACK frame, numbered right after the last one, is counted but not kept. -/
theorem SentPacket_ackOnly (h : SentPacketHandler)
    (hl : h.lastSentPacketNumber.toNat + 1 < 2 ^ 64) (hp : h.packetHistory = [])
    (hq : h.retransmissionQueue = []) :
    ∃ h', h.SentPacket env now (ackOnlyPacket (h.lastSentPacketNumber + 1)) = .ok h' ∧
      h'.packetHistory = [] ∧ h'.retransmissionQueue = [] ∧
      h'.stopWaitingManager = h.stopWaitingManager ∧
      h'.lastSentPacketNumber.toNat = h.lastSentPacketNumber.toNat + 1 := by
  have hsucc : (h.lastSentPacketNumber + 1).toNat = h.lastSentPacketNumber.toNat + 1 := by
    rw [UInt64.toNat_add, UInt64.toNat_one, Nat.mod_eq_of_lt hl]
  have hlt : ¬ h.lastSentPacketNumber + 1 ≤ h.lastSentPacketNumber := by
    rw [UInt64.le_iff_toNat_le, hsucc]
    omega
  unfold SentPacket
  simp only [ackOnlyPacket, stripNonRetransmittableFrames, List.filter, IsFrameRetransmittable]
  rw [if_neg hlt, if_neg (by simp [hp, hq, Protocol.MaxTrackedSentPackets,
    Protocol.DefaultMaxCongestionWindow])]
  refine ⟨_, rfl, ?_, ?_, ?_, ?_⟩ <;> simp [hp, hq, hsucc]

/-- A packet with a PING, numbered right after the last one, into an empty history. -/
theorem SentPacket_ping (h : SentPacketHandler) (hl : h.lastSentPacketNumber.toNat + 1 < 2 ^ 64)
    (hp : h.packetHistory = []) (hq : h.retransmissionQueue = []) :
    ∃ h', h.SentPacket env now (pingPacket (h.lastSentPacketNumber + 1)) = .ok h' ∧
      h'.packetHistory = [{ pingPacket (h.lastSentPacketNumber + 1) with SendTime := now }] ∧
      h'.stopWaitingManager = h.stopWaitingManager ∧
      h'.lastSentPacketNumber = h.lastSentPacketNumber + 1 := by
  have hsucc : (h.lastSentPacketNumber + 1).toNat = h.lastSentPacketNumber.toNat + 1 := by
    rw [UInt64.toNat_add, UInt64.toNat_one, Nat.mod_eq_of_lt hl]
  have hlt : ¬ h.lastSentPacketNumber + 1 ≤ h.lastSentPacketNumber := by
    rw [UInt64.le_iff_toNat_le, hsucc]
    omega
  unfold SentPacket
  simp only [pingPacket, stripNonRetransmittableFrames, List.filter, IsFrameRetransmittable]
  rw [if_neg hlt, if_neg (by simp [hp, hq, Protocol.MaxTrackedSentPackets,
    Protocol.DefaultMaxCongestionWindow])]
  refine ⟨_, rfl, ?_, ?_, ?_⟩ <;> simp [hp]

/-- From a reachable handler with nothing in flight or queued, `n` packets with only ACK frames
lead to one with nothing in flight or queued, the same stop-waiting manager, and `n` more packets
sent. -/
theorem reachable_ackOnly (n : Nat) : ∀ {h : SentPacketHandler}, Reachable h →
    h.packetHistory = [] → h.retransmissionQueue = [] →
    h.lastSentPacketNumber.toNat + n < 2 ^ 64 →
    ∃ h', Reachable h' ∧ h'.packetHistory = [] ∧ h'.retransmissionQueue = [] ∧
      h'.stopWaitingManager = h.stopWaitingManager ∧
      h'.lastSentPacketNumber.toNat = h.lastSentPacketNumber.toNat + n := by
  induction n with
  | zero => exact fun hr hp hq _ => ⟨_, hr, hp, hq, rfl, rfl⟩
  | succ n ih =>
    intro h hr hp hq hl
    obtain ⟨h₁, hs, hp₁, hq₁, hw₁, hl₁⟩ := SentPacket_ackOnly noRTT 0 h (by omega) hp hq
    obtain ⟨h', hr', hp', hq', hw', hl'⟩ :=
      ih (hr.tail (Step.sentPacket noRTT 0 _ hs)) hp₁ hq₁ (by omega)
    exact ⟨h', hr', hp', hq', hw'.trans hw₁, by omega⟩

/-- After packet 1 is acknowledged, `2 ^ 16` packets with only ACK frames and one with a PING:
the oldest packet in flight is 65538, so the next packet, 65539, gets a two-byte packet number,
while the manager still holds `LeastUnacked` 2.  The distance 65537 does not fit into 16 bits, and
the frame decodes to `LeastUnacked` 65538. -/
theorem stopWaitingFrame_truncated : ∃ h : SentPacketHandler, Reachable h ∧
    (h.stopWaitingManager.GetStopWaitingFrame false).2 = some 2 ∧
    h.lastSentPacketNumber = 65538 ∧ h.GetLeastUnacked = 65538 ∧
    GetPacketNumberLengthForPublicHeader 65539 h.GetLeastUnacked = 2 ∧
    (packStopWaitingFrame h 65539 2).received.LeastUnacked = 65538 := by
  obtain ⟨h₃, hr₃, hp₃, hq₃, hw₃, hl₃⟩ :=
    reachable_ackOnly 65536 reachable_ackedFirst rfl rfl (by decide)
  have hl₃' : h₃.lastSentPacketNumber = 65537 := UInt64.toNat_inj.mp (by rw [hl₃]; rfl)
  obtain ⟨h₄, hs₄, hp₄, hw₄, hl₄⟩ := SentPacket_ping noRTT 0 h₃ (by rw [hl₃]; decide) hp₃ hq₃
  have hglu : h₄.GetLeastUnacked = 65538 := by
    simp only [GetLeastUnacked, largestInOrderAcked, hp₄, hl₃', pingPacket]
    decide
  refine ⟨h₄, hr₃.tail (Step.sentPacket noRTT 0 _ hs₄), ?_, ?_, hglu, ?_, ?_⟩
  · rw [hw₄, hw₃]
    rfl
  · rw [hl₄, hl₃']
    rfl
  · rw [hglu]
    decide
  · simp only [packStopWaitingFrame, hglu]
    decide

end SentPacketHandler

end Ackhandler
end PStream
