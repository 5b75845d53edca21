import Mathlib.Logic.Relation
import PStream.Lib.List
import PStream.Ackhandler.Sent

/-!
# The bookkeeping of sent packets

Over every run of its API, a `sentPacketHandler` keeps its books straight: `bytesInFlight` is the
sum of the lengths of the packets in `packetHistory`, the history is strictly increasing in packet
number and never above the last packet sent, and an ACK it handles leaves no packet behind that
the frame acknowledges.

* `Removes h h' l q` says that `h'` is `h` with the packets `l` taken out of the history and `q`
  queued for retransmission.  Each route out of the history is one: `onPacketAcked`, loss
  detection, `SetInflightAsLost`, a TLP and an RTO.  `Inv.removes` shows that taking out part of
  the history, as a multiset, keeps the invariant.
* `determineNewlyAckedPackets_eq_filter` is the merge walk of `determineNewlyAckedPackets`: on a
  sorted history and a frame that passes `validateAckRanges`, it returns exactly the packets the
  frame acknowledges, and never its "BUG" error.
* `Step` is one call of the API, with any arguments, and `Reachable` a handler that some sequence
  of calls leads to from `NewSentPacketHandler`.
-/

set_option autoImplicit false

namespace PStream
namespace Ackhandler

open Wire

namespace SentPacketHandler

variable (env : RTTEnv) (now : Int)

/-! ## The books -/

/-- What the bookkeeping is about: the history, the bytes in flight, the last packet number sent
and the retransmission queue. -/
def books (h : SentPacketHandler) : List Packet × ByteCount × PacketNumber × List Packet :=
  (h.packetHistory, h.bytesInFlight, h.lastSentPacketNumber, h.retransmissionQueue)

@[simp] theorem books_updateLossDetectionAlarm (h : SentPacketHandler) :
    (h.updateLossDetectionAlarm env).books = h.books := by
  unfold updateLossDetectionAlarm
  split_ifs <;> rfl

@[simp] theorem books_garbageCollectSkippedPackets (h : SentPacketHandler) :
    h.garbageCollectSkippedPackets.books = h.books := rfl

/-- `h'` is `h` with the packets `l` taken out of the history, their lengths out of the bytes in
flight, and the packets `q` added to the retransmission queue. -/
structure Removes (h h' : SentPacketHandler) (l q : List Packet) : Prop where
  packetHistory_eq : h'.packetHistory = h.packetHistory.diff l
  bytesInFlight_eq : h'.bytesInFlight = h.bytesInFlight - (l.map Packet.Length).sum
  lastSentPacketNumber_eq : h'.lastSentPacketNumber = h.lastSentPacketNumber
  retransmissionQueue_eq : h'.retransmissionQueue = h.retransmissionQueue ++ q

namespace Removes

variable {h h' h₁ h₂ : SentPacketHandler} {l l' q q' : List Packet}

theorem of_books (hb : h'.books = h.books) : Removes h h' [] [] := by
  simp only [books, Prod.mk.injEq] at hb
  obtain ⟨h1, h2, h3, h4⟩ := hb
  exact ⟨by simp [h1], by simp [h2], h3, by simp [h4]⟩

theorem trans (r₁ : Removes h h₁ l q) (r₂ : Removes h₁ h₂ l' q') :
    Removes h h₂ (l ++ l') (q ++ q') where
  packetHistory_eq := by rw [r₂.packetHistory_eq, r₁.packetHistory_eq, List.diff_append]
  bytesInFlight_eq := by
    rw [r₂.bytesInFlight_eq, r₁.bytesInFlight_eq, List.map_append, List.sum_append, sub_sub]
  lastSentPacketNumber_eq := r₂.lastSentPacketNumber_eq.trans r₁.lastSentPacketNumber_eq
  retransmissionQueue_eq := by
    rw [r₂.retransmissionQueue_eq, r₁.retransmissionQueue_eq, List.append_assoc]

theorem books_left (r : Removes h₁ h' l q) (hb : h₁.books = h.books) : Removes h h' l q :=
  (of_books hb).trans r

theorem books_right (r : Removes h h₁ l q) (hb : h'.books = h₁.books) : Removes h h' l q := by
  simpa using r.trans (of_books hb)

/-- Removing a sub-multiset: the history is what remains, then what was removed. -/
theorem perm (r : Removes h h' l q) (hs : l.Subperm h.packetHistory) :
    h.packetHistory.Perm (h'.packetHistory ++ l) := by
  rw [r.packetHistory_eq]
  exact List.perm_diff_append_of_subperm hs

/-- A step that takes out one packet at a time, over a list of packets. -/
theorem foldl {g : SentPacketHandler → Packet → SentPacketHandler} {t : Packet → List Packet}
    (hg : ∀ h p, Removes h (g h p) [p] (t p)) :
    ∀ (l : List Packet) (h : SentPacketHandler), Removes h (l.foldl g h) l (l.flatMap t)
  | [], _ => of_books rfl
  | p :: l, h => (hg h p).trans (foldl hg l (g h p))

end Removes

/-! ## The five routes out of the history -/

theorem onPacketAcked_removes (h : SentPacketHandler) (p : Packet) :
    Removes h (h.onPacketAcked p) [p] [] :=
  ⟨by simp [onPacketAcked], by simp [onPacketAcked], rfl, by simp [onPacketAcked]⟩

theorem queuePacketForRetransmission_removes (h : SentPacketHandler) (p : Packet) :
    Removes h (h.queuePacketForRetransmission p) [p] [p] :=
  ⟨by simp [queuePacketForRetransmission], by simp [queuePacketForRetransmission], rfl, rfl⟩

theorem queueRTO_removes (h : SentPacketHandler) (p : Packet) :
    Removes h (h.queueRTO p) [p] [p] :=
  (queuePacketForRetransmission_removes h p).books_right rfl

theorem foldl_onPacketAcked_removes (l : List Packet) (h : SentPacketHandler) :
    Removes h (l.foldl onPacketAcked h) l [] := by
  have r := Removes.foldl onPacketAcked_removes l h
  rwa [List.flatMap_eq_nil_iff.2 fun _ _ => rfl] at r

theorem foldl_queuePacketForRetransmission_removes (l : List Packet) (h : SentPacketHandler) :
    Removes h (l.foldl queuePacketForRetransmission h) l l := by
  simpa using Removes.foldl queuePacketForRetransmission_removes l h

/-- The packets loss detection declares lost are taken from the history, in its order. -/
theorem lossLoop_sublist (largestAcked : PacketNumber) (delayUntilLost : Int) :
    ∀ (ps : List Packet) (lossTime : Option Int),
      (lossLoop now largestAcked delayUntilLost ps lossTime).1.Sublist ps
  | [], _ => List.Sublist.slnil
  | p :: ps, lossTime => by
    have ih := lossLoop_sublist largestAcked delayUntilLost ps
    rw [lossLoop]
    dsimp only
    split_ifs
    · exact List.nil_sublist _
    · -- a lost packet is put in front of those the rest of the walk finds
      have hrest := ih lossTime
      generalize lossLoop now largestAcked delayUntilLost ps lossTime = r at hrest ⊢
      exact hrest.cons_cons p
    -- one that is not lost only sets the loss time, if it is not set yet
    all_goals exact (ih _).cons p

theorem detectLostPackets_removes (h : SentPacketHandler) :
    ∃ lost, lost.Sublist h.packetHistory ∧ Removes h (h.detectLostPackets env now) lost lost := by
  dsimp only [detectLostPackets]
  have hsub := lossLoop_sublist now h.LargestAcked (max env.latestRTT env.smoothedRTT * 9 / 8)
    h.packetHistory none
  generalize lossLoop now h.LargestAcked _ h.packetHistory none = r at hsub ⊢
  obtain ⟨lost, lossTime⟩ := r
  exact ⟨lost, hsub, (foldl_queuePacketForRetransmission_removes lost _).books_left rfl⟩

theorem SetInflightAsLost_removes (h : SentPacketHandler) :
    ∃ lost, lost.Sublist h.packetHistory ∧ Removes h h.SetInflightAsLost lost lost := by
  dsimp only [SetInflightAsLost]
  exact ⟨_, List.takeWhile_sublist _,
    (foldl_queuePacketForRetransmission_removes _ _).books_left rfl⟩

/-- A handler's ACK or CLOSE_PATH frame first acknowledges the packets the walk returned, then
declares some of the rest lost. -/
theorem Removes.acked_then_lost {g : SentPacketHandler → SentPacketHandler}
    (hg : ∀ h, ∃ lost, lost.Sublist h.packetHistory ∧ Removes h (g h) lost lost)
    {h h₁ : SentPacketHandler} (hb₁ : h₁.books = h.books) (acked : List Packet) :
    ∃ lost, lost.Sublist (h.packetHistory.diff acked) ∧
      Removes h (g (acked.foldl onPacketAcked h₁)) (acked ++ lost) lost := by
  have r₁ := (foldl_onPacketAcked_removes acked h₁).books_left hb₁
  obtain ⟨lost, hlost, r₂⟩ := hg (acked.foldl onPacketAcked h₁)
  rw [r₁.packetHistory_eq] at hlost
  exact ⟨lost, hlost, r₁.trans r₂⟩

/-! ## What the walk of `determineNewlyAckedPackets` returns -/

/-- The walk goes on after a packet it acknowledges. -/
theorem map_cons_eq_some_ok {x : Option (Except String (List Packet))} {el : Packet}
    {acked : List Packet} (h : x.map (·.map (el :: ·)) = some (.ok acked)) :
    ∃ acked', x = some (.ok acked') ∧ acked = el :: acked' := by
  rcases x with _ | _ | acked'
  · cases h
  · cases h
  · cases h
    exact ⟨acked', rfl, rfl⟩

/-- Whatever the frame, the walk returns packets of the history, in its order. -/
theorem ackedLoop_sublist {largestAcked lowestAcked : PacketNumber} {hasMissingRanges : Bool}
    {bugSuffix : String} {ranges : List AckRange} {ps acked : List Packet}
    (h : ackedLoop largestAcked lowestAcked hasMissingRanges bugSuffix ranges ps = some (.ok acked)) :
    acked.Sublist ps := by
  induction ps generalizing ranges acked with
  | nil =>
    cases h
    exact .slnil
  | cons el els ih =>
    rw [ackedLoop] at h
    dsimp only at h
    split_ifs at h
    · exact (ih h).cons el
    · cases h
      exact List.nil_sublist _
    · split at h
      · cases h
      · split_ifs at h
        · cases h
        · obtain ⟨acked', h', rfl⟩ := map_cons_eq_some_ok h
          exact (ih h').cons_cons el
        · exact (ih h).cons el
    · obtain ⟨acked', h', rfl⟩ := map_cons_eq_some_ok h
      exact (ih h').cons_cons el

/-! ## What an ACK and a CLOSE_PATH frame can do -/

section Frames

variable {h h' : SentPacketHandler} {withPacketNumber : PacketNumber} {r : Except String Unit}

/-- `ReceivedAck` either leaves the books alone, and then succeeds only on an ACK of nothing above
the packets acknowledged in order, or acknowledges the packets the walk returns and runs loss
detection. -/
theorem receivedAck_cases {f : AckFrame}
    (hr : h.ReceivedAck env now f withPacketNumber = some (h', r)) :
    (h'.books = h.books ∧ (r = .ok () → f.LargestAcked ≤ h.largestInOrderAcked)) ∨
    ∃ acked, h.determineNewlyAckedPackets f = some (.ok acked) ∧ r = .ok () ∧
      ∃ h₁ : SentPacketHandler, h₁.books = h.books ∧
        h'.books = ((acked.foldl onPacketAcked h₁).detectLostPackets env now).books := by
  unfold ReceivedAck at hr
  dsimp only at hr
  split_ifs at hr with hunsent hdup hrepeated hskipped
  · obtain ⟨rfl, rfl⟩ := Prod.mk.inj (Option.some.inj hr)
    exact .inl ⟨rfl, nofun⟩
  · obtain ⟨rfl, rfl⟩ := Prod.mk.inj (Option.some.inj hr)
    exact .inl ⟨rfl, nofun⟩
  · obtain ⟨rfl, rfl⟩ := Prod.mk.inj (Option.some.inj hr)
    exact .inl ⟨rfl, fun _ => hrepeated⟩
  · obtain ⟨rfl, rfl⟩ := Prod.mk.inj (Option.some.inj hr)
    exact .inl ⟨rfl, nofun⟩
  · -- the walk: a panic is no step, its "BUG" error changes no books
    split at hr
    · cases hr
    · obtain ⟨rfl, rfl⟩ := Prod.mk.inj (Option.some.inj hr)
      exact .inl ⟨rfl, nofun⟩
    · rename_i acked hd
      obtain ⟨rfl, rfl⟩ := Prod.mk.inj (Option.some.inj hr)
      exact .inr ⟨acked, hd, rfl,
        { h with largestReceivedPacketWithAck := withPacketNumber, LargestAcked := f.LargestAcked },
        rfl, books_updateLossDetectionAlarm env _⟩

/-- `ReceivedClosePath` either leaves the books alone, or acknowledges the packets the walk returns
and declares the rest up to `LargestAcked` lost. -/
theorem receivedClosePath_cases {f : ClosePathFrame}
    (hr : h.ReceivedClosePath f withPacketNumber = some (h', r)) :
    h'.books = h.books ∨
    ∃ acked, h.determineNewlyAckedPacketsClosePath f = some (.ok acked) ∧
      ∃ h₁ : SentPacketHandler, h₁.books = h.books ∧
        h'.books = (acked.foldl onPacketAcked h₁).SetInflightAsLost.books := by
  unfold ReceivedClosePath at hr
  dsimp only at hr
  split_ifs at hr
  · obtain ⟨rfl, rfl⟩ := Prod.mk.inj (Option.some.inj hr)
    exact .inl rfl
  · obtain ⟨rfl, rfl⟩ := Prod.mk.inj (Option.some.inj hr)
    exact .inl rfl
  · obtain ⟨rfl, rfl⟩ := Prod.mk.inj (Option.some.inj hr)
    exact .inl rfl
  · split at hr
    · cases hr
    · obtain ⟨rfl, rfl⟩ := Prod.mk.inj (Option.some.inj hr)
      exact .inl rfl
    · rename_i acked hd
      obtain ⟨rfl, rfl⟩ := Prod.mk.inj (Option.some.inj hr)
      exact .inr ⟨acked, hd, { h with largestReceivedPacketWithAck := withPacketNumber }, rfl, rfl⟩

end Frames

/-! ## The invariant -/

/-- The bookkeeping invariant of a `sentPacketHandler`. -/
structure Inv (h : SentPacketHandler) : Prop where
  /-- Packet numbers strictly increase along the history. -/
  sorted : (h.packetHistory.map Packet.PacketNumber).Pairwise (· < ·)
  /-- No packet of the history lies above the last one sent, -/
  le_lastSent : ∀ p ∈ h.packetHistory, p.PacketNumber ≤ h.lastSentPacketNumber
  /-- and none is 0, so that `largestInOrderAcked` does not wrap around. -/
  pos : ∀ p ∈ h.packetHistory, 0 < p.PacketNumber
  /-- The bytes in flight are those of the history, as a `uint64` sum. -/
  bytesInFlight_eq : h.bytesInFlight = (h.packetHistory.map Packet.Length).sum
  /-- The history never outgrows what `SentPacket` allows. -/
  length_le : h.packetHistory.length ≤ Protocol.MaxTrackedSentPackets

namespace Inv

variable {env now} {h h' : SentPacketHandler}

theorem newSentPacketHandler : Inv NewSentPacketHandler :=
  ⟨.nil, nofun, nofun, rfl, Nat.zero_le _⟩

theorem nodup (hi : Inv h) : h.packetHistory.Nodup := by
  refine (List.pairwise_map.1 hi.sorted).imp ?_
  rintro a b hlt rfl
  exact UInt64.lt_irrefl _ hlt

/-- The invariant reads the history, the bytes in flight and the last packet number sent, and the
last of these may grow. -/
theorem of_le (hi : Inv h) (h1 : h'.packetHistory = h.packetHistory)
    (h2 : h'.bytesInFlight = h.bytesInFlight)
    (h3 : h.lastSentPacketNumber ≤ h'.lastSentPacketNumber) : Inv h' where
  sorted := by rw [h1]; exact hi.sorted
  le_lastSent p hp := UInt64.le_trans (hi.le_lastSent p (h1 ▸ hp)) h3
  pos p hp := hi.pos p (h1 ▸ hp)
  bytesInFlight_eq := by rw [h1, h2]; exact hi.bytesInFlight_eq
  length_le := by rw [h1]; exact hi.length_le

theorem of_books (hi : Inv h) (hb : h'.books = h.books) : Inv h' := by
  simp only [books, Prod.mk.injEq] at hb
  exact hi.of_le hb.1 hb.2.1 (by rw [hb.2.2.1]; exact UInt64.le_refl _)

/-- Taking part of the history out, as a multiset, keeps the invariant. -/
theorem removes (hi : Inv h) {l q : List Packet} (hs : l.Subperm h.packetHistory)
    (r : Removes h h' l q) : Inv h' := by
  have hsub : h'.packetHistory.Sublist h.packetHistory :=
    r.packetHistory_eq ▸ List.diff_sublist _ _
  exact {
    sorted := hi.sorted.sublist (hsub.map _)
    le_lastSent := fun p hp => r.lastSentPacketNumber_eq ▸ hi.le_lastSent p (hsub.subset hp)
    pos := fun p hp => hi.pos p (hsub.subset hp)
    bytesInFlight_eq := by
      rw [r.bytesInFlight_eq, hi.bytesInFlight_eq, r.packetHistory_eq, List.sum_map_diff _ hs]
    length_le := hsub.length_le.trans hi.length_le }

theorem updateLossDetectionAlarm (hi : Inv h) : Inv (h.updateLossDetectionAlarm env) :=
  hi.of_books (books_updateLossDetectionAlarm env h)

theorem queuePacketForRetransmission (hi : Inv h) {p : Packet} (hp : p ∈ h.packetHistory) :
    Inv (h.queuePacketForRetransmission p) :=
  hi.removes (List.singleton_subperm_iff.2 hp) (queuePacketForRetransmission_removes h p)

theorem queueRTO (hi : Inv h) {p : Packet} (hp : p ∈ h.packetHistory) : Inv (h.queueRTO p) :=
  hi.removes (List.singleton_subperm_iff.2 hp) (queueRTO_removes h p)

theorem detectLostPackets (hi : Inv h) : Inv (h.detectLostPackets env now) := by
  obtain ⟨lost, hs, r⟩ := detectLostPackets_removes env now h
  exact hi.removes hs.subperm r

theorem retransmitTLP (hi : Inv h) : Inv h.retransmitTLP := by
  unfold SentPacketHandler.retransmitTLP
  split
  · exact hi.queuePacketForRetransmission (List.mem_of_getLast? ‹_›)
  · exact hi

theorem retransmitOldestPacket (hi : Inv h) : Inv h.retransmitOldestPacket := by
  unfold SentPacketHandler.retransmitOldestPacket
  split
  · exact hi.queueRTO (by simp [*])
  · exact hi

/-- Each round of the RTO loop queues the oldest packet. -/
theorem retransmitAllLoop (fuel : Nat) : ∀ {h : SentPacketHandler}, Inv h →
    Inv (SentPacketHandler.retransmitAllLoop fuel h) := by
  induction fuel with
  | zero => exact id
  | succ fuel ih =>
    intro h hi
    rw [SentPacketHandler.retransmitAllLoop]
    split
    · exact ih (hi.queueRTO (by simp [*]))
    · exact hi

theorem retransmitAllPackets (hi : Inv h) : Inv h.retransmitAllPackets :=
  retransmitAllLoop _ hi

theorem onAlarm (hi : Inv h) (potentiallyFailed : Bool) :
    Inv (h.OnAlarm env now potentiallyFailed) := by
  unfold SentPacketHandler.OnAlarm
  dsimp only
  split_ifs
  · exact hi.of_books rfl
  · exact hi.detectLostPackets.updateLossDetectionAlarm
  · exact Inv.updateLossDetectionAlarm (Inv.of_books hi.retransmitTLP rfl)
  · exact Inv.updateLossDetectionAlarm (Inv.of_books hi.retransmitAllPackets rfl)
  · exact Inv.updateLossDetectionAlarm
      (Inv.of_books hi.retransmitOldestPacket.retransmitOldestPacket rfl)

/-- A packet recorded by `SentPacket` lies above every packet of the history, and there is room for
it. -/
theorem append (hi : Inv h) {p : Packet} (h1 : h'.packetHistory = h.packetHistory ++ [p])
    (h2 : h'.bytesInFlight = h.bytesInFlight + p.Length)
    (h3 : h'.lastSentPacketNumber = p.PacketNumber)
    (hpn : h.lastSentPacketNumber < p.PacketNumber)
    (hlen : h.packetHistory.length + 1 ≤ Protocol.MaxTrackedSentPackets) : Inv h' where
  sorted := by
    rw [h1, List.map_append, List.map_singleton, List.pairwise_append]
    refine ⟨hi.sorted, List.pairwise_singleton _ _, ?_⟩
    simp only [List.mem_map, List.mem_singleton]
    rintro _ ⟨q, hq, rfl⟩ _ rfl
    exact UInt64.lt_of_le_of_lt (hi.le_lastSent q hq) hpn
  le_lastSent q hq := by
    rw [h1, List.mem_append, List.mem_singleton] at hq
    rw [h3]
    rcases hq with hq | rfl
    · exact UInt64.le_trans (hi.le_lastSent q hq) (UInt64.le_of_lt hpn)
    · exact UInt64.le_refl _
  pos q hq := by
    rw [h1, List.mem_append, List.mem_singleton] at hq
    rcases hq with hq | rfl
    · exact hi.pos q hq
    · exact UInt64.lt_of_le_of_lt UInt64.zero_le hpn
  bytesInFlight_eq := by rw [h1, h2, hi.bytesInFlight_eq]; simp
  length_le := by rw [h1, List.length_append, List.length_singleton]; exact hlen

theorem sentPacket (hi : Inv h) {packet : Packet}
    (hs : h.SentPacket env now packet = .ok h') : Inv h' := by
  unfold SentPacketHandler.SentPacket at hs
  dsimp only at hs
  -- the two refusals are no step; what is left records the packet or counts it
  split_ifs at hs with hpn hfull
  · cases hs
    refine Inv.updateLossDetectionAlarm (hi.append rfl rfl rfl (UInt64.not_le.1 hpn) ?_)
    omega
  · cases hs
    exact Inv.updateLossDetectionAlarm (hi.of_le rfl rfl (UInt64.le_of_lt (UInt64.not_le.1 hpn)))

theorem receivedAck {f : AckFrame} {withPacketNumber : PacketNumber} {r : Except String Unit}
    (hi : Inv h) (hr : h.ReceivedAck env now f withPacketNumber = some (h', r)) : Inv h' := by
  rcases receivedAck_cases env now hr with ⟨hb, -⟩ | ⟨acked, hd, -, h₁, hb₁, hb⟩
  · exact hi.of_books hb
  · obtain ⟨lost, hlost, r⟩ :=
      Removes.acked_then_lost (detectLostPackets_removes env now) hb₁ acked
    have hs := List.Subperm.append_of_diff (ackedLoop_sublist hd).subperm hlost.subperm
    exact (hi.removes hs r).of_books hb

theorem receivedClosePath {f : ClosePathFrame} {withPacketNumber : PacketNumber}
    {r : Except String Unit} (hi : Inv h)
    (hr : h.ReceivedClosePath f withPacketNumber = some (h', r)) : Inv h' := by
  rcases receivedClosePath_cases hr with hb | ⟨acked, hd, h₁, hb₁, hb⟩
  · exact hi.of_books hb
  · obtain ⟨lost, hlost, r⟩ := Removes.acked_then_lost SetInflightAsLost_removes hb₁ acked
    have hs := List.Subperm.append_of_diff (ackedLoop_sublist hd).subperm hlost.subperm
    exact (hi.removes hs r).of_books hb

theorem dequeuePacketForRetransmission (hi : Inv h) :
    Inv h.DequeuePacketForRetransmission.1 := by
  unfold DequeuePacketForRetransmission
  split
  · exact hi
  · exact hi.of_le rfl rfl (UInt64.le_refl _)

theorem duplicatePacket (hi : Inv h) (p : Packet) : Inv (h.DuplicatePacket p) :=
  hi.of_le rfl rfl (UInt64.le_refl _)

end Inv

/-! ## Runs of the API -/

/-- One call of the API, with any arguments: a call that only returns an error is a step too, since
the handler has changed before it fails; a panic is none. -/
inductive Step : SentPacketHandler → SentPacketHandler → Prop
  | sentPacket {h h' : SentPacketHandler} (env : RTTEnv) (now : Int) (packet : Packet) :
      h.SentPacket env now packet = .ok h' → Step h h'
  | receivedAck {h h' : SentPacketHandler} (env : RTTEnv) (now : Int) (f : AckFrame)
      (withPacketNumber : PacketNumber) (r : Except String Unit) :
      h.ReceivedAck env now f withPacketNumber = some (h', r) → Step h h'
  | receivedClosePath {h h' : SentPacketHandler} (f : ClosePathFrame)
      (withPacketNumber : PacketNumber) (r : Except String Unit) :
      h.ReceivedClosePath f withPacketNumber = some (h', r) → Step h h'
  | onAlarm (env : RTTEnv) (now : Int) (potentiallyFailed : Bool) (h : SentPacketHandler) :
      Step h (h.OnAlarm env now potentiallyFailed)
  | dequeuePacketForRetransmission (h : SentPacketHandler) :
      Step h h.DequeuePacketForRetransmission.1
  | duplicatePacket (h : SentPacketHandler) (p : Packet) : Step h (h.DuplicatePacket p)

/-- A handler some sequence of calls leads to from a new one. -/
def Reachable (h : SentPacketHandler) : Prop :=
  Relation.ReflTransGen Step NewSentPacketHandler h

theorem Inv.step {h h' : SentPacketHandler} (hi : Inv h) (hs : Step h h') : Inv h' := by
  cases hs with
  | sentPacket env now packet hs => exact hi.sentPacket hs
  | receivedAck env now f withPacketNumber r hr => exact hi.receivedAck hr
  | receivedClosePath f withPacketNumber r hr => exact hi.receivedClosePath hr
  | onAlarm env now potentiallyFailed => exact hi.onAlarm potentiallyFailed
  | dequeuePacketForRetransmission => exact hi.dequeuePacketForRetransmission
  | duplicatePacket _ p => exact hi.duplicatePacket p

theorem Reachable.inv {h : SentPacketHandler} (hr : Reachable h) : Inv h := by
  induction hr with
  | refl => exact Inv.newSentPacketHandler
  | tail _ hs ih => exact ih.step hs

/-! ## The merge walk of `determineNewlyAckedPackets`

On a valid frame the walk over a sorted history returns exactly the packets `AcksPacket` accepts.
It needs of the ranges, taken from the lowest up, only that their first packets strictly increase
and that the highest ends at `LargestAcked`: a range the cursor has passed ends below every packet
still to come, and one it has not reached yet starts above the current packet. -/

section Walk

variable {L lo p : PacketNumber} {ranges : List AckRange}

theorem acksPacket_of_lt_lowest (hp : p < lo) : acksPacket L lo ranges p = false := by
  simp [acksPacket, hp]

theorem acksPacket_of_gt_largest (hp : L < p) : acksPacket L lo ranges p = false := by
  simp [acksPacket, hp]

theorem acksPacket_nil (hlo : lo ≤ p) (hL : p ≤ L) : acksPacket L lo [] p = true := by
  simp [acksPacket, UInt64.not_lt.2 hlo, UInt64.not_lt.2 hL, hlo, hL]

/-- Between the lowest and the largest packet, a range that holds a packet acknowledges it. -/
theorem acksPacket_of_mem (hlo : lo ≤ p) (hL : p ≤ L) {r : AckRange} (hr : r ∈ ranges)
    (h1 : r.First ≤ p) (h2 : p ≤ r.Last) : acksPacket L lo ranges p = true := by
  rw [acksPacket, if_neg (not_or.2 ⟨UInt64.not_lt.2 hlo, UInt64.not_lt.2 hL⟩),
    if_pos (List.ne_nil_of_mem hr)]
  exact List.any_eq_true.2 ⟨r, hr, by simp [h1, h2]⟩

/-- With ranges, a packet no range holds is not acknowledged. -/
theorem acksPacket_of_forall (hne : ranges ≠ [])
    (h : ∀ r ∈ ranges, p < r.First ∨ r.Last < p) : acksPacket L lo ranges p = false := by
  rw [acksPacket]
  split_ifs
  · rfl
  · refine List.any_eq_false.2 fun r hr => ?_
    simp only [ge_iff_le, Bool.and_eq_true, decide_eq_true_eq, not_and]
    rcases h r hr with h | h
    · exact fun h' => absurd h' (UInt64.not_le.2 h)
    · exact fun _ h' => absurd h' (UInt64.not_le.2 h)

/-- Above `LargestAcked` nothing is acknowledged. -/
theorem filter_acksPacket_eq_nil {ps : List Packet} (hps : ∀ e ∈ ps, L < e.PacketNumber) :
    ps.filter (fun e => acksPacket L lo ranges e.PacketNumber) = [] :=
  List.filter_eq_nil_iff.2 fun e he => by
    rw [acksPacket_of_gt_largest (hps e he)]
    exact Bool.false_ne_true

/-- `advanceRange` passes the ranges that end below `p` and stops at the first that does not, or at
the last one. -/
theorem advanceRange_spec (p : PacketNumber) :
    ∀ {R : List AckRange}, R ≠ [] → ∃ P r R', R = P ++ r :: R' ∧
      advanceRange p R = r :: R' ∧ (∀ q ∈ P, q.Last < p) ∧ (R' = [] ∨ p ≤ r.Last)
  | [], hR => absurd rfl hR
  | [r], _ => ⟨[], r, [], rfl, rfl, nofun, .inl rfl⟩
  | r :: r' :: rs, _ => by
    rw [advanceRange]
    split_ifs with hp
    · obtain ⟨P, r₀, R', hR, hadv, hP, hlast⟩ :=
        advanceRange_spec p (List.cons_ne_nil r' rs)
      refine ⟨r :: P, r₀, R', by rw [hR]; rfl, hadv, ?_, hlast⟩
      rintro q (_ | ⟨_, hq⟩)
      · exact hp
      · exact hP q hq
    · exact ⟨[], r, r' :: rs, rfl, rfl, nofun, .inr (UInt64.not_lt.1 hp)⟩

/-- Without ranges the walk takes the packets from `lo` to `L`. -/
theorem ackedLoop_noMissingRanges (bugSuffix : String) (R : List AckRange) :
    ∀ ps : List Packet, (ps.map Packet.PacketNumber).Pairwise (· < ·) →
      ackedLoop L lo false bugSuffix R ps =
        some (.ok (ps.filter fun e => acksPacket L lo [] e.PacketNumber))
  | [], _ => rfl
  | e :: es, hs => by
    rw [List.map_cons, List.pairwise_cons] at hs
    have ih := ackedLoop_noMissingRanges bugSuffix R es hs.2
    rw [ackedLoop]
    dsimp only
    by_cases hlo : e.PacketNumber < lo
    · rw [if_pos hlo, List.filter_cons_of_neg (by simp [acksPacket_of_lt_lowest hlo]), ih]
    by_cases hL : e.PacketNumber > L
    · -- the history is sorted, so the rest lies above `L` too
      rw [if_neg hlo, if_pos hL, filter_acksPacket_eq_nil]
      rintro e' (_ | ⟨_, he'⟩)
      · exact hL
      · exact UInt64.lt_trans hL (hs.1 _ (List.mem_map_of_mem he'))
    · rw [if_neg hlo, if_neg hL, if_neg Bool.false_ne_true, ih,
        List.filter_cons_of_pos (by exact acksPacket_nil (UInt64.not_lt.1 hlo) (UInt64.not_lt.1 hL))]
      rfl

/-- A range after the one the cursor stands at starts above it. -/
theorem first_lt_of_mem_after {A P R' : List AckRange} {r q : AckRange}
    (hA : (A.map AckRange.First).Pairwise (· < ·)) (hPR : A = P ++ r :: R') (hq : q ∈ R') :
    r.First < q.First := by
  rw [hPR, List.map_append, List.pairwise_append, List.map_cons, List.pairwise_cons] at hA
  exact hA.2.1.1 _ (List.mem_map_of_mem hq)

/-- The walk with ranges.  `A` is the list of ranges from the lowest up, `P` the part the cursor
has passed and `R` the rest, headed by the range it stands at. -/
theorem ackedLoop_missingRanges (bugSuffix : String) {A : List AckRange}
    (hA : (A.map AckRange.First).Pairwise (· < ·)) (hL : ∀ r ∈ A.getLast?, r.Last = L) :
    ∀ (ps : List Packet) (P R : List AckRange), A = P ++ R → R ≠ [] →
      (ps.map Packet.PacketNumber).Pairwise (· < ·) →
      (∀ q ∈ P, ∀ e ∈ ps, q.Last < e.PacketNumber) →
      ackedLoop L lo true bugSuffix R ps =
        some (.ok (ps.filter fun e => acksPacket L lo A.reverse e.PacketNumber))
  | [], _, _, _, _, _, _ => rfl
  | e :: es, P, R, hPR, hR, hs, hP => by
    rw [List.map_cons, List.pairwise_cons] at hs
    have hgt : ∀ e' ∈ es, e.PacketNumber < e'.PacketNumber :=
      fun e' he' => hs.1 _ (List.mem_map_of_mem he')
    have hP' : ∀ q ∈ P, ∀ e' ∈ es, q.Last < e'.PacketNumber :=
      fun q hq e' he' => hP q hq e' (List.mem_cons_of_mem _ he')
    rw [ackedLoop]
    dsimp only
    by_cases hlo : e.PacketNumber < lo
    · rw [if_pos hlo, List.filter_cons_of_neg (by simp [acksPacket_of_lt_lowest hlo])]
      exact ackedLoop_missingRanges bugSuffix hA hL es P R hPR hR hs.2 hP'
    by_cases hL' : e.PacketNumber > L
    · rw [if_neg hlo, if_pos hL', filter_acksPacket_eq_nil]
      rintro e' (_ | ⟨_, he'⟩)
      · exact hL'
      · exact UInt64.lt_trans hL' (hgt e' he')
    rw [if_neg hlo, if_neg hL', if_pos rfl]
    obtain ⟨P', r, R', rfl, hadv, hP'', hlast⟩ := advanceRange_spec e.PacketNumber hR
    rw [hadv]
    dsimp only
    -- the cursor stops at a range that ends at or above the packet: never the "BUG" error
    have hrL : e.PacketNumber ≤ r.Last := by
      rcases hlast with rfl | h
      · have : A.getLast? = some r := by simp [hPR]
        rw [hL r this]
        exact UInt64.not_lt.1 hL'
      · exact h
    have hmem : r ∈ A.reverse := by simp [hPR]
    have hPR' : A = (P ++ P') ++ r :: R' := by rw [hPR, List.append_assoc]
    have hpassed : ∀ q ∈ P ++ P', ∀ e' ∈ es, q.Last < e'.PacketNumber := by
      intro q hq e' he'
      rcases List.mem_append.1 hq with hq | hq
      · exact hP' q hq e' he'
      · exact UInt64.lt_trans (hP'' q hq) (hgt e' he')
    have ih := ackedLoop_missingRanges bugSuffix hA hL es (P ++ P') (r :: R') hPR'
      (List.cons_ne_nil _ _) hs.2 hpassed
    by_cases hfirst : e.PacketNumber ≥ r.First
    · rw [if_pos hfirst, if_neg (UInt64.not_lt.2 hrL), ih, List.filter_cons_of_pos (by
        exact acksPacket_of_mem (UInt64.not_lt.1 hlo) (UInt64.not_lt.1 hL') hmem hfirst hrL)]
      rfl
    · -- below the range at the cursor: every range either ends below it or starts above it
      rw [if_neg hfirst, ih, List.filter_cons_of_neg]
      rw [acksPacket_of_forall (List.ne_nil_of_mem hmem)]
      · exact Bool.false_ne_true
      intro q hq
      rw [List.mem_reverse, hPR', List.mem_append, List.mem_append, List.mem_cons] at hq
      rcases hq with (hq | hq) | rfl | hq
      · exact .inr (hP q hq e List.mem_cons_self)
      · exact .inr (hP'' q hq)
      · exact .inl (UInt64.not_le.1 hfirst)
      · exact .inl (UInt64.lt_trans (UInt64.not_le.1 hfirst) (first_lt_of_mem_after hA hPR' hq))

/-- What the walk needs of a frame that passes `validateAckRanges`. -/
theorem validateAckRanges_spec {ranges : List AckRange} (hv : validateAckRanges L ranges = true)
    (hne : ranges ≠ []) :
    (ranges.reverse.map AckRange.First).Pairwise (· < ·) ∧
      ∀ r ∈ ranges.reverse.getLast?, r.Last = L := by
  match ranges, hne, hv with
  | [r], _, hv => simp [validateAckRanges] at hv
  | r :: r' :: rs, _, hv =>
    simp only [validateAckRanges, Bool.and_eq_true, beq_iff_eq] at hv
    obtain ⟨⟨hlast, -⟩, hzip⟩ := hv
    refine ⟨?_, by simp [hlast]⟩
    -- each range starts above the next one down, and the order is transitive
    have hchain : (r :: r' :: rs).IsChain fun x y => y.First < x.First := by
      refine ((List.all_zip_iff_isChain r (r' :: rs)).1 hzip).imp ?_
      intro x y hxy
      simp only [Bool.and_eq_true, Bool.not_eq_true', decide_eq_false_iff_not] at hxy
      exact UInt64.not_le.1 hxy.1
    have : Trans (fun x y : AckRange => y.First < x.First) (fun x y : AckRange => y.First < x.First)
        (fun x y : AckRange => y.First < x.First) :=
      ⟨fun h1 h2 => UInt64.lt_trans h2 h1⟩
    rw [List.map_reverse, List.pairwise_reverse, List.pairwise_map]
    exact List.isChain_iff_pairwise.1 hchain

/-- On a sorted history and a valid frame, `determineNewlyAckedPackets` returns the packets the
frame acknowledges. -/
theorem determineNewlyAckedPackets_eq_filter (h : SentPacketHandler) {f : AckFrame}
    (hv : validateAckRanges f.LargestAcked f.AckRanges = true)
    (hs : (h.packetHistory.map Packet.PacketNumber).Pairwise (· < ·)) :
    h.determineNewlyAckedPackets f =
      some (.ok (h.packetHistory.filter fun p => f.AcksPacket p.PacketNumber)) := by
  unfold determineNewlyAckedPackets AckFrame.AcksPacket AckFrame.HasMissingRanges
  by_cases hne : f.AckRanges = []
  · rw [hne]
    exact ackedLoop_noMissingRanges _ _ _ hs
  · obtain ⟨hA, hL⟩ := validateAckRanges_spec hv hne
    rw [decide_eq_true hne]
    refine (ackedLoop_missingRanges "" hA hL h.packetHistory [] f.AckRanges.reverse rfl
      (by simpa using hne) hs nofun).trans ?_
    rw [List.reverse_reverse]

end Walk

/-! ## The books over every run -/

namespace Inv

variable {h h' : SentPacketHandler}

/-- An ACK of nothing above `largestInOrderAcked` lies below every packet in flight: the oldest is
not 0, so one below it does not wrap. -/
theorem lt_of_le_largestInOrderAcked (hi : Inv h) {n : PacketNumber}
    (hle : n ≤ h.largestInOrderAcked) : ∀ p ∈ h.packetHistory, n < p.PacketNumber := by
  unfold largestInOrderAcked at hle
  have hpos := hi.pos
  have hs := hi.sorted
  generalize h.packetHistory = H at hle hpos hs ⊢
  cases H with
  | nil => exact nofun
  | cons e es =>
    have he : n < e.PacketNumber := by
      have h0 : 0 < e.PacketNumber.toNat := by
        simpa [UInt64.lt_iff_toNat_lt] using hpos e List.mem_cons_self
      have h1 : (1 : UInt64) ≤ e.PacketNumber := UInt64.le_iff_toNat_le.2 (by simp; omega)
      rw [UInt64.le_iff_toNat_le, UInt64.toNat_sub_of_le _ _ h1, UInt64.toNat_one] at hle
      exact UInt64.lt_iff_toNat_lt.2 (by omega)
    rw [List.map_cons, List.pairwise_cons] at hs
    rintro p (_ | ⟨_, hp⟩)
    · exact he
    · exact UInt64.lt_trans he (hs.1 _ (List.mem_map_of_mem hp))

/-- Packets are no longer than `MaxPacketSize`, so the `uint64` sum of the bytes in flight does
not wrap: `bytesInFlight` never underflows. -/
theorem bytesInFlight_toNat (hi : Inv h)
    (hl : ∀ p ∈ h.packetHistory, p.Length ≤ Protocol.MaxPacketSize) :
    h.bytesInFlight.toNat = (h.packetHistory.map fun p => p.Length.toNat).sum := by
  have hB : ∀ x ∈ h.packetHistory.map Packet.Length, x.toNat ≤ 1350 := by
    simp only [List.mem_map]
    rintro _ ⟨p, hp, rfl⟩
    exact UInt64.le_iff_toNat_le.1 (hl p hp)
  have hlen : (h.packetHistory.map Packet.Length).length * 1350 < 2 ^ 64 := by
    have := hi.length_le
    simp only [List.length_map, Protocol.MaxTrackedSentPackets,
      Protocol.DefaultMaxCongestionWindow] at this ⊢
    omega
  rw [hi.bytesInFlight_eq, (UInt64.toNat_sum_of_le 1350 _ hB hlen).1, List.map_map]
  rfl

/-- A successful `ReceivedAck` of a valid frame acknowledges every packet of the history the frame
acknowledges and leaves the rest, save those loss detection queues for retransmission. -/
theorem receivedAck_ok (hi : Inv h) {f : AckFrame} {withPacketNumber : PacketNumber}
    (hv : validateAckRanges f.LargestAcked f.AckRanges = true)
    (hr : h.ReceivedAck env now f withPacketNumber = some (h', .ok ())) :
    (∀ p ∈ h'.packetHistory, f.AcksPacket p.PacketNumber = false) ∧
    ∃ acked lost, h.packetHistory.Perm (h'.packetHistory ++ acked ++ lost) ∧
      (∀ p ∈ acked, f.AcksPacket p.PacketNumber = true) ∧
      h'.retransmissionQueue = h.retransmissionQueue ++ lost := by
  rcases receivedAck_cases env now hr with ⟨hb, hle⟩ | ⟨acked, hd, -, h₁, hb₁, hb⟩
  · -- a repeated ACK: every packet in flight lies above what it acknowledges
    simp only [books, Prod.mk.injEq] at hb
    obtain ⟨hH, -, -, hq⟩ := hb
    refine ⟨fun p hp => ?_, [], [], by simp [hH], nofun, by simp [hq]⟩
    rw [hH] at hp
    exact acksPacket_of_gt_largest (hi.lt_of_le_largestInOrderAcked (hle rfl) p hp)
  · rw [h.determineNewlyAckedPackets_eq_filter hv hi.sorted] at hd
    obtain rfl := Except.ok.inj (Option.some.inj hd)
    obtain ⟨lost, hlost, r⟩ :=
      Removes.acked_then_lost (detectLostPackets_removes env now) hb₁ _
    have r' := r.books_right hb
    refine ⟨fun p hp => ?_, h.packetHistory.filter fun p => f.AcksPacket p.PacketNumber, lost, ?_,
      fun p hp => (List.mem_filter.1 hp).2, ?_⟩
    · -- what is left was not among the acknowledged packets of the history
      rw [r'.packetHistory_eq] at hp
      obtain ⟨hpH, hpa⟩ := List.not_mem_of_mem_diff_append hi.nodup hp
      simpa [List.mem_filter, hpH] using hpa
    · rw [List.append_assoc]
      exact r'.perm (List.Subperm.append_of_diff List.filter_sublist.subperm hlost.subperm)
    · simpa using r'.retransmissionQueue_eq

end Inv

theorem sentPacketHandler_bookkeeping {h : SentPacketHandler} (hr : Reachable h) :
    h.bytesInFlight = (h.packetHistory.map Packet.Length).sum ∧
    ((∀ p ∈ h.packetHistory, p.Length ≤ Protocol.MaxPacketSize) →
      h.bytesInFlight.toNat = (h.packetHistory.map fun p => p.Length.toNat).sum) ∧
    (h.packetHistory.map Packet.PacketNumber).Pairwise (· < ·) ∧
    (∀ p ∈ h.packetHistory, p.PacketNumber ≤ h.lastSentPacketNumber) ∧
    ∀ (env : RTTEnv) (now : Int) (f : AckFrame) (withPacketNumber : PacketNumber)
      (h' : SentPacketHandler), validateAckRanges f.LargestAcked f.AckRanges = true →
      h.ReceivedAck env now f withPacketNumber = some (h', .ok ()) →
      (∀ p ∈ h'.packetHistory, f.AcksPacket p.PacketNumber = false) ∧
      ∃ acked lost, h.packetHistory.Perm (h'.packetHistory ++ acked ++ lost) ∧
        (∀ p ∈ acked, f.AcksPacket p.PacketNumber = true) ∧
        h'.retransmissionQueue = h.retransmissionQueue ++ lost := by
  have hi := hr.inv
  exact ⟨hi.bytesInFlight_eq, hi.bytesInFlight_toNat, hi.sorted, hi.le_lastSent,
    fun env now _ _ _ hv hack => hi.receivedAck_ok env now hv hack⟩

/-- Two one-byte packets with a PING, numbered 1 and 2, sent at time 0 on a new handler. -/
def twoPingsSent : SentPacketHandler :=
  { lastSentPacketNumber := 2, skippedPackets := [], numNonRetransmittablePackets := 0
    LargestAcked := 0, largestReceivedPacketWithAck := 0
    packetHistory := [⟨1, [.ping], 1, 0⟩, ⟨2, [.ping], 1, 0⟩]
    stopWaitingManager := ⟨0, 0, none⟩, retransmissionQueue := [], bytesInFlight := 2
    rtoCount := 0, tlpCount := 0, lossTime := none, lastSentTime := 0, alarm := some 500000000
    packets := 2, retransmissions := 0, losses := 0 }

/-- `twoPingsSent` once an ACK of packet 1 alone came in packet 1: packet 2 is still in flight. -/
def firstPingAcked : SentPacketHandler :=
  { twoPingsSent with
    LargestAcked := 1, largestReceivedPacketWithAck := 1
    packetHistory := [⟨2, [.ping], 1, 0⟩], stopWaitingManager := ⟨0, 2, none⟩, bytesInFlight := 1 }

/-- An ACK of packet 1 alone. -/
def ackOfFirstPing : AckFrame := ⟨0, 1, 1, [], 0, 0⟩

theorem reachable_twoPingsSent : Reachable twoPingsSent :=
  .tail (.tail .refl (Step.sentPacket ⟨0, 0, 0⟩ 0 ⟨1, [.ping], 1, 0⟩ rfl))
    (Step.sentPacket ⟨0, 0, 0⟩ 0 ⟨2, [.ping], 1, 0⟩ rfl)

/-- The bookkeeping of a handler with two packets in flight, and what it says of the ACK of the
first: it leaves packet 2, and packet 1 went as acknowledged or lost. -/
theorem sentPacketHandler_bookkeeping_twoPings :
    twoPingsSent.bytesInFlight = (twoPingsSent.packetHistory.map Packet.Length).sum ∧
    (twoPingsSent.packetHistory.map Packet.PacketNumber).Pairwise (· < ·) ∧
    (∀ p ∈ twoPingsSent.packetHistory, p.PacketNumber ≤ twoPingsSent.lastSentPacketNumber) ∧
    twoPingsSent.ReceivedAck ⟨0, 0, 0⟩ 0 ackOfFirstPing 1 = some (firstPingAcked, .ok ()) ∧
    (∀ p ∈ firstPingAcked.packetHistory, ackOfFirstPing.AcksPacket p.PacketNumber = false) ∧
    ∃ acked lost, twoPingsSent.packetHistory.Perm (firstPingAcked.packetHistory ++ acked ++ lost) ∧
      (∀ p ∈ acked, ackOfFirstPing.AcksPacket p.PacketNumber = true) ∧
      firstPingAcked.retransmissionQueue = twoPingsSent.retransmissionQueue ++ lost := by
  obtain ⟨hbytes, -, hsorted, hlast, hack⟩ := sentPacketHandler_bookkeeping reachable_twoPingsSent
  have hreceived : twoPingsSent.ReceivedAck ⟨0, 0, 0⟩ 0 ackOfFirstPing 1 =
      some (firstPingAcked, .ok ()) := rfl
  exact ⟨hbytes, hsorted, hlast, hreceived, hack ⟨0, 0, 0⟩ 0 ackOfFirstPing 1 _ rfl hreceived⟩

end SentPacketHandler

end Ackhandler
end PStream
