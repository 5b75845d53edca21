import PStream.Lib.List
import PStream.Congestion.Olia

/-!
# Every OLIA window stays between one packet and the maximum

Over every sequence of calls on any of the paths, each sender of the map keeps its window between
one packet and `maxTCPCongestionWindow`, its counter `sndCwndCnt` strictly inside the two limits at
which the counter moves the window, and a non-zero `epsilonDen`.  The last rests on the map having
at most 255 senders, which it has: its keys are distinct path IDs, `uint8`s other than the initial
path's, so neither count of `getEpsilon` wraps.

The bounds speak of seven fields of a sender, its `WindowFields`.  Each call gets one lemma saying
what it does to them, `WindowBounds` is kept call by call (`SendersBounds.apply`) and so over every
run (`SendersBounds.runOlia`).  Whether the window also stays at or above `minCongestionWindow` is
the subject of `PStream.Congestion.OliaFloor`.
-/

set_option autoImplicit false

namespace PStream
namespace Congestion

open Protocol Utils

/-- The fields of a sender that its window bounds speak of. -/
structure WindowFields where
  minCongestionWindow : PacketNumber
  initialCongestionWindow : PacketNumber
  initialMaxCongestionWindow : PacketNumber
  maxTCPCongestionWindow : PacketNumber
  congestionWindow : PacketNumber
  sndCwndCnt : Int64
  epsilonDen : UInt32
  deriving DecidableEq, Repr

def OliaSender.windowFields (o : OliaSender) : WindowFields :=
  { minCongestionWindow := o.minCongestionWindow,
    initialCongestionWindow := o.initialCongestionWindow,
    initialMaxCongestionWindow := o.initialMaxCongestionWindow,
    maxTCPCongestionWindow := o.maxTCPCongestionWindow,
    congestionWindow := o.congestionWindow,
    sndCwndCnt := o.olia.sndCwndCnt,
    epsilonDen := o.olia.epsilonDen }

/-- What a sender keeps whatever the other senders of the map do. -/
structure WindowBounds (w : WindowFields) : Prop where
  min_pos : 0 < w.minCongestionWindow
  min_le_initial : w.minCongestionWindow ≤ w.initialCongestionWindow
  initial_le_max : w.initialCongestionWindow ≤ w.initialMaxCongestionWindow
  max_eq : w.maxTCPCongestionWindow = w.initialMaxCongestionWindow
  window_pos : 0 < w.congestionWindow
  window_le : w.congestionWindow ≤ w.maxTCPCongestionWindow
  count_gt : -1023 < w.sndCwndCnt.toInt
  count_lt : w.sndCwndCnt.toInt < 1023
  epsilonDen_ne : w.epsilonDen ≠ 0

namespace WindowBounds

variable {w : WindowFields}

theorem min_le_max (h : WindowBounds w) : w.minCongestionWindow ≤ w.maxTCPCongestionWindow :=
  h.max_eq ▸ UInt64.le_trans h.min_le_initial h.initial_le_max

/-- Any window from one packet to the maximum may replace the window. -/
theorem setWindow (h : WindowBounds w) {c : PacketNumber} (hpos : 0 < c)
    (hle : c ≤ w.maxTCPCongestionWindow) : WindowBounds { w with congestionWindow := c } :=
  { h with window_pos := hpos, window_le := hle }

/-- A window of at least the minimum, no larger than the current one, may replace it. -/
theorem setWindow_between (h : WindowBounds w) {c : PacketNumber} (hmin : w.minCongestionWindow ≤ c)
    (hle : c ≤ w.congestionWindow) : WindowBounds { w with congestionWindow := c } :=
  h.setWindow (UInt64.lt_of_lt_of_le h.min_pos hmin) (UInt64.le_trans hle h.window_le)

end WindowBounds

/-! ## What each call does to the window fields -/

namespace OliaSender

variable (o : OliaSender)

theorem windowFields_OnPacketSent (packetNumber : PacketNumber) (isRetransmittable : Bool) :
    (o.OnPacketSent packetNumber isRetransmittable).1.windowFields = o.windowFields := by
  cases isRetransmittable <;> rfl

theorem windowFields_MaybeExitSlowStart : o.MaybeExitSlowStart.windowFields = o.windowFields := by
  simp only [MaybeExitSlowStart]
  split
  · split <;> rfl
  · rfl

theorem windowFields_OnPacketLostInEvent (lostBytes : ByteCount) :
    (o.OnPacketLostInEvent lostBytes).windowFields = o.windowFields ∨
      (o.OnPacketLostInEvent lostBytes).windowFields =
        { o.windowFields with
          congestionWindow := MaxPacketNumber (o.congestionWindow - 1) o.minCongestionWindow } := by
  simp only [OnPacketLostInEvent]
  split
  · split
    · split
      · exact Or.inr rfl
      · exact Or.inl rfl
    · exact Or.inl rfl
  · exact Or.inl rfl

/-- A new loss event cuts the window to a packet less (large-reduction slow start) or by Reno's
beta, and then lifts it back to the minimum. -/
theorem windowFields_OnPacketLostCutback :
    ∃ c, (c = o.congestionWindow - 1 ∨ c = RenoCutback o.numConnections o.congestionWindow) ∧
      o.OnPacketLostCutback.windowFields =
        { o.windowFields with
          congestionWindow := if c < o.minCongestionWindow then o.minCongestionWindow else c } := by
  refine ⟨if o.slowStartLargeReduction && o.InSlowStart then o.congestionWindow - 1
    else RenoCutback o.numConnections o.congestionWindow, ?_, rfl⟩
  split
  · exact Or.inl rfl
  · exact Or.inr rfl

theorem windowFields_OnRetransmissionTimeout (packetsRetransmitted : Bool) :
    (o.OnRetransmissionTimeout packetsRetransmitted).windowFields =
      if packetsRetransmitted then
        { o.windowFields with congestionWindow := o.minCongestionWindow, sndCwndCnt := 0,
                              epsilonDen := 1 }
      else o.windowFields := by
  cases packetsRetransmitted <;> rfl

theorem windowFields_OnConnectionMigration :
    o.OnConnectionMigration.windowFields =
      { o.windowFields with congestionWindow := o.initialCongestionWindow,
                            maxTCPCongestionWindow := o.initialMaxCongestionWindow,
                            sndCwndCnt := 0, epsilonDen := 1 } := rfl

theorem windowFields_increaseCoupled (rate : ByteCount) :
    (o.increaseCoupled rate).windowFields =
      { o.windowFields with
        congestionWindow := MinPacketNumber o.maxTCPCongestionWindow
          (o.olia.CongestionWindowAfterAck o.congestionWindow rate
            (oliaScale o.congestionWindow scale)).2,
        sndCwndCnt := (o.olia.CongestionWindowAfterAck o.congestionWindow rate
          (oliaScale o.congestionWindow scale)).1.sndCwndCnt } := by
  simp only [increaseCoupled, windowFields]
  rw [Olia.CongestionWindowAfterAck_fst]

end OliaSender

theorem windowFields_setEpsilon (len : Nat) (maxCwnd : PacketNumber) (bestRTT : Duration)
    (bestBytes : ByteCount) (M BNotM : UInt8) (os : OliaSender) :
    (setEpsilon len maxCwnd bestRTT bestBytes M BNotM os).windowFields =
      { os.windowFields with
        epsilonDen := (setEpsilon len maxCwnd bestRTT bestBytes M BNotM os).olia.epsilonDen } := by
  rcases setEpsilon_cases len maxCwnd bestRTT bestBytes M BNotM os with
    h | ⟨-, -, -, h⟩ | ⟨-, -, h⟩ <;> rw [h] <;> rfl

/-! ## Each call keeps the bounds -/

namespace OliaSender

variable {o : OliaSender}

theorem windowBounds_OnPacketLost (h : WindowBounds o.windowFields) (packetNumber : PacketNumber)
    (lostBytes : ByteCount) : WindowBounds (o.OnPacketLost packetNumber lostBytes).windowFields := by
  have hpred : o.congestionWindow - 1 ≤ o.congestionWindow :=
    UInt64.sub_le (UInt64.one_le_of_pos h.window_pos)
  simp only [OnPacketLost]
  split
  · rcases o.windowFields_OnPacketLostInEvent lostBytes with hw | hw <;> rw [hw]
    · exact h
    · -- a packet less, but not below the minimum
      exact h.setWindow (UInt64.lt_of_lt_of_le h.min_pos (le_MaxPacketNumber_right _ _))
        (MaxPacketNumber_le (UInt64.le_trans hpred h.window_le) h.min_le_max)
  · obtain ⟨c, hc, hw⟩ := o.windowFields_OnPacketLostCutback
    rw [hw]
    have hle : c ≤ o.congestionWindow := by
      rcases hc with rfl | rfl
      · exact hpred
      · exact RenoCutback_le _ _
    split
    · exact h.setWindow h.min_pos h.min_le_max
    · exact h.setWindow_between (UInt64.not_lt.mp ‹_›) hle

theorem windowBounds_OnRetransmissionTimeout (h : WindowBounds o.windowFields)
    (packetsRetransmitted : Bool) :
    WindowBounds (o.OnRetransmissionTimeout packetsRetransmitted).windowFields := by
  cases packetsRetransmitted
  · rw [windowFields_OnRetransmissionTimeout, if_neg (by decide)]
    exact h
  · rw [windowFields_OnRetransmissionTimeout, if_pos rfl]
    exact { h with window_pos := h.min_pos, window_le := h.min_le_max,
                   count_gt := (by decide : -1023 < (0 : Int64).toInt),
                   count_lt := (by decide : (0 : Int64).toInt < 1023),
                   epsilonDen_ne := (by decide : (1 : UInt32) ≠ 0) }

theorem windowBounds_OnConnectionMigration (h : WindowBounds o.windowFields) :
    WindowBounds o.OnConnectionMigration.windowFields := by
  rw [windowFields_OnConnectionMigration]
  exact { h with max_eq := rfl,
                 window_pos := UInt64.lt_of_lt_of_le h.min_pos h.min_le_initial,
                 window_le := h.initial_le_max,
                 count_gt := (by decide : -1023 < (0 : Int64).toInt),
                 count_lt := (by decide : (0 : Int64).toInt < 1023),
                 epsilonDen_ne := (by decide : (1 : UInt32) ≠ 0) }

/-- The coupled increase, made below the maximum, keeps the window between one packet and the
maximum: `CongestionWindowAfterAck` gives at least one packet and `maybeIncreaseCwnd` caps it. -/
theorem windowBounds_increaseCoupled (h : WindowBounds o.windowFields)
    (hlt : o.congestionWindow < o.maxTCPCongestionWindow) (rate : ByteCount) :
    WindowBounds (o.increaseCoupled rate).windowFields := by
  rw [windowFields_increaseCoupled]
  have hcount := o.olia.sndCwndCnt_CongestionWindowAfterAck o.congestionWindow rate
    (oliaScale o.congestionWindow scale)
  -- every window the acknowledgement can leave has at least one packet
  have hpos : 0 < (o.olia.CongestionWindowAfterAck o.congestionWindow rate
      (oliaScale o.congestionWindow scale)).2 := by
    rcases o.olia.CongestionWindowAfterAck_snd o.congestionWindow rate
      (oliaScale o.congestionWindow scale) with hw | hw | ⟨-, hw⟩ <;> rw [hw]
    · rw [UInt64.lt_iff_toNat_lt, UInt64.toNat_add_one_of_lt hlt]
      simp
    · exact h.window_pos
    · exact UInt64.lt_of_lt_of_le (by decide) (le_MaxPacketNumber_left _ _)
  exact { h with
    window_pos := UInt64.lt_of_lt_of_le (by decide : (0 : UInt64) < 1)
      (le_MinPacketNumber (UInt64.le_trans (UInt64.one_le_of_pos h.window_pos) h.window_le)
        (UInt64.one_le_of_pos hpos)),
    window_le := MinPacketNumber_le_left _ _,
    count_gt := hcount.1, count_lt := hcount.2 }

/-- Slow start adds a packet, below the maximum. -/
theorem windowBounds_slowStart (h : WindowBounds o.windowFields)
    (hlt : o.congestionWindow < o.maxTCPCongestionWindow) :
    WindowBounds { o with congestionWindow := o.congestionWindow + 1 }.windowFields := by
  have hsucc : (o.congestionWindow + 1).toNat = o.congestionWindow.toNat + 1 :=
    UInt64.toNat_add_one_of_lt hlt
  refine h.setWindow ?_ ?_
  · rw [UInt64.lt_iff_toNat_lt, hsucc]
    simp
  · rw [UInt64.lt_iff_toNat_lt] at hlt
    rw [UInt64.le_iff_toNat_le, hsucc]
    exact hlt

end OliaSender

/-! ## `getEpsilon` never sets a zero denominator -/

/-- The product of a map's size and a non-zero `uint8` count, both at most 255, does not wrap to
zero as a `uint32`. -/
theorem toUInt32_mul_toUInt32_ne_zero {len : Nat} {c : UInt8} (hlen : 0 < len) (hlen' : len ≤ 255)
    (hc : c ≠ 0) : len.toUInt32 * c.toUInt32 ≠ 0 := by
  intro h
  have hc₀ : 0 < c.toNat := by
    rcases Nat.eq_zero_or_pos c.toNat with h0 | h0
    · exact absurd (UInt8.toNat_inj.mp (h0.trans UInt8.toNat_zero.symm)) hc
    · exact h0
  have hprod : len * c.toNat ≤ 255 * 255 := Nat.mul_le_mul hlen' (by have := c.toNat_lt; omega)
  have hnat := congrArg UInt32.toNat h
  rw [UInt32.toNat_mul, UInt8.toNat_toUInt32, Nat.toUInt32_eq, UInt32.toNat_ofNat',
    Nat.mod_eq_of_lt (by omega : len < 2 ^ 32), Nat.mod_eq_of_lt (by omega)] at hnat
  exact Nat.mul_ne_zero (by omega) (by omega) hnat

/-- A map whose keys are distinct `uint8`s other than the initial path's has at most 255 entries. -/
theorem length_le_of_keys {m : List (PathID × OliaSender)} (hnodup : (m.map Prod.fst).Nodup)
    (hne : ∀ e ∈ m, e.1 ≠ InitialPathID) : m.length ≤ 255 := by
  have hinj : ((m.map Prod.fst).map UInt8.toNat).Nodup :=
    hnodup.map (fun _ _ h => UInt8.toNat_inj.mp h)
  -- the keys' values lie in `1 .. 255`
  have hsub : (m.map Prod.fst).map UInt8.toNat ⊆ List.range' 1 255 := by
    intro n hn
    obtain ⟨k, hk, rfl⟩ := List.mem_map.mp hn
    obtain ⟨e, he, rfl⟩ := List.mem_map.mp hk
    have hk0 : e.1.toNat ≠ 0 := fun h0 =>
      hne e he (UInt8.toNat_inj.mp (h0.trans (by decide)))
    have hk256 := e.1.toNat_lt
    rw [List.mem_range']
    exact ⟨e.1.toNat - 1, by omega, by omega⟩
  simpa using (hinj.subperm hsub).length_le

/-- `getEpsilon` never divides by zero: whatever epsilon a sender gets, its denominator is not zero,
for every map with at most 255 senders. -/
theorem epsilonDen_epsilonFor_ne {m : List (PathID × OliaSender)} (hlen : m.length ≤ 255)
    {e : PathID × OliaSender} (he : e ∈ m) : (epsilonFor m e.2).olia.epsilonDen ≠ 0 := by
  have hpos : 0 < m.length := List.length_pos_of_mem he
  simp only [epsilonFor]
  rcases setEpsilon_cases m.length (getMaxCwnd m) (getBest m).1 (getBest m).2
    (countPaths m (getMaxCwnd m) (getBest m).1 (getBest m).2).1
    (countPaths m (getMaxCwnd m) (getBest m).1 (getBest m).2).2 e.2 with
    h | ⟨hB, -, -, h⟩ | ⟨-, hmax, h⟩ <;> rw [h]
  · exact (by decide : (1 : UInt32) ≠ 0)
  · exact toUInt32_mul_toUInt32_ne_zero hpos hlen hB
  · -- the sender is one of the paths with the largest window, so `M` counts at least it
    refine toUInt32_mul_toUInt32_ne_zero hpos hlen ?_
    rw [countPaths_eq]
    have hcount : 0 < m.countP fun e => e.2.congestionWindow = getMaxCwnd m :=
      List.countP_pos_iff.mpr ⟨e, he, by simpa using hmax⟩
    have hle := List.countP_le_length (p := fun e : PathID × OliaSender =>
      decide (e.2.congestionWindow = getMaxCwnd m)) (l := m)
    intro h0
    have hnat := congrArg UInt8.toNat h0
    rw [Nat.toUInt8_eq, UInt8.toNat_ofNat', Nat.mod_eq_of_lt (by omega), UInt8.toNat_zero] at hnat
    omega

/-! ## The map over runs -/

theorem windowFields_NewOliaSender (rttStats : RTTStats)
    (initialCongestionWindow initialMaxCongestionWindow : PacketNumber) :
    (NewOliaSender rttStats initialCongestionWindow initialMaxCongestionWindow).windowFields =
      { minCongestionWindow := defaultMinimumCongestionWindow,
        initialCongestionWindow, initialMaxCongestionWindow,
        maxTCPCongestionWindow := initialMaxCongestionWindow,
        congestionWindow := initialCongestionWindow, sndCwndCnt := 0, epsilonDen := 1 } := rfl

/-- A sender as `path.setup` makes it: 32 packets, at least 2 and at most 2500. -/
theorem windowBounds_NewOliaSender (rttStats : RTTStats) :
    WindowBounds (NewOliaSender rttStats InitialCongestionWindow.toUInt64
      DefaultMaxCongestionWindow.toUInt64).windowFields := by
  rw [windowFields_NewOliaSender]
  constructor <;> decide

/-- The map as `path.setup` builds it: one sender per non-initial path, each within its bounds. -/
structure SendersBounds (m : List (PathID × OliaSender)) : Prop where
  nodup : (m.map Prod.fst).Nodup
  not_initial : ∀ e ∈ m, e.1 ≠ InitialPathID
  bounds : ∀ e ∈ m, WindowBounds e.2.windowFields

theorem sendersBounds_nil : SendersBounds [] :=
  ⟨List.nodup_nil, by simp, by simp⟩

namespace SendersBounds

variable {m : List (PathID × OliaSender)}

theorem length_le (h : SendersBounds m) : m.length ≤ 255 :=
  length_le_of_keys h.nodup h.not_initial

theorem lookup_of_mem (h : SendersBounds m) {pathID : PathID} {o : OliaSender}
    (he : (pathID, o) ∈ m) : m.lookup pathID = some o :=
  List.lookup_of_mem h.nodup he

/-- A write through the map keeps the bounds when it keeps them for the sender it finds. -/
theorem updateSender (h : SendersBounds m) {pathID : PathID} {f : OliaSender → OliaSender}
    (hf : ∀ o, m.lookup pathID = some o → WindowBounds (f o).windowFields) :
    SendersBounds (Congestion.updateSender m pathID f) where
  nodup := by rw [keys_updateSender]; exact h.nodup
  not_initial := by
    intro e he
    rcases mem_updateSender he with ⟨-, hmem⟩ | ⟨o, hmem, rfl⟩
    · exact h.not_initial e hmem
    · exact h.not_initial (pathID, o) hmem
  bounds := by
    intro e he
    rcases mem_updateSender he with ⟨-, hmem⟩ | ⟨o, hmem, rfl⟩
    · exact h.bounds e hmem
    · exact hf o (h.lookup_of_mem hmem)

/-- A write that leaves the sender's window fields as they were keeps the bounds. -/
theorem updateSender_of_windowFields (h : SendersBounds m) {pathID : PathID}
    {f : OliaSender → OliaSender}
    (hf : ∀ o, m.lookup pathID = some o → (f o).windowFields = o.windowFields) :
    SendersBounds (Congestion.updateSender m pathID f) :=
  h.updateSender fun o ho => (hf o ho).symm ▸ h.bounds _ (List.mem_of_lookup_eq_some ho)

theorem getEpsilon (h : SendersBounds m) : SendersBounds (Congestion.getEpsilon m) where
  nodup := by rw [keys_getEpsilon]; exact h.nodup
  not_initial := by
    intro e he
    obtain ⟨o, hmem, -⟩ := mem_getEpsilon he
    exact h.not_initial (e.1, o) hmem
  bounds := by
    intro e he
    obtain ⟨o, hmem, he2⟩ := mem_getEpsilon he
    rw [he2, epsilonFor, windowFields_setEpsilon]
    exact { h.bounds _ hmem with epsilonDen_ne := epsilonDen_epsilonFor_ne h.length_le hmem }

theorem maybeIncreaseCwnd (h : SendersBounds m) (pathID : PathID) (bytesInFlight : ByteCount) :
    SendersBounds (Congestion.maybeIncreaseCwnd m pathID bytesInFlight) := by
  simp only [Congestion.maybeIncreaseCwnd]
  split
  · exact h
  · rename_i o hlookup
    have ho := h.bounds _ (List.mem_of_lookup_eq_some hlookup)
    split
    · exact h
    split
    · exact h
    rename_i _ hge
    have hlt : o.congestionWindow < o.maxTCPCongestionWindow := UInt64.not_le.mp hge
    split
    · exact h.updateSender fun o' ho' => by
        rw [hlookup, Option.some.injEq] at ho'
        subst ho'
        exact OliaSender.windowBounds_slowStart ho hlt
    · -- the sender `getEpsilon` leaves at the path is `o` with a new epsilon
      refine h.getEpsilon.updateSender fun o' ho' => ?_
      have hmem := List.mem_of_lookup_eq_some ho'
      obtain ⟨o₀, hmem₀, rfl⟩ := mem_getEpsilon hmem
      have ho₀ : o₀ = o := by
        rw [h.lookup_of_mem hmem₀, Option.some.injEq] at hlookup
        exact hlookup
      subst ho₀
      have hw := h.getEpsilon.bounds _ hmem
      refine OliaSender.windowBounds_increaseCoupled hw ?_ _
      rw [epsilonFor]
      rcases setEpsilon_cases m.length (getMaxCwnd m) (getBest m).1 (getBest m).2
        (countPaths m (getMaxCwnd m) (getBest m).1 (getBest m).2).1
        (countPaths m (getMaxCwnd m) (getBest m).1 (getBest m).2).2 o₀ with
        he | ⟨-, -, -, he⟩ | ⟨-, -, he⟩ <;> rw [he] <;> exact hlt

theorem OnPacketAcked (h : SendersBounds m) (pathID : PathID) (ackedPacketNumber : PacketNumber)
    (ackedBytes bytesInFlight : ByteCount) :
    SendersBounds (Congestion.OnPacketAcked m pathID ackedPacketNumber ackedBytes bytesInFlight) := by
  simp only [Congestion.OnPacketAcked]
  split
  · exact h
  rename_i o hlookup
  -- the acknowledgement is recorded, and the bytes counted, without touching the window
  have hsame : ∀ o', m.lookup pathID = some o' → o' = o := by
    intro o' ho'
    rw [hlookup, Option.some.injEq] at ho'
    exact ho'.symm
  split
  · refine h.updateSender_of_windowFields fun o' ho' => ?_
    rw [hsame o' ho']
    rfl
  · refine SendersBounds.updateSender_of_windowFields
      (SendersBounds.maybeIncreaseCwnd (h.updateSender_of_windowFields fun o' ho' => ?_) _ _) ?_
    · rw [hsame o' ho']
      rfl
    · intro o' _
      split <;> rfl

theorem setup (h : SendersBounds m) (pathID : PathID) (rttStats : RTTStats) :
    SendersBounds (Congestion.setup m pathID rttStats) := by
  simp only [Congestion.setup]
  split
  · rename_i hne
    refine ⟨?_, ?_, ?_⟩
    · rw [List.map_cons, List.nodup_cons]
      refine ⟨?_, h.nodup.sublist (List.Sublist.map Prod.fst List.filter_sublist)⟩
      simp
    · intro e he
      rcases List.mem_cons.mp he with rfl | he
      · exact hne
      · exact h.not_initial e (List.mem_of_mem_filter he)
    · intro e he
      rcases List.mem_cons.mp he with rfl | he
      · exact windowBounds_NewOliaSender rttStats
      · exact h.bounds e (List.mem_of_mem_filter he)
  · exact h

theorem apply (h : SendersBounds m) (call : OliaCall) : SendersBounds (call.apply m) := by
  cases call with
  | setup pathID rttStats => exact h.setup pathID rttStats
  | UpdateRTT pathID rttStats =>
    simp only [OliaCall.apply]
    exact h.updateSender_of_windowFields fun _ _ => rfl
  | OnPacketSent pathID packetNumber isRetransmittable =>
    simp only [OliaCall.apply]
    exact h.updateSender_of_windowFields fun o _ => o.windowFields_OnPacketSent _ _
  | OnPacketAcked pathID ackedPacketNumber ackedBytes bytesInFlight =>
    exact h.OnPacketAcked pathID ackedPacketNumber ackedBytes bytesInFlight
  | OnPacketLost pathID packetNumber lostBytes =>
    simp only [OliaCall.apply]
    exact h.updateSender fun o ho =>
      OliaSender.windowBounds_OnPacketLost (h.bounds _ (List.mem_of_lookup_eq_some ho)) _ _
  | OnRetransmissionTimeout pathID packetsRetransmitted =>
    simp only [OliaCall.apply]
    exact h.updateSender fun o ho =>
      OliaSender.windowBounds_OnRetransmissionTimeout (h.bounds _ (List.mem_of_lookup_eq_some ho)) _
  | MaybeExitSlowStart pathID =>
    simp only [OliaCall.apply]
    exact h.updateSender_of_windowFields fun o _ => o.windowFields_MaybeExitSlowStart
  | OnConnectionMigration pathID =>
    simp only [OliaCall.apply]
    exact h.updateSender fun o ho =>
      OliaSender.windowBounds_OnConnectionMigration (h.bounds _ (List.mem_of_lookup_eq_some ho))

theorem runOlia (h : SendersBounds m) (calls : List OliaCall) :
    SendersBounds (Congestion.runOlia m calls) := by
  induction calls generalizing m with
  | nil => exact h
  | cons call calls ih => exact ih (h.apply call)

end SendersBounds

/-- From a new session, over every run of calls, every sender's window stays between one packet
and `maxTCPCongestionWindow`, and every epsilon has a non-zero denominator. -/
theorem runOlia_window_bounded (calls : List OliaCall) :
    ∀ e ∈ runOlia [] calls, 0 < e.2.congestionWindow ∧
      e.2.congestionWindow ≤ e.2.maxTCPCongestionWindow ∧ e.2.olia.epsilonDen ≠ 0 := by
  intro e he
  have hb := (sendersBounds_nil.runOlia calls).bounds e he
  exact ⟨hb.window_pos, hb.window_le, hb.epsilonDen_ne⟩

end Congestion
end PStream
