import Mathlib.Data.Prod.Lex
import PStream.Protocol
import PStream.Lib.RunningMin

/-!
# The low-latency path

`findPathLowLatency` picks the path for a new stream on a client, and for the crypto and header
streams on a server.  With more than one path it walks `s.paths`, a Go map, in whatever order the
runtime gives, and keeps a running best.  A path whose RTT has been measured beats one that has
not.  Of two measured paths the faster wins, and of two unmeasured ones the one with the smaller
quota, the number of packets it has sent.

The walk is modelled over the entries of the map in one iteration order.  It is an instance of
`RunningMin.run` (`findPathLowLatency_eq_run`) whose rule never prefers a larger
`lowLatencyKey`, so it ends on an eligible path of least key: the measured path of least RTT when
there is one, and otherwise the unmeasured path of least quota (`IsLowLatencyChoice`).  Which path
wins a tie depends on the order, but the key of the winner, so its RTT and, when unmeasured, its
quota, does not.
-/

set_option autoImplicit false

namespace PStream
namespace Scheduler

open Protocol

/-- What `findPathLowLatency` reads of a `path`: `SendingAllowed()`, `potentiallyFailed`, and
`rttStats.SmoothedRTT()` in nanoseconds, which `RTTStats` never makes negative. -/
structure PathInfo where
  sendingAllowed : Bool
  potentiallyFailed : Bool
  smoothedRTT : Nat
  deriving DecidableEq, Repr

/-- `sch.quotas`, the number of packets sent on each path. -/
abbrev Quotas := List (PathID × Nat)

/-- `sch.quotas[pathID]`, which is 0 for a path with no entry. -/
def quotaOf (quotas : Quotas) (pathID : PathID) : Nat := (quotas.lookup pathID).getD 0

/-- `if _, ok := sch.quotas[pathID]; !ok { sch.quotas[pathID] = 0 }`. -/
def initQuota (quotas : Quotas) (pathID : PathID) : Quotas :=
  match quotas.lookup pathID with
  | some _ => quotas
  | none => (pathID, 0) :: quotas

/-- The variables of the loop of `findPathLowLatency`; `selectedPath` is the map entry of the
path chosen so far. -/
structure LowLatencyState where
  selectedPath : Option (PathID × PathInfo)
  lowerRTT : Nat
  selectedPathID : PathID
  quotas : Quotas

/-- One iteration of `pathLoop`, over the map entry `e`.  Each `continue pathLoop` of the source
leaves the state as it is, but for the quota entry made on the way. -/
def lowLatencyStep (st : LowLatencyState) (e : PathID × PathInfo) : LowLatencyState :=
  if !e.2.sendingAllowed then st
  else if e.2.potentiallyFailed then st
  else if e.1 = InitialPathID then st
  -- a measured path is selected: an unmeasured one is not considered
  else if st.lowerRTT ≠ 0 ∧ e.2.smoothedRTT = 0 then st
  else if e.2.smoothedRTT = 0 then
    let quotas := initQuota st.quotas e.1
    if st.selectedPath.isSome ∧ quotaOf st.quotas e.1 > quotaOf quotas st.selectedPathID then
      { st with quotas }
    else ⟨some e, e.2.smoothedRTT, e.1, quotas⟩
  else if st.lowerRTT ≠ 0 ∧ st.selectedPath.isSome ∧ e.2.smoothedRTT ≥ st.lowerRTT then st
  else ⟨some e, e.2.smoothedRTT, e.1, st.quotas⟩

/-- `findPathLowLatency` over the entries of `s.paths` in one iteration order, with `sch.quotas`:
the entry of the path it returns, and the quotas after.  With at most one path it reads the
initial path, and dereferences nil (`none`) when there is none. -/
def findPathLowLatency (paths : List (PathID × PathInfo)) (quotas : Quotas) :
    Option (Option (PathID × PathInfo) × Quotas) :=
  if paths.length ≤ 1 then
    match paths.lookup InitialPathID with
    | none => none
    | some pth => some (if pth.sendingAllowed then some (InitialPathID, pth) else none, quotas)
  else
    let st := paths.foldl lowLatencyStep ⟨none, 0, 255, quotas⟩
    some (st.selectedPath, st.quotas)

/-! ## What the loop computes -/

/-- The paths the loop may return: sending allowed, not potentially failed, and not the initial
path. -/
def eligible (e : PathID × PathInfo) : Bool :=
  e.2.sendingAllowed && !e.2.potentiallyFailed && e.1 != InitialPathID

/-- When the loop takes the eligible `a` over its best `b`: over a measured `b`, only when `a` is
measured and faster; over an unmeasured `b`, when `a` is measured or has no larger quota. -/
def lowLatencyReplace (quotas : Quotas) (a b : PathID × PathInfo) : Bool :=
  if b.2.smoothedRTT ≠ 0 then a.2.smoothedRTT ≠ 0 ∧ a.2.smoothedRTT < b.2.smoothedRTT
  else a.2.smoothedRTT ≠ 0 ∨ quotaOf quotas a.1 ≤ quotaOf quotas b.1

/-- The order the loop minimises: measured paths first, by RTT, then unmeasured ones by quota. -/
def lowLatencyKey (quotas : Quotas) (e : PathID × PathInfo) : ℕ ×ₗ ℕ :=
  if e.2.smoothedRTT ≠ 0 then toLex (0, e.2.smoothedRTT) else toLex (1, quotaOf quotas e.1)

/-- A right choice `p` among `paths`: an eligible entry; of least positive RTT among the eligible
paths when one has a positive RTT, and otherwise of least quota. -/
def IsLowLatencyChoice (quotas : Quotas) (paths : List (PathID × PathInfo))
    (p : PathID × PathInfo) : Prop :=
  p ∈ paths ∧ eligible p = true ∧
    ((∃ e ∈ paths, eligible e = true ∧ e.2.smoothedRTT ≠ 0) →
      p.2.smoothedRTT ≠ 0 ∧
        ∀ e ∈ paths, eligible e = true → e.2.smoothedRTT ≠ 0 → p.2.smoothedRTT ≤ e.2.smoothedRTT) ∧
    ((∀ e ∈ paths, eligible e = true → e.2.smoothedRTT = 0) →
      ∀ e ∈ paths, eligible e = true → quotaOf quotas p.1 ≤ quotaOf quotas e.1)

theorem lowLatencyKey_le_of_replace (quotas : Quotas) (a b : PathID × PathInfo)
    (h : lowLatencyReplace quotas a b = true) : lowLatencyKey quotas a ≤ lowLatencyKey quotas b := by
  unfold lowLatencyReplace at h
  unfold lowLatencyKey
  split_ifs at h ⊢ <;> simp_all [Prod.Lex.toLex_le_toLex, Nat.le_of_lt]

theorem lowLatencyKey_le_of_keep (quotas : Quotas) (a b : PathID × PathInfo)
    (h : lowLatencyReplace quotas a b = false) : lowLatencyKey quotas b ≤ lowLatencyKey quotas a := by
  unfold lowLatencyReplace at h
  unfold lowLatencyKey
  split_ifs at h ⊢ <;> simp_all [Prod.Lex.toLex_le_toLex, Nat.le_of_lt]

/-- An eligible entry of least key is a right choice. -/
theorem isLowLatencyChoice_of_key_le (quotas : Quotas) {paths : List (PathID × PathInfo)}
    {p : PathID × PathInfo} (hp : p ∈ paths) (he : eligible p = true)
    (hmin : ∀ e ∈ paths, eligible e = true → lowLatencyKey quotas p ≤ lowLatencyKey quotas e) :
    IsLowLatencyChoice quotas paths p := by
  refine ⟨hp, he, ?_, ?_⟩
  · rintro ⟨e, hem, hee, her⟩
    -- below the key of a measured path there are only measured paths
    have hpr : p.2.smoothedRTT ≠ 0 := by
      intro hp0
      have hpe := hmin e hem hee
      simp [lowLatencyKey, hp0, her, Prod.Lex.toLex_le_toLex] at hpe
    refine ⟨hpr, fun e' hem' hee' her' => ?_⟩
    have hpe' := hmin e' hem' hee'
    simpa [lowLatencyKey, hpr, her', Prod.Lex.toLex_le_toLex] using hpe'
  · intro hall e hem hee
    have hpe := hmin e hem hee
    simpa [lowLatencyKey, hall p hp he, hall e hem hee, Prod.Lex.toLex_le_toLex] using hpe

/-- Two paths of one key have one RTT, and when unmeasured one quota. -/
theorem eq_of_lowLatencyKey_eq (quotas : Quotas) {p p' : PathID × PathInfo}
    (h : lowLatencyKey quotas p = lowLatencyKey quotas p') :
    p.2.smoothedRTT = p'.2.smoothedRTT ∧
      (p.2.smoothedRTT = 0 → quotaOf quotas p.1 = quotaOf quotas p'.1) := by
  unfold lowLatencyKey at h
  split_ifs at h <;> simp_all

/-! ## The loop is a running minimum -/

theorem quotaOf_initQuota (quotas : Quotas) (pathID id : PathID) :
    quotaOf (initQuota quotas pathID) id = quotaOf quotas id := by
  unfold initQuota
  cases h : quotas.lookup pathID with
  | some _ => rfl
  | none =>
    by_cases hid : id = pathID
    · rw [hid, quotaOf, quotaOf, List.lookup_cons_self, h]
      rfl
    · rw [quotaOf, quotaOf, List.lookup_cons, beq_false_of_ne hid]

/-- What the loop keeps besides its best: `lowerRTT` is the RTT of the best (0 without one),
`selectedPathID` its ID, and every quota reads as at the start. -/
structure LowLatencyInv (quotas₀ : Quotas) (st : LowLatencyState) : Prop where
  lowerRTT_eq : st.lowerRTT = (st.selectedPath.map (·.2.smoothedRTT)).getD 0
  selectedPathID_eq : ∀ p ∈ st.selectedPath, st.selectedPathID = p.1
  quotaOf_eq : ∀ id, quotaOf st.quotas id = quotaOf quotas₀ id

theorem lowLatencyInv_select (quotas₀ : Quotas) (e : PathID × PathInfo) {quotas : Quotas}
    (hq : ∀ id, quotaOf quotas id = quotaOf quotas₀ id) :
    LowLatencyInv quotas₀ ⟨some e, e.2.smoothedRTT, e.1, quotas⟩ :=
  ⟨rfl, fun p hp => by rw [Option.mem_some_iff.mp hp], hq⟩

theorem lowLatencyStep_of_not_eligible (st : LowLatencyState) {e : PathID × PathInfo}
    (he : eligible e = false) : lowLatencyStep st e = st := by
  simp only [eligible, Bool.and_eq_false_iff, Bool.not_eq_false', bne_eq_false_iff_eq] at he
  -- the first three tests of the loop skip `e`; the later branches contradict `he`
  unfold lowLatencyStep
  split_ifs <;> first | rfl | simp_all

/-- One iteration of the loop is one step of the running minimum for `lowLatencyReplace`. -/
theorem lowLatencyStep_sim (quotas₀ : Quotas) (st : LowLatencyState) (e : PathID × PathInfo)
    (hinv : LowLatencyInv quotas₀ st) :
    LowLatencyInv quotas₀ (lowLatencyStep st e) ∧
      (lowLatencyStep st e).selectedPath =
        RunningMin.step eligible (lowLatencyReplace quotas₀) st.selectedPath e := by
  cases he : eligible e
  · rw [lowLatencyStep_of_not_eligible st he, RunningMin.step_of_not_elig _ _ he]
    exact ⟨hinv, rfl⟩
  obtain ⟨hs, hp, hi⟩ : e.2.sendingAllowed = true ∧ e.2.potentiallyFailed = false ∧
      e.1 ≠ InitialPathID := by simpa [eligible, and_assoc] using he
  have hq : ∀ id, quotaOf (initQuota st.quotas e.1) id = quotaOf quotas₀ id := fun id =>
    (quotaOf_initQuota _ _ id).trans (hinv.quotaOf_eq id)
  unfold lowLatencyStep
  rw [if_neg (by simp [hs]), if_neg (by simp [hp]), if_neg hi]
  cases hsel : st.selectedPath with
  | none =>
    -- no best yet: the loop selects `e`
    have h0 : st.lowerRTT = 0 := by rw [hinv.lowerRTT_eq, hsel]; rfl
    rw [RunningMin.step_none _ _ he]
    simp only [h0, Option.isSome_none, Bool.false_eq_true, false_and, if_false, ne_eq,
      not_true_eq_false]
    split_ifs
    · exact ⟨lowLatencyInv_select quotas₀ e hq, rfl⟩
    · exact ⟨lowLatencyInv_select quotas₀ e hinv.quotaOf_eq, rfl⟩
  | some b =>
    have hb : st.lowerRTT = b.2.smoothedRTT := by rw [hinv.lowerRTT_eq, hsel]; rfl
    have hid : st.selectedPathID = b.1 := hinv.selectedPathID_eq b (by rw [hsel]; rfl)
    have hqe := hinv.quotaOf_eq e.1
    have hqb := hq b.1
    rw [RunningMin.step_some _ _ he, lowLatencyReplace, hb, hid, hqe]
    simp only [Option.isSome_some, true_and]
    rw [hqb]
    by_cases hbr : b.2.smoothedRTT = 0 <;> by_cases her : e.2.smoothedRTT = 0
    · -- both unmeasured: the quotas decide
      rw [if_neg (show ¬(b.2.smoothedRTT ≠ 0 ∧ e.2.smoothedRTT = 0) by simp [hbr]), if_pos her,
        if_neg (show ¬b.2.smoothedRTT ≠ 0 by simp [hbr])]
      by_cases hle : quotaOf quotas₀ e.1 ≤ quotaOf quotas₀ b.1
      · rw [if_neg (show ¬quotaOf quotas₀ e.1 > quotaOf quotas₀ b.1 by omega),
          if_pos (show decide (e.2.smoothedRTT ≠ 0 ∨ quotaOf quotas₀ e.1 ≤ quotaOf quotas₀ b.1) = true
            by simp [hle])]
        exact ⟨lowLatencyInv_select quotas₀ e hq, rfl⟩
      · rw [if_pos (show quotaOf quotas₀ e.1 > quotaOf quotas₀ b.1 by omega),
          if_neg (show ¬decide (e.2.smoothedRTT ≠ 0 ∨ quotaOf quotas₀ e.1 ≤ quotaOf quotas₀ b.1) = true
            by simp [her, hle])]
        exact ⟨lowLatencyInv_select quotas₀ b hq, rfl⟩
    · -- a measured `e` takes the place of an unmeasured `b`
      rw [if_neg (show ¬(b.2.smoothedRTT ≠ 0 ∧ e.2.smoothedRTT = 0) by simp [hbr]), if_neg her,
        if_neg (show ¬(b.2.smoothedRTT ≠ 0 ∧ e.2.smoothedRTT ≥ b.2.smoothedRTT) by simp [hbr]),
        if_neg (show ¬b.2.smoothedRTT ≠ 0 by simp [hbr]),
        if_pos (show decide (e.2.smoothedRTT ≠ 0 ∨ quotaOf quotas₀ e.1 ≤ quotaOf quotas₀ b.1) = true
          by simp [her])]
      exact ⟨lowLatencyInv_select quotas₀ e hinv.quotaOf_eq, rfl⟩
    · -- an unmeasured `e` is skipped once a measured path is selected
      rw [if_pos (show b.2.smoothedRTT ≠ 0 ∧ e.2.smoothedRTT = 0 from ⟨hbr, her⟩),
        if_pos (show b.2.smoothedRTT ≠ 0 from hbr),
        if_neg (show ¬decide (e.2.smoothedRTT ≠ 0 ∧ e.2.smoothedRTT < b.2.smoothedRTT) = true
          by simp [her])]
      exact ⟨hinv, hsel⟩
    · -- both measured: the RTTs decide
      rw [if_neg (show ¬(b.2.smoothedRTT ≠ 0 ∧ e.2.smoothedRTT = 0) by simp [her]), if_neg her,
        if_pos (show b.2.smoothedRTT ≠ 0 from hbr)]
      by_cases hlt : e.2.smoothedRTT < b.2.smoothedRTT
      · rw [if_neg (show ¬(b.2.smoothedRTT ≠ 0 ∧ e.2.smoothedRTT ≥ b.2.smoothedRTT) by omega),
          if_pos (show decide (e.2.smoothedRTT ≠ 0 ∧ e.2.smoothedRTT < b.2.smoothedRTT) = true
            by simp [her, hlt])]
        exact ⟨lowLatencyInv_select quotas₀ e hinv.quotaOf_eq, rfl⟩
      · rw [if_pos (show b.2.smoothedRTT ≠ 0 ∧ e.2.smoothedRTT ≥ b.2.smoothedRTT by omega),
          if_neg (show ¬decide (e.2.smoothedRTT ≠ 0 ∧ e.2.smoothedRTT < b.2.smoothedRTT) = true
            by simp [hlt])]
        exact ⟨hinv, hsel⟩

/-- With two paths or more, `findPathLowLatency` is the running minimum over the entries in their
iteration order, and leaves every quota as it read it. -/
theorem findPathLowLatency_eq_run {paths : List (PathID × PathInfo)} (quotas : Quotas)
    (h2 : 2 ≤ paths.length) :
    ∃ quotas', findPathLowLatency paths quotas =
        some (RunningMin.run eligible (lowLatencyReplace quotas) none paths, quotas') ∧
      ∀ id, quotaOf quotas' id = quotaOf quotas id := by
  have hinit : LowLatencyInv quotas ⟨none, 0, 255, quotas⟩ :=
    ⟨rfl, fun _ h => absurd h (Option.not_mem_none _), fun _ => rfl⟩
  obtain ⟨hinv, habs⟩ := RunningMin.foldl_sim lowLatencyStep
    (RunningMin.step eligible (lowLatencyReplace quotas)) LowLatencyState.selectedPath
    (LowLatencyInv quotas) (lowLatencyStep_sim quotas) paths _ hinit
  refine ⟨_, ?_, hinv.quotaOf_eq⟩
  rw [findPathLowLatency, if_neg (by omega)]
  dsimp only
  rw [habs]
  rfl

/-! ## The choice, in any order -/

theorem findPathLowLatency_optimal (quotas : Quotas) {paths paths' : List (PathID × PathInfo)}
    (h2 : 2 ≤ paths.length) (hperm : paths.Perm paths') :
    ∃ r q r' q', findPathLowLatency paths quotas = some (r, q) ∧
      findPathLowLatency paths' quotas = some (r', q') ∧
      (r = none ↔ ∀ e ∈ paths, eligible e = false) ∧
      (∀ p ∈ r, IsLowLatencyChoice quotas paths p) ∧
      r.map (·.2.smoothedRTT) = r'.map (·.2.smoothedRTT) ∧
      ∀ p ∈ r, ∀ p' ∈ r', p.2.smoothedRTT = 0 → quotaOf quotas p.1 = quotaOf quotas p'.1 := by
  have hreplace := lowLatencyKey_le_of_replace quotas
  have hkeep := lowLatencyKey_le_of_keep quotas
  obtain ⟨q, hq, -⟩ := findPathLowLatency_eq_run quotas h2
  obtain ⟨q', hq', -⟩ := findPathLowLatency_eq_run quotas (hperm.length_eq ▸ h2)
  -- the key of the result is the same in both orders, and the key tells the RTT and the quota
  have hkey :=
    RunningMin.map_key_run_perm eligible _ (lowLatencyKey quotas) hreplace hkeep hperm
  refine ⟨_, q, _, q', hq, hq', RunningMin.run_eq_none_iff _ _ paths, fun p hp => ?_, ?_, ?_⟩
  · obtain ⟨hmem, hel, hmin⟩ :=
      RunningMin.key_run_le eligible _ (lowLatencyKey quotas) hreplace hkeep paths p hp
    exact isLowLatencyChoice_of_key_le quotas hmem hel hmin
  · cases hr : RunningMin.run eligible (lowLatencyReplace quotas) none paths <;>
      cases hr' : RunningMin.run eligible (lowLatencyReplace quotas) none paths' <;>
      rw [hr, hr'] at hkey <;> simp only [Option.map_none, Option.map_some, reduceCtorEq,
        Option.some.injEq] at hkey ⊢
    exact (eq_of_lowLatencyKey_eq quotas hkey).1
  · intro p hp p' hp' hp0
    rw [Option.mem_def.mp hp, Option.mem_def.mp hp', Option.map_some, Option.map_some,
      Option.some.injEq] at hkey
    exact (eq_of_lowLatencyKey_eq quotas hkey).2 hp0

theorem findPathLowLatency_optimal_threePaths :
    let paths : List (PathID × PathInfo) :=
      [(1, ⟨true, false, 30⟩), (2, ⟨true, false, 20⟩), (0, ⟨true, false, 5⟩), (3, ⟨true, true, 1⟩)]
    ∃ r q r' q', findPathLowLatency paths [] = some (r, q) ∧
      findPathLowLatency paths.reverse [] = some (r', q') ∧
      (r = none ↔ ∀ e ∈ paths, eligible e = false) ∧
      (∀ p ∈ r, IsLowLatencyChoice [] paths p) ∧
      r.map (·.2.smoothedRTT) = r'.map (·.2.smoothedRTT) ∧
      ∀ p ∈ r, ∀ p' ∈ r', p.2.smoothedRTT = 0 → quotaOf [] p.1 = quotaOf [] p'.1 :=
  findPathLowLatency_optimal [] (by decide) (List.reverse_perm _).symm

/-- Of two unmeasured paths of one quota, the last in the iteration order wins: the path the loop
returns depends on the order, its RTT and quota do not. -/
example :
    ((findPathLowLatency [(1, ⟨true, false, 0⟩), (2, ⟨true, false, 0⟩)] []).map
        (·.1.map (·.1)),
      (findPathLowLatency [(2, ⟨true, false, 0⟩), (1, ⟨true, false, 0⟩)] []).map
        (·.1.map (·.1))) = (some (some 2), some (some 1)) := by
  decide

end Scheduler
end PStream
