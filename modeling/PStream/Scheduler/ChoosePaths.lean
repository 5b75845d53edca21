import Mathlib.Algebra.Order.BigOperators.Group.List
import Mathlib.Algebra.Order.Field.Rat
import Mathlib.Data.List.AList
import Mathlib.Tactic.FieldSimp
import Mathlib.Tactic.Linarith
import Mathlib.Tactic.Positivity
import Mathlib.Tactic.Ring
import PStream.Scheduler.LowLatency

/-!
# Splitting a stream over paths

On a server, `scheduleToMultiplePaths` places a stream whose size is known on several paths at
once, with the volume `choosePaths` gives each.  Every available path gets a share of its
bandwidth, weighted by the stream's priority against the streams already on the path, and the
paths are sorted by one-way delay.  Step 2 fills the fastest paths up to the delay of the next
one, a level at a time; Step 3 spreads what is left over all paths in proportion to their shares.
The split this aims at finishes the stream at one time on every path that carries part of it, and
leaves out only paths that could not finish earlier (`IsWaterFilling`).

The source computes in `float64`.  Here the numbers are exact rationals, and a division by zero,
which Go carries on with as an infinity or a NaN, ends the computation (`Fault.divisionByZero`).
Every division of the source is one, the completion times the loops work out for the debug log
included: they are computed whether or not the log is on.

Two things go wrong (`choosePaths_not_waterFilling`).  A stream of weight 0 divides by zero,
whatever the paths.  And Step 2 stops at the first two paths of equal delay, so when the two
fastest paths tie, all of the stream is spread by bandwidth over every path, the slow ones
included, and the paths finish at different times.
-/

set_option autoImplicit false

namespace PStream
namespace Congestion

/-- What `choosePaths` reads of a `BDWStats`: the bandwidth estimate, in bits per second. -/
structure BDWStats where
  bandwidth : UInt64
  deriving DecidableEq, Repr

/-- `GetBandwidth`: the estimate in units of 1048576 bits per second. -/
def BDWStats.GetBandwidth (b : BDWStats) : UInt64 := b.bandwidth / 1048576

end Congestion

namespace Scheduler

open Protocol

/-- What `choosePaths` reads of a `path`: what the low-latency scheduler reads, the streams placed
on it, and its bandwidth estimate. -/
structure PathStats extends PathInfo where
  streamIDs : List StreamID
  bdwStats : Congestion.BDWStats
  deriving DecidableEq, Repr

/-- `s.paths`, a map from path identifiers. -/
abbrev Paths := AList fun _ : PathID => PathStats

/-- What `choosePaths` reads and sets of the stream it places. -/
structure StreamSize where
  checksize : Bool
  size : ByteCount
  lenOfDataForWriting : ByteCount
  deriving DecidableEq, Repr

/-- How the computation of `choosePaths` can fail: a nil pointer is dereferenced, or, in exact
arithmetic, a number is divided by zero. -/
inductive Fault where
  | nilDereference
  | divisionByZero
  deriving DecidableEq, Repr

/-- A failure of an `Option` as the fault `f`. -/
def orFault {α : Type} (f : Fault) : Option α → Except Fault α
  | none => .error f
  | some a => .ok a

/-- A `float64` division read exactly: nothing when the divisor is zero. -/
def divide (a b : ℚ) : Option ℚ := if b = 0 then none else some (a / b)

/-! ## The model -/

/-- The weights of the streams on a path, added up but for streams 1 and 3, which have absolute
priority.  `s.streamsMap.streams[sid]` is nil for a stream the map does not hold. -/
def prioritySum (weightOf : StreamID → Option UInt8) : List StreamID → Option ℚ
  | [] => some 0
  | sid :: sids =>
    if sid = 1 ∨ sid = 3 then prioritySum weightOf sids
    else do
      let w ← weightOf sid
      let rest ← prioritySum weightOf sids
      pure (w.toNat + rest)

/-- A path's share for the stream: its identifier, `pathsBdw`, in bits per second, and `pathsOwd`,
in seconds. -/
abbrev Share := PathID × ℚ × ℚ

/-- `pathsBdw[pth.pathID]`: the bandwidth of the path, split by weight between the stream, of
weight `priority`, and the streams already on it. -/
def sharedBandwidth (priority : UInt8) (prioritySum : ℚ) (pth : PathStats) : Option ℚ := do
  let share ← divide priority.toNat (priority.toNat + prioritySum)
  pure (share * pth.bdwStats.GetBandwidth.toNat * 1048576)

/-- `pathsOwd[pth.pathID]`: half the smoothed RTT, in seconds. -/
def oneWayDelay (pth : PathStats) : ℚ := (pth.smoothedRTT : ℚ) / 1000000000 / 2

/-- An iteration of the loop over `avalPaths`, which sets `pathsBdw` and `pathsOwd` for the
path `e`. -/
def pathShare (weightOf : StreamID → Option UInt8) (priority : UInt8) (e : PathID × PathStats) :
    Except Fault Share := do
  let sum ← orFault .nilDereference (prioritySum weightOf e.2.streamIDs)
  let bdw ← orFault .divisionByZero (sharedBandwidth priority sum e.2)
  pure (e.1, bdw, oneWayDelay e.2)

/-- The loop over `avalPaths`. -/
def pathShares (weightOf : StreamID → Option UInt8) (priority : UInt8) :
    List (PathID × PathStats) → Except Fault (List Share)
  | [] => .ok []
  | e :: rest => do
    let s ← pathShare weightOf priority e
    let shares ← pathShares weightOf priority rest
    pure (s :: shares)

/-- Step 1: the shares in ascending order of delay.  `sort.Slice` leaves the order of equal delays
open; here it is the order of `avalPaths`. -/
def sortByDelay (shares : List Share) : List Share :=
  shares.mergeSort fun a b => decide (a.2.2 ≤ b.2.2)

/-- `pathsVolume`, in bits; a path without an entry has 0. -/
abbrev Volumes := PathID → ℚ

/-- `pathsVolume[pathID] += v`. -/
def Volumes.add (vols : Volumes) (pathID : PathID) (v : ℚ) : Volumes :=
  Function.update vols pathID (vols pathID + v)

/-- The loop `for k, v := range pathsVolume { time := v/pathsBdw[k] + pathsOwd[k] }`, which works
out every path's completion time for the debug log, log on or off. -/
def checkTimes (vols : Volumes) : List Share → Option Unit
  | [] => some ()
  | s :: shares => do
    let _ ← divide (vols s.1) s.2.1
    checkTimes vols shares

/-- The inner loop of Step 2, over `k = i, ..., 0`, when more volume is left than the gap: each of
the first `i + 1` paths gets `owdGap` times its bandwidth, until no volume is left. -/
def topUp (shares : List Share) (owdGap : ℚ) : List Share → ℚ → Volumes → Option (ℚ × Volumes)
  | [], volume, vols => some (volume, vols)
  | s :: rest, volume, vols =>
    let proportionStep := owdGap * s.2.1
    let vols := vols.add s.1 proportionStep
    let volume := volume - proportionStep
    if volume ≤ 0 then do
      checkTimes vols shares
      pure (volume, vols)
    else topUp shares owdGap rest volume vols

/-- The inner loop of Step 2 when no more volume is left than the gap: it is cut among the first
`i + 1` paths in proportion to their bandwidths.  Returns what was cut. -/
def cutVolume (volume bdwSum : ℚ) : List Share → ℚ → Volumes → Option (ℚ × Volumes)
  | [], cutted, vols => some (cutted, vols)
  | s :: rest, cutted, vols => do
    let proportionStep ← divide (volume * s.2.1) bdwSum
    cutVolume volume bdwSum rest (cutted + proportionStep) (vols.add s.1 proportionStep)

/-- Step 2.  `done` is the first `i + 1` sorted paths from the `i`-th down, `todo` the rest; an
iteration closes the gap of delay between paths `i` and `i + 1`. -/
def closeGaps (shares : List Share) :
    List Share → List Share → ℚ → Volumes → Option (ℚ × Volumes)
  | a :: done, b :: todo, volume, vols =>
    let bdwSum := ((a :: done).map (·.2.1)).sum
    let owdGap := b.2.2 - a.2.2
    if owdGap ≠ 0 then
      let gap := owdGap * bdwSum
      if volume > gap then do
        let (volume, vols) ← topUp shares owdGap (a :: done) volume vols
        checkTimes vols shares
        closeGaps shares (b :: a :: done) todo volume vols
      else do
        let (cutted, vols) ← cutVolume volume bdwSum (a :: done) 0 vols
        let volume := volume - cutted
        if volume ≤ 0 then do
          -- `break`: the loop over the paths ends here
          checkTimes vols shares
          pure (volume, vols)
        else do
          checkTimes vols shares
          closeGaps shares (b :: a :: done) todo volume vols
    else some (volume, vols)
  | _, _, volume, vols => some (volume, vols)

/-- Step 3: what volume is left is spread over the available paths in proportion to their
bandwidths, `all` being their sum. -/
def distributeRest (volume all : ℚ) : List Share → Volumes → Option Volumes
  | [], vols => some vols
  | s :: rest, vols => do
    let restShare ← divide (volume * s.2.1) all
    distributeRest volume all rest (vols.add s.1 restShare)

/-- The last loop: the completion times once more, and the paths left with some volume, the volume
in bytes. -/
def selectPaths (shares : List Share) (vols : Volumes) : Option (List (PathID × ℚ)) := do
  checkTimes vols shares
  pure ((shares.filter fun s => decide (0 < vols s.1)).map fun s => (s.1, vols s.1 / 8))

/-- Steps 1 to 3 and the selection, for `volume` bits over the paths of `shares`. -/
def splitVolume (shares : List Share) (volume : ℚ) : Option (List (PathID × ℚ)) := do
  let (volume, vols) ← match sortByDelay shares with
    | [] => some (volume, (fun _ => 0 : Volumes))
    | a :: todo => closeGaps shares [a] todo volume fun _ => 0
  let vols ← if volume > 0 then distributeRest volume (shares.map (·.2.1)).sum shares vols
    else some vols
  selectPaths shares vols

/-- The size detection at the top of `choosePaths`: a stream of unknown size takes the length of
its data for writing, and its size is known from then on unless that is 0. -/
def detectSize (stream : StreamSize) : StreamSize :=
  if stream.checksize then stream
  else if stream.lenOfDataForWriting ≠ 0 then
    { stream with size := stream.lenOfDataForWriting, checksize := true }
  else { stream with size := stream.lenOfDataForWriting }

/-- `avalPaths`: the paths `choosePaths` splits over, in the order of `s.paths`. -/
def availablePaths (paths : Paths) : List (PathID × PathStats) :=
  (paths.entries.map fun e => (e.1, e.2)).filter fun e => eligible (e.1, e.2.toPathInfo)

/-- `choosePaths(s, strID, priority)`: the stream as it leaves it, and `selectedPaths`, the volume
in bytes put on each chosen path; nil is the empty list. -/
def choosePaths (paths : Paths) (weightOf : StreamID → Option UInt8) (stream : StreamSize)
    (priority : UInt8) : Except Fault (StreamSize × List (PathID × ℚ)) :=
  let stream := detectSize stream
  if !stream.checksize then .ok (stream, [])
  else if paths.entries.length ≤ 1 then
    match paths.lookup InitialPathID with
    | none => .error .nilDereference
    | some pth =>
      if !pth.sendingAllowed then .ok (stream, [])
      else .ok (stream, [(InitialPathID, (stream.size.toNat : ℚ))])
  else do
    let shares ← pathShares weightOf priority (availablePaths paths)
    let selected ← orFault .divisionByZero (splitVolume shares (stream.size.toNat * 8))
    pure (stream, selected)

/-! ## The shares -/

@[simp] theorem orFault_none {α : Type} (f : Fault) : orFault f (none : Option α) = .error f := rfl

@[simp] theorem orFault_some {α : Type} (f : Fault) (a : α) : orFault f (some a) = .ok a := rfl

/-- With every stream on the path in the map, the weights add up, to at least nothing. -/
theorem prioritySum_eq_some {weightOf : StreamID → Option UInt8} :
    ∀ {sids : List StreamID}, (∀ sid ∈ sids, (weightOf sid).isSome) →
      ∃ sum, prioritySum weightOf sids = some sum ∧ 0 ≤ sum
  | [], _ => ⟨0, rfl, le_refl 0⟩
  | sid :: sids, h => by
    obtain ⟨rest, hrest, hnonneg⟩ :=
      prioritySum_eq_some fun s hs => h s (List.mem_cons_of_mem sid hs)
    by_cases hsid : sid = 1 ∨ sid = 3
    · exact ⟨rest, by rw [prioritySum, if_pos hsid, hrest], hnonneg⟩
    · obtain ⟨w, hw⟩ := Option.isSome_iff_exists.mp (h sid List.mem_cons_self)
      refine ⟨w.toNat + rest, ?_, by positivity⟩
      rw [prioritySum, if_neg hsid, hw, hrest]
      rfl

/-- Of weight 0, a path's share is 0, but when no stream weighs on the path: then it is `0 / 0`. -/
theorem sharedBandwidth_zero (sum : ℚ) (pth : PathStats) :
    sharedBandwidth 0 sum pth = if sum = 0 then none else some 0 := by
  by_cases h : sum = 0 <;> simp [sharedBandwidth, divide, h]

/-- Of a positive weight, against weights of at least nothing, a path of some bandwidth has a
share of some bandwidth. -/
theorem sharedBandwidth_pos {priority : UInt8} {sum : ℚ} {pth : PathStats} (hw : 0 < priority)
    (hsum : 0 ≤ sum) (hb : 0 < pth.bdwStats.GetBandwidth) :
    ∃ b, sharedBandwidth priority sum pth = some b ∧ 0 < b := by
  have hw' : (0 : ℚ) < priority.toNat := by exact_mod_cast UInt8.lt_iff_toNat_lt.mp hw
  have hb' : (0 : ℚ) < pth.bdwStats.GetBandwidth.toNat := by
    exact_mod_cast UInt64.lt_iff_toNat_lt.mp hb
  have hden : (priority.toNat : ℚ) + sum ≠ 0 := by positivity
  refine ⟨priority.toNat / (priority.toNat + sum) * pth.bdwStats.GetBandwidth.toNat * 1048576,
    ?_, by positivity⟩
  simp [sharedBandwidth, divide, hden]

/-- Of weight 0, a path's share is 0 or a division by zero. -/
theorem pathShare_zero {weightOf : StreamID → Option UInt8} {e : PathID × PathStats}
    (hweights : ∀ sid ∈ e.2.streamIDs, (weightOf sid).isSome) :
    pathShare weightOf 0 e = .error .divisionByZero ∨
      pathShare weightOf 0 e = .ok (e.1, 0, oneWayDelay e.2) := by
  obtain ⟨sum, hsum, -⟩ := prioritySum_eq_some hweights
  by_cases h0 : sum = 0
  · exact .inl (by simp [pathShare, hsum, sharedBandwidth_zero, h0, bind, Except.bind])
  · exact .inr (by simp [pathShare, hsum, sharedBandwidth_zero, h0, bind, Except.bind, pure,
      Except.pure])

/-- Of a positive weight, a path of some bandwidth has a share of some bandwidth. -/
theorem pathShare_pos {weightOf : StreamID → Option UInt8} {priority : UInt8}
    {e : PathID × PathStats} (hw : 0 < priority)
    (hweights : ∀ sid ∈ e.2.streamIDs, (weightOf sid).isSome)
    (hb : 0 < e.2.bdwStats.GetBandwidth) :
    ∃ b, 0 < b ∧ pathShare weightOf priority e = .ok (e.1, b, oneWayDelay e.2) := by
  obtain ⟨sum, hsum, hnonneg⟩ := prioritySum_eq_some hweights
  obtain ⟨b, hb', hpos⟩ := sharedBandwidth_pos hw hnonneg hb
  exact ⟨b, hpos, by simp [pathShare, hsum, hb', bind, Except.bind, pure, Except.pure]⟩

/-- Delays compare as the smoothed RTTs they are half of. -/
theorem oneWayDelay_le_oneWayDelay {pth pth' : PathStats} :
    oneWayDelay pth ≤ oneWayDelay pth' ↔ pth.smoothedRTT ≤ pth'.smoothedRTT := by
  rw [oneWayDelay, oneWayDelay, div_le_div_iff_of_pos_right two_pos,
    div_le_div_iff_of_pos_right (by norm_num), Nat.cast_le]

/-- The loop over the paths, when no iteration fails: the shares of the iterations, in order. -/
theorem pathShares_eq_ok {weightOf : StreamID → Option UInt8} {priority : UInt8} :
    ∀ {l : List (PathID × PathStats)}, (∀ e ∈ l, ∃ s, pathShare weightOf priority e = .ok s) →
      pathShares weightOf priority l =
        .ok (l.filterMap fun e => (pathShare weightOf priority e).toOption)
  | [], _ => rfl
  | e :: l, h => by
    obtain ⟨s, hs⟩ := h e List.mem_cons_self
    rw [pathShares, hs, pathShares_eq_ok fun e' he' => h e' (List.mem_cons_of_mem e he'),
      List.filterMap_cons, hs]
    rfl

/-- The loop over the paths fails as its first failing iteration does. -/
theorem pathShares_cases {weightOf : StreamID → Option UInt8} {priority : UInt8} {f : Fault} :
    ∀ {l : List (PathID × PathStats)},
      (∀ e ∈ l, pathShare weightOf priority e = .error f ∨
        ∃ s, pathShare weightOf priority e = .ok s) →
      pathShares weightOf priority l = .error f ∨
        ∀ e ∈ l, ∃ s, pathShare weightOf priority e = .ok s
  | [], _ => .inr fun _ h => absurd h List.not_mem_nil
  | e :: l, h => by
    rcases h e List.mem_cons_self with he | ⟨s, hs⟩
    · exact .inl (by rw [pathShares, he]; rfl)
    rcases pathShares_cases fun e' he' => h e' (List.mem_cons_of_mem e he') with hl | hall
    · exact .inl (by rw [pathShares, hs, hl]; rfl)
    · exact .inr (List.forall_mem_cons.mpr ⟨⟨s, hs⟩, hall⟩)

/-- Of a positive weight, over paths of some bandwidth, every path has a share of some bandwidth,
with its own delay. -/
theorem pathShares_pos {weightOf : StreamID → Option UInt8} {priority : UInt8} (hw : 0 < priority)
    {l : List (PathID × PathStats)} (hweights : ∀ e ∈ l, ∀ sid ∈ e.2.streamIDs, (weightOf sid).isSome)
    (hb : ∀ e ∈ l, 0 < e.2.bdwStats.GetBandwidth) :
    ∃ bdw : PathID × PathStats → ℚ, (∀ e ∈ l, 0 < bdw e) ∧
      pathShares weightOf priority l = .ok (l.map fun e => (e.1, bdw e, oneWayDelay e.2)) := by
  -- the bandwidth each iteration sets
  let bdw e := ((pathShare weightOf priority e).toOption.map (·.2.1)).getD 0
  have hshare : ∀ e ∈ l,
      pathShare weightOf priority e = .ok (e.1, bdw e, oneWayDelay e.2) ∧ 0 < bdw e := by
    intro e he
    obtain ⟨b, hpos, hs⟩ := pathShare_pos hw (hweights e he) (hb e he)
    have hbdw : bdw e = b := by simp [bdw, hs, Except.toOption]
    rw [hbdw]
    exact ⟨hs, hpos⟩
  refine ⟨bdw, fun e he => (hshare e he).2, ?_⟩
  rw [pathShares_eq_ok fun e he => ⟨_, (hshare e he).1⟩, ← List.filterMap_eq_map]
  exact congrArg Except.ok (List.filterMap_congr fun e he => by rw [(hshare e he).1]; rfl)

/-! ## The split -/

/-- The completion times divide by every share, and only fail on a share of no bandwidth. -/
theorem checkTimes_eq_some_iff {vols : Volumes} :
    ∀ {shares : List Share}, checkTimes vols shares = some () ↔ ∀ s ∈ shares, s.2.1 ≠ 0
  | [] => by simp [checkTimes]
  | s :: shares => by
    rw [checkTimes, List.forall_mem_cons, ← @checkTimes_eq_some_iff vols shares]
    by_cases h : s.2.1 = 0 <;> simp [divide, h]

theorem checkTimes_eq_none {vols : Volumes} {shares : List Share} (h : ∃ s ∈ shares, s.2.1 = 0) :
    checkTimes vols shares = none := by
  cases hc : checkTimes vols shares with
  | none => rfl
  | some u =>
    obtain ⟨s, hs, h0⟩ := h
    exact absurd h0 (checkTimes_eq_some_iff.mp hc s hs)

/-- Whatever Steps 2 and 3 do, a share of no bandwidth makes the last loop divide by zero. -/
theorem splitVolume_eq_none {shares : List Share} (volume : ℚ) (h : ∃ s ∈ shares, s.2.1 = 0) :
    splitVolume shares volume = none := by
  simp only [splitVolume, selectPaths, checkTimes_eq_none h, Option.bind_eq_bind,
    Option.bind_none, ite_self, Option.bind_fun_none]
  split <;> rfl

/-- Step 2 does nothing when its first two paths have the same delay. -/
theorem closeGaps_tie (shares : List Share) {a b : Share} (todo : List Share) (volume : ℚ)
    (vols : Volumes) (h : a.2.2 = b.2.2) :
    closeGaps shares [a] (b :: todo) volume vols = some (volume, vols) := by
  simp [closeGaps, h]

/-- Step 3 adds to each path its part of `volume`, in proportion to its bandwidth, and leaves
every other path alone. -/
theorem distributeRest_spec {volume all : ℚ} (hall : all ≠ 0) :
    ∀ {l : List Share} {vols : Volumes}, (l.map Prod.fst).Nodup →
      ∃ v, distributeRest volume all l vols = some v ∧
        (∀ s ∈ l, v s.1 = vols s.1 + volume * s.2.1 / all) ∧
        ∀ pathID ∉ l.map Prod.fst, v pathID = vols pathID
  | [], vols, _ => ⟨vols, rfl, fun _ h => absurd h List.not_mem_nil, fun _ _ => rfl⟩
  | s :: rest, vols, hnd => by
    rw [List.map_cons, List.nodup_cons] at hnd
    obtain ⟨v, hv, hmem, hframe⟩ :=
      @distributeRest_spec volume all hall rest (vols.add s.1 (volume * s.2.1 / all)) hnd.2
    refine ⟨v, by rw [distributeRest, divide, if_neg hall]; exact hv, ?_, ?_⟩
    · intro s' hs'
      rcases List.mem_cons.mp hs' with rfl | hs'
      · rw [hframe _ hnd.1, Volumes.add, Function.update_self]
      · have hne : s'.1 ≠ s.1 := fun he => hnd.1 (he ▸ List.mem_map_of_mem hs')
        rw [hmem s' hs', Volumes.add, Function.update_of_ne hne]
    · intro pathID hpathID
      rw [List.map_cons, List.mem_cons, not_or] at hpathID
      rw [hframe pathID hpathID.2, Volumes.add, Function.update_of_ne hpathID.1]

/-- The selection once every path has some bandwidth and some volume: all of them, each with its
volume in bytes. -/
theorem selectPaths_of_pos {shares : List Share} {vols : Volumes} (hb : ∀ s ∈ shares, s.2.1 ≠ 0)
    (hv : ∀ s ∈ shares, 0 < vols s.1) :
    selectPaths shares vols = some (shares.map fun s => (s.1, vols s.1 / 8)) := by
  rw [selectPaths, checkTimes_eq_some_iff.mpr hb, List.filter_eq_self.mpr fun s hs => by simpa using hv s hs]
  rfl

/-- In a list sorted by a key, when two entries share the least key, the first two entries do. -/
theorem key_eq_of_pairwise {α β : Type} [LinearOrder β] (key : α → β) {a b : α} {rest : List α}
    (hs : (a :: b :: rest).Pairwise fun u v => key u ≤ key v) {x y : α}
    (hx : x ∈ a :: b :: rest) (hy : y ∈ a :: b :: rest) (hxy : x ≠ y) (hkey : key x = key y)
    (hmin : ∀ e ∈ a :: b :: rest, key x ≤ key e) : key a = key b := by
  have hab : key a ≤ key b := List.rel_of_pairwise_cons hs List.mem_cons_self
  -- one of the two is past the head
  obtain ⟨z, hz, hzx⟩ : ∃ z ∈ b :: rest, key z = key x := by
    rcases List.mem_cons.mp hx with rfl | hx'
    · rcases List.mem_cons.mp hy with rfl | hy'
      · exact absurd rfl hxy
      · exact ⟨y, hy', hkey.symm⟩
    · exact ⟨x, hx', rfl⟩
  have hbz : key b ≤ key z := by
    rcases List.mem_cons.mp hz with rfl | hz'
    · exact le_refl _
    · exact List.rel_of_pairwise_cons (List.pairwise_cons.mp hs).2 hz'
  exact le_antisymm hab (le_trans (hzx ▸ hbz) (hmin a List.mem_cons_self))

/-- When two paths share the least delay, the sort puts two paths of equal delay first. -/
theorem sortByDelay_tie {shares : List Share} {x y : Share} (hx : x ∈ shares) (hy : y ∈ shares)
    (hxy : x ≠ y) (hkey : x.2.2 = y.2.2) (hmin : ∀ e ∈ shares, x.2.2 ≤ e.2.2) :
    ∃ a b rest, sortByDelay shares = a :: b :: rest ∧ a.2.2 = b.2.2 := by
  have hperm := List.mergeSort_perm shares fun a b : Share => decide (a.2.2 ≤ b.2.2)
  have hsorted := @List.pairwise_mergeSort Share (fun a b => decide (a.2.2 ≤ b.2.2))
    (fun a b c hab hbc => by simp only [decide_eq_true_eq] at hab hbc ⊢; exact le_trans hab hbc)
    (fun a b => by simpa using le_total a.2.2 b.2.2) shares
  rw [← sortByDelay] at hperm hsorted
  have hx' := hperm.mem_iff.mpr hx
  have hy' := hperm.mem_iff.mpr hy
  match hs : sortByDelay shares, hx', hy', hsorted with
  | [], hx', _, _ => exact absurd hx' List.not_mem_nil
  | [a], hx', hy', _ =>
    rw [List.mem_singleton] at hx' hy'
    exact absurd (hx'.trans hy'.symm) hxy
  | a :: b :: rest, hx', hy', hsorted =>
    refine ⟨a, b, rest, rfl, key_eq_of_pairwise (fun s : Share => s.2.2)
      (hsorted.imp fun h => of_decide_eq_true h) hx' hy' hxy hkey fun e he => hmin e ?_⟩
    rw [← hs] at he
    exact hperm.mem_iff.mp he

/-- When the two fastest paths tie, Step 2 leaves all the volume to Step 3, which spreads it
over every path in proportion to its bandwidth. -/
theorem splitVolume_tie {shares : List Share} {volume : ℚ} {a b : Share} {rest : List Share}
    (hsort : sortByDelay shares = a :: b :: rest) (htie : a.2.2 = b.2.2) (hvol : 0 < volume)
    (hpos : ∀ s ∈ shares, 0 < s.2.1) (hnd : (shares.map Prod.fst).Nodup) :
    splitVolume shares volume =
      some (shares.map fun s => (s.1, volume * s.2.1 / (shares.map (·.2.1)).sum / 8)) := by
  have ha : a ∈ shares := (List.mergeSort_perm shares _).mem_iff.mp (by
    rw [← sortByDelay, hsort]
    exact List.mem_cons_self)
  have hall : 0 < (shares.map (·.2.1)).sum :=
    List.sum_pos _ (fun x hx => by
      obtain ⟨s, hs, rfl⟩ := List.mem_map.mp hx
      exact hpos s hs) (by simpa using List.ne_nil_of_mem ha)
  obtain ⟨v, hv, hmem, -⟩ := @distributeRest_spec volume _ hall.ne' shares (fun _ => 0) hnd
  have hv' : ∀ s ∈ shares, v s.1 = volume * s.2.1 / (shares.map (·.2.1)).sum := by
    intro s hs
    rw [hmem s hs, zero_add]
  have hvpos : ∀ s ∈ shares, 0 < v s.1 := by
    intro s hs
    have := hpos s hs
    rw [hv' s hs]
    positivity
  rw [splitVolume, hsort]
  simp only [closeGaps_tie shares rest volume _ htie, Option.bind_eq_bind, Option.bind_some,
    if_pos hvol, hv, selectPaths_of_pos (fun s hs => (hpos s hs).ne') hvpos]
  exact congrArg some (List.map_congr_left fun s hs => by rw [hv' s hs])

/-! ## What the split is for -/

/-- The volume `selected` puts on a path. -/
def volumeOf (selected : List (PathID × ℚ)) (pathID : PathID) : ℚ :=
  (selected.lookup pathID).getD 0

/-- The split the water-filling aims at, of `S` bytes over the paths of `shares`: volumes of at
least nothing that add up to `S`, and a time `T` at which every path with some volume finishes,
at its bandwidth `B` and delay `D`, and before which no path left out could deliver anything. -/
structure IsWaterFilling (shares : List Share) (S : ℚ) (vol : PathID → ℚ) : Prop where
  nonneg : ∀ s ∈ shares, 0 ≤ vol s.1
  sum_eq : (shares.map fun s => vol s.1).sum = S
  finish : ∃ T : ℚ, ∀ s ∈ shares,
    (0 < vol s.1 → 8 * vol s.1 / s.2.1 + s.2.2 = T) ∧ (vol s.1 = 0 → T ≤ s.2.2)

/-- The volume a selection of distinct paths puts on one of them. -/
theorem volumeOf_map (f : Share → ℚ) :
    ∀ {shares : List Share}, (shares.map Prod.fst).Nodup →
      ∀ s ∈ shares, volumeOf (shares.map fun s => (s.1, f s)) s.1 = f s
  | [], _, _, hs => absurd hs List.not_mem_nil
  | s' :: rest, hnd, s, hs => by
    rw [List.map_cons, List.nodup_cons] at hnd
    rcases List.mem_cons.mp hs with rfl | hs'
    · simp [volumeOf]
    · have hne : s.1 ≠ s'.1 := fun he => hnd.1 (he ▸ List.mem_map_of_mem hs')
      rw [← volumeOf_map f hnd.2 s hs']
      simp only [volumeOf, List.map_cons, List.lookup_cons, beq_false_of_ne hne]

/-- A split in proportion to bandwidth finishes every path `8 * c` after its delay, so it is no
water-filling over two paths of different delays. -/
theorem not_isWaterFilling_of_proportional {shares : List Share} {S c : ℚ} {vol : PathID → ℚ}
    (hc : 0 < c) (hpos : ∀ s ∈ shares, 0 < s.2.1) (hvol : ∀ s ∈ shares, vol s.1 = c * s.2.1)
    {sp sr : Share} (hp : sp ∈ shares) (hr : sr ∈ shares) (hd : sp.2.2 ≠ sr.2.2) :
    ¬ IsWaterFilling shares S vol := by
  rintro ⟨-, -, T, hT⟩
  have htime : ∀ s ∈ shares, 8 * c + s.2.2 = T := by
    intro s hs
    have hb := hpos s hs
    have h := (hT s hs).1 (by rw [hvol s hs]; positivity)
    rwa [hvol s hs, ← mul_assoc, mul_div_cancel_right₀ _ hb.ne'] at h
  exact hd (by linarith [htime sp hp, htime sr hr])

/-! ## Splitting a stream -/

/-- The identifiers of the available paths are those of distinct map entries. -/
theorem nodup_availablePaths (paths : Paths) : ((availablePaths paths).map Prod.fst).Nodup := by
  have hkeys : (paths.entries.map fun e => (e.1, e.2)).map Prod.fst = paths.entries.keys := by
    simp [List.keys]
  refine (List.filter_sublist.map Prod.fst).nodup ?_
  rw [hkeys]
  exact paths.nodupKeys

/-- With two available paths, `choosePaths` of a stream of known size takes the multipath branch:
the shares, then the split. -/
theorem choosePaths_of_available {paths : Paths} {weightOf : StreamID → Option UInt8}
    {stream : StreamSize} (priority : UInt8) (hdet : (detectSize stream).checksize = true)
    (h2 : 2 ≤ (availablePaths paths).length) :
    choosePaths paths weightOf stream priority = (do
      let shares ← pathShares weightOf priority (availablePaths paths)
      let selected ← orFault .divisionByZero
        (splitVolume shares ((detectSize stream).size.toNat * 8))
      pure (detectSize stream, selected)) := by
  have hlen : ¬ paths.entries.length ≤ 1 := by
    have : (availablePaths paths).length ≤ paths.entries.length :=
      (List.length_filter_le _ _).trans (List.length_map ..).le
    omega
  simp only [choosePaths, hdet, Bool.not_true, Bool.false_eq_true, if_false, if_neg hlen]

theorem choosePaths_of_shares {paths : Paths} {weightOf : StreamID → Option UInt8}
    {stream : StreamSize} (priority : UInt8) (hdet : (detectSize stream).checksize = true)
    (h2 : 2 ≤ (availablePaths paths).length) {shares : List Share}
    (hs : pathShares weightOf priority (availablePaths paths) = .ok shares) :
    choosePaths paths weightOf stream priority =
      (orFault .divisionByZero (splitVolume shares ((detectSize stream).size.toNat * 8))).map
        fun selected => (detectSize stream, selected) := by
  rw [choosePaths_of_available priority hdet h2, hs]
  show (orFault .divisionByZero (splitVolume shares _) >>= fun selected =>
    pure (detectSize stream, selected)) = _
  cases splitVolume shares ((detectSize stream).size.toNat * 8) <;> rfl

/-- A stream of weight 0 divides by zero: a path that carries no weighted stream has the share
`0 / 0`, and otherwise every share is 0, which the completion times divide by. -/
theorem choosePaths_zero_weight {paths : Paths} {weightOf : StreamID → Option UInt8}
    {stream : StreamSize} (hdet : (detectSize stream).checksize = true)
    (h2 : 2 ≤ (availablePaths paths).length)
    (hweights : ∀ e ∈ availablePaths paths, ∀ sid ∈ e.2.streamIDs, (weightOf sid).isSome) :
    choosePaths paths weightOf stream 0 = .error .divisionByZero := by
  rcases pathShares_cases (f := .divisionByZero)
      fun e he => (pathShare_zero (hweights e he)).imp_right fun h => ⟨_, h⟩ with hs | hall
  · rw [choosePaths_of_available 0 hdet h2, hs]
    rfl
  -- no share failed, so all of them are 0, and there is one
  obtain ⟨e, he⟩ := List.exists_mem_of_length_pos (by omega : 0 < (availablePaths paths).length)
  have hshare : pathShare weightOf 0 e = .ok (e.1, 0, oneWayDelay e.2) := by
    rcases pathShare_zero (hweights e he) with h | h
    · obtain ⟨s, hs⟩ := hall e he
      rw [h] at hs
      cases hs
    · exact h
  have hmem : (e.1, 0, oneWayDelay e.2) ∈
      (availablePaths paths).filterMap fun e => (pathShare weightOf 0 e).toOption :=
    List.mem_filterMap.mpr ⟨e, he, by rw [hshare]; rfl⟩
  rw [choosePaths_of_shares 0 hdet h2 (pathShares_eq_ok hall), splitVolume_eq_none _ ⟨_, hmem, rfl⟩]
  rfl

/-- When the two fastest paths tie, a stream of positive weight is split in proportion to
bandwidth over every path, the slower ones included, and so no water-filling. -/
theorem choosePaths_tie {paths : Paths} {weightOf : StreamID → Option UInt8} {stream : StreamSize}
    {priority : UInt8} (hdet : (detectSize stream).checksize = true)
    (h2 : 2 ≤ (availablePaths paths).length)
    (hweights : ∀ e ∈ availablePaths paths, ∀ sid ∈ e.2.streamIDs, (weightOf sid).isSome)
    (hw : 0 < priority) (hS : 0 < (detectSize stream).size)
    (hb : ∀ e ∈ availablePaths paths, 0 < e.2.bdwStats.GetBandwidth)
    (htie : ∃ p ∈ availablePaths paths, ∃ q ∈ availablePaths paths, ∃ r ∈ availablePaths paths,
      p.1 ≠ q.1 ∧ p.2.smoothedRTT = q.2.smoothedRTT ∧ p.2.smoothedRTT < r.2.smoothedRTT ∧
      ∀ e ∈ availablePaths paths, p.2.smoothedRTT ≤ e.2.smoothedRTT) :
    ∃ shares selected, pathShares weightOf priority (availablePaths paths) = .ok shares ∧
      choosePaths paths weightOf stream priority = .ok (detectSize stream, selected) ∧
      ¬ IsWaterFilling shares (detectSize stream).size.toNat (volumeOf selected) := by
  obtain ⟨p, hp, q, hq, r, hr, hpq, hpq', hpr, hmin⟩ := htie
  obtain ⟨bdw, hpos, hs⟩ := pathShares_pos hw hweights hb
  generalize hshares : (availablePaths paths).map (fun e => (e.1, bdw e, oneWayDelay e.2)) = shares
    at hs
  have hmem : ∀ e ∈ availablePaths paths, (e.1, bdw e, oneWayDelay e.2) ∈ shares :=
    fun e he => hshares ▸ List.mem_map_of_mem he
  have hmem' : ∀ s ∈ shares, ∃ e ∈ availablePaths paths, s = (e.1, bdw e, oneWayDelay e.2) := by
    intro s hs
    rw [← hshares] at hs
    obtain ⟨e, he, rfl⟩ := List.mem_map.mp hs
    exact ⟨e, he, rfl⟩
  have hpos' : ∀ s ∈ shares, 0 < s.2.1 := by
    intro s hs
    obtain ⟨e, he, rfl⟩ := hmem' s hs
    exact hpos e he
  have hnd : (shares.map Prod.fst).Nodup := by
    rw [← hshares, List.map_map]
    exact nodup_availablePaths paths
  -- the first two paths of the sort have the delay of `p` and `q`
  obtain ⟨a, b, rest, hsort, htie⟩ := sortByDelay_tie (hmem p hp) (hmem q hq)
    (fun h => hpq (Prod.mk.inj h).1) (by simp [oneWayDelay, hpq'])
    (fun s hs => by
      obtain ⟨e, he, rfl⟩ := hmem' s hs
      exact oneWayDelay_le_oneWayDelay.mpr (hmin e he))
  have hvol : (0 : ℚ) < (detectSize stream).size.toNat * 8 := by
    have : 0 < (detectSize stream).size.toNat := UInt64.lt_iff_toNat_lt.mp hS
    positivity
  have hsum : 0 < (shares.map (·.2.1)).sum := List.sum_pos _ (fun x hx => by
      obtain ⟨s, hs, rfl⟩ := List.mem_map.mp hx
      exact hpos' s hs) (List.map_eq_nil_iff.not.mpr (List.ne_nil_of_mem (hmem p hp)))
  refine ⟨shares, shares.map fun s =>
      (s.1, (detectSize stream).size.toNat * 8 * s.2.1 / (shares.map (·.2.1)).sum / 8), hs, ?_, ?_⟩
  · rw [choosePaths_of_shares priority hdet h2 hs, splitVolume_tie hsort htie hvol hpos' hnd]
    rfl
  -- `r` is slower than `p`, and both carry some of the stream
  exact not_isWaterFilling_of_proportional
    (c := (detectSize stream).size.toNat * 8 / (shares.map (·.2.1)).sum / 8) (by positivity) hpos'
    (fun s hs => by rw [volumeOf_map _ hnd s hs]; ring) (hmem p hp) (hmem r hr)
    fun h => not_le.mpr hpr (oneWayDelay_le_oneWayDelay.mp h.ge)

theorem choosePaths_not_waterFilling {paths : Paths} {weightOf : StreamID → Option UInt8}
    {stream : StreamSize} (hdet : (detectSize stream).checksize = true)
    (h2 : 2 ≤ (availablePaths paths).length)
    (hweights : ∀ e ∈ availablePaths paths, ∀ sid ∈ e.2.streamIDs, (weightOf sid).isSome) :
    choosePaths paths weightOf stream 0 = .error .divisionByZero ∧
      ∀ priority : UInt8, 0 < priority → 0 < (detectSize stream).size →
        (∀ e ∈ availablePaths paths, 0 < e.2.bdwStats.GetBandwidth) →
        (∃ p ∈ availablePaths paths, ∃ q ∈ availablePaths paths, ∃ r ∈ availablePaths paths,
          p.1 ≠ q.1 ∧ p.2.smoothedRTT = q.2.smoothedRTT ∧ p.2.smoothedRTT < r.2.smoothedRTT ∧
          ∀ e ∈ availablePaths paths, p.2.smoothedRTT ≤ e.2.smoothedRTT) →
        ∃ shares selected, pathShares weightOf priority (availablePaths paths) = .ok shares ∧
          choosePaths paths weightOf stream priority = .ok (detectSize stream, selected) ∧
          ¬ IsWaterFilling shares (detectSize stream).size.toNat (volumeOf selected) :=
  ⟨choosePaths_zero_weight hdet h2 hweights,
    fun _ hw hS hb htie => choosePaths_tie hdet h2 hweights hw hS hb htie⟩

/-- Three paths of 10 units of bandwidth, two of them of RTT 20 ms and one of 40 ms, with no
stream on them yet, and a stream of 3000 bytes: of weight 0 it divides by zero, and of weight 15
it is no water-filling. -/
theorem choosePaths_not_waterFilling_tiedPaths :
    let pth : Nat → PathStats := fun rtt => ⟨⟨true, false, rtt⟩, [], ⟨10 * 1048576⟩⟩
    let paths : Paths :=
      (((∅ : Paths).insert 3 (pth 40000000)).insert 2 (pth 20000000)).insert 1 (pth 20000000)
    let stream : StreamSize := ⟨false, 0, 3000⟩
    choosePaths paths (fun _ => some 15) stream 0 = .error .divisionByZero ∧
      ∃ shares selected, pathShares (fun _ => some 15) 15 (availablePaths paths) = .ok shares ∧
        choosePaths paths (fun _ => some 15) stream 15 = .ok (detectSize stream, selected) ∧
        ¬ IsWaterFilling shares (detectSize stream).size.toNat (volumeOf selected) := by
  intro pth paths stream
  have h := @choosePaths_not_waterFilling paths (fun _ => some 15) stream (by decide) (by decide)
    fun _ _ _ _ => rfl
  exact ⟨h.1, h.2 15 (by decide) (by decide) (by decide) (by decide)⟩

end Scheduler
end PStream
