import Mathlib.Order.Lattice
import Mathlib.Data.List.Perm.Basic

/-!
# Running minima

A single pass over a list that keeps the best candidate seen so far: an eligible candidate takes
the place of the current best when a rule `replace` says so.  When `replace` never prefers a
candidate with a larger key and never keeps a best with a larger key, the pass ends on an
eligible candidate of least key (`key_run_le`).  It ends on nothing exactly when nothing is
eligible (`run_eq_none_iff`).  Ties may go either way, but the key of the result is the same for
every order of the list (`key_run_perm`).

A loop that keeps more than the best candidate (the best key so far, an identifier of the best)
is related to `run` by `foldl_sim`: an abstraction of its state that commutes with one step, under
an invariant the step keeps, commutes with the whole loop.
-/

set_option autoImplicit false

namespace RunningMin

/-! ## Simulating a loop -/

/-- A step of a loop that, under an invariant it keeps, maps to a step of another loop maps the
whole loop to the other. -/
theorem foldl_sim {σ τ α : Type*} (g : σ → α → σ) (h : τ → α → τ) (abs : σ → τ) (Inv : σ → Prop)
    (hstep : ∀ s a, Inv s → Inv (g s a) ∧ abs (g s a) = h (abs s) a) :
    ∀ (l : List α) (s : σ), Inv s → Inv (l.foldl g s) ∧ abs (l.foldl g s) = l.foldl h (abs s)
  | [], _, hs => ⟨hs, rfl⟩
  | a :: l, s, hs => by
    obtain ⟨hs', habs⟩ := hstep s a hs
    rw [List.foldl_cons, List.foldl_cons, ← habs]
    exact foldl_sim g h abs Inv hstep l _ hs'

variable {α β : Type*} (elig : α → Bool) (replace : α → α → Bool)

/-! ## The pass -/

/-- One candidate: an eligible `a` becomes the best when there is none yet, or when `replace a b`
prefers it to the best `b`. -/
def step (best : Option α) (a : α) : Option α :=
  if elig a then
    match best with
    | none => some a
    | some b => if replace a b then some a else some b
  else best

/-- The pass over `l`, from the best `best`. -/
def run (best : Option α) (l : List α) : Option α := l.foldl (step elig replace) best

theorem step_of_not_elig {a : α} (ha : elig a = false) (best : Option α) :
    step elig replace best a = best := by
  unfold step
  rw [if_neg (by rw [ha]; exact Bool.false_ne_true)]

theorem step_none {a : α} (ha : elig a = true) : step elig replace none a = some a := by
  unfold step
  rw [if_pos ha]

theorem step_some {a : α} (ha : elig a = true) (b : α) :
    step elig replace (some b) a = if replace a b then some a else some b := by
  unfold step
  rw [if_pos ha]

@[simp] theorem run_nil (best : Option α) : run elig replace best [] = best := rfl

@[simp] theorem run_cons (best : Option α) (a : α) (l : List α) :
    run elig replace best (a :: l) = run elig replace (step elig replace best a) l := rfl

/-- What `step` may return: its best, or its eligible candidate. -/
theorem step_cases (best : Option α) (a : α) :
    step elig replace best a = best ∨ (elig a = true ∧ step elig replace best a = some a) := by
  unfold step
  cases ha : elig a
  · exact .inl rfl
  · cases best with
    | none => exact .inr ⟨rfl, rfl⟩
    | some b =>
      by_cases hr : replace a b
      · exact .inr ⟨rfl, by simp [hr]⟩
      · exact .inl (by simp [hr])

/-- A step from a best keeps one. -/
theorem step_some_isSome (b a : α) : (step elig replace (some b) a).isSome := by
  simp only [step]
  split_ifs <;> rfl

/-- Once there is a best, the pass keeps one. -/
theorem run_some_isSome : ∀ (l : List α) (b : α), (run elig replace (some b) l).isSome
  | [], _ => rfl
  | a :: l, b => by
    obtain ⟨b', hb'⟩ := Option.isSome_iff_exists.mp (step_some_isSome elig replace b a)
    rw [run_cons, hb']
    exact run_some_isSome l b'

/-- A pass from nothing ends on nothing exactly when no candidate is eligible. -/
theorem run_eq_none_iff : ∀ (l : List α),
    run elig replace none l = none ↔ ∀ a ∈ l, elig a = false
  | [] => by simp
  | a :: l => by
    rw [run_cons, List.forall_mem_cons]
    cases ha : elig a
    · have hstep : step elig replace none a = none := step_of_not_elig elig replace ha none
      rw [hstep, run_eq_none_iff l]
      simp
    · have hstep : step elig replace none a = some a := step_none elig replace ha
      rw [hstep]
      simp only [Bool.true_eq_false, false_and, iff_false]
      exact Option.isSome_iff_ne_none.mp (run_some_isSome elig replace l a)

/-- The result of a pass is its starting best or an eligible candidate of the list. -/
theorem run_mem : ∀ (l : List α) (best : Option α) (r : α), run elig replace best l = some r →
    best = some r ∨ (r ∈ l ∧ elig r = true)
  | [], _, _, h => .inl h
  | a :: l, best, r, h => by
    rw [run_cons] at h
    rcases run_mem l _ r h with hb | ⟨hr, he⟩
    · rcases step_cases elig replace best a with hs | ⟨ha, hs⟩
      · exact .inl (hs ▸ hb)
      · rw [hs] at hb
        cases hb
        exact .inr ⟨List.mem_cons_self, ha⟩
    · exact .inr ⟨List.mem_cons_of_mem a hr, he⟩

/-- A pass over a reordering of the candidates ends on nothing exactly when the pass over the
original does. -/
theorem run_eq_none_perm {l l' : List α} (hp : l.Perm l') :
    run elig replace none l = none ↔ run elig replace none l' = none := by
  rw [run_eq_none_iff, run_eq_none_iff]
  exact ⟨fun h a ha => h a (hp.mem_iff.mpr ha), fun h a ha => h a (hp.mem_iff.mp ha)⟩

section Key

variable [LinearOrder β] (key : α → β)
  (hreplace : ∀ a b, replace a b = true → key a ≤ key b)
  (hkeep : ∀ a b, replace a b = false → key b ≤ key a)

include hreplace hkeep in
/-- A step never raises the key of the best, and ends below its eligible candidate. -/
theorem key_step_le (b a : α) (r : α) (h : step elig replace (some b) a = some r) :
    key r ≤ key b ∧ (elig a = true → key r ≤ key a) := by
  simp only [step] at h
  by_cases ha : elig a = true
  · rw [if_pos ha] at h
    cases hr : replace a b
    · rw [hr, if_neg Bool.false_ne_true] at h
      cases h
      exact ⟨le_refl _, fun _ => hkeep a b hr⟩
    · rw [hr, if_pos rfl] at h
      cases h
      exact ⟨hreplace a b hr, fun _ => le_refl _⟩
  · rw [if_neg ha] at h
    cases h
    exact ⟨le_refl _, fun ha' => absurd ha' ha⟩

include hreplace hkeep in
/-- The key of the result of a pass from a best `b` is at most that of `b` and of every eligible
candidate. -/
theorem key_run_le_of_some : ∀ (l : List α) (b r : α), run elig replace (some b) l = some r →
    key r ≤ key b ∧ ∀ a ∈ l, elig a = true → key r ≤ key a
  | [], b, r, h => by
    cases h
    exact ⟨le_refl _, fun a ha => absurd ha List.not_mem_nil⟩
  | a :: l, b, r, h => by
    rw [run_cons] at h
    -- the best after this step is the one the rest of the pass starts from
    obtain ⟨b', hb'⟩ := Option.isSome_iff_exists.mp (step_some_isSome elig replace b a)
    rw [hb'] at h
    obtain ⟨hb'b, hb'a⟩ := key_step_le elig replace key hreplace hkeep b a b' hb'
    obtain ⟨hrb', hrl⟩ := key_run_le_of_some l b' r h
    refine ⟨le_trans hrb' hb'b, fun a' ha' he => ?_⟩
    rcases List.mem_cons.mp ha' with rfl | hl
    · exact le_trans hrb' (hb'a he)
    · exact hrl a' hl he

include hreplace hkeep in
/-- A pass from nothing ends on an eligible candidate of least key. -/
theorem key_run_le (l : List α) (r : α) (h : run elig replace none l = some r) :
    r ∈ l ∧ elig r = true ∧ ∀ a ∈ l, elig a = true → key r ≤ key a := by
  rcases run_mem elig replace l none r h with h' | ⟨hr, he⟩
  · cases h'
  refine ⟨hr, he, ?_⟩
  -- the first eligible candidate becomes the best; the rest of the pass starts from it
  induction l with
  | nil => exact absurd hr List.not_mem_nil
  | cons a l ih =>
    rw [run_cons] at h
    cases ha : elig a
    · have hstep : step elig replace none a = none := step_of_not_elig elig replace ha none
      rw [hstep] at h
      intro a' ha' he'
      rcases List.mem_cons.mp ha' with rfl | hl
      · rw [ha] at he'
        cases he'
      · rcases run_mem elig replace l none r h with h'' | ⟨hrl, _⟩
        · cases h''
        exact ih h hrl a' hl he'
    · have hstep : step elig replace none a = some a := step_none elig replace ha
      rw [hstep] at h
      obtain ⟨hra, hrl⟩ := key_run_le_of_some elig replace key hreplace hkeep l a r h
      intro a' ha' he'
      rcases List.mem_cons.mp ha' with rfl | hl
      · exact hra
      · exact hrl a' hl he'

include hreplace hkeep in
/-- The key of the result does not depend on the order of the candidates. -/
theorem key_run_perm {l l' : List α} (hp : l.Perm l') {r r' : α}
    (h : run elig replace none l = some r) (h' : run elig replace none l' = some r') :
    key r = key r' := by
  obtain ⟨hr, he, hle⟩ := key_run_le elig replace key hreplace hkeep l r h
  obtain ⟨hr', he', hle'⟩ := key_run_le elig replace key hreplace hkeep l' r' h'
  exact le_antisymm (hle r' (hp.mem_iff.mpr hr') he') (hle' r (hp.mem_iff.mp hr) he)

include hreplace hkeep in
/-- The key of the result, or its absence, does not depend on the order of the candidates. -/
theorem map_key_run_perm {l l' : List α} (hp : l.Perm l') :
    (run elig replace none l).map key = (run elig replace none l').map key := by
  cases h : run elig replace none l with
  | none => rw [(run_eq_none_perm elig replace hp).mp h]
  | some r =>
    cases h' : run elig replace none l' with
    | none =>
      have hnone := (run_eq_none_perm elig replace hp).mpr h'
      rw [h] at hnone
      cases hnone
    | some r' =>
      rw [Option.map_some, Option.map_some, key_run_perm elig replace key hreplace hkeep hp h h']

end Key

end RunningMin
