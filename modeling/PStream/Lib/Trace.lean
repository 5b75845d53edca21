import Mathlib.Data.List.Pairwise

/-!
# Orders on what a state machine outputs

A machine `step : S → E → Option L × S` takes an event and may output something.  A property of
the outputs of every run that relates each output to every later one, `(outputs step s es).Pairwise R`,
follows from a monitor in the state: a predicate `Armed l s` saying `s` remembers having output `l`,
that every output arms, that steps keep, and under which every later output is `R`-related to `l`
(`pairwise_outputs`).
-/

set_option autoImplicit false

namespace Trace

variable {S E L : Type} (step : S → E → Option L × S)

/-- What a run outputs, event by event. -/
def outputs : S → List E → List L
  | _, [] => []
  | s, e :: es => (step s e).1.toList ++ outputs (step s e).2 es

@[simp] theorem outputs_nil (s : S) : outputs step s [] = [] := rfl

@[simp] theorem outputs_cons (s : S) (e : E) (es : List E) :
    outputs step s (e :: es) = (step s e).1.toList ++ outputs step (step s e).2 es := rfl

/-- The state a run ends in. -/
def final : S → List E → S
  | s, [] => s
  | s, e :: es => final (step s e).2 es

/-- An invariant of every step holds at the end of every run. -/
theorem final_inv {Inv : S → Prop} (inv_step : ∀ s e, Inv s → Inv (step s e).2) :
    ∀ (es : List E) (s : S), Inv s → Inv (final step s es)
  | [], _, hi => hi
  | e :: es, s, hi => final_inv inv_step es _ (inv_step s e hi)

section Monitor

variable {step} {R : L → L → Prop} (Inv : S → Prop) (Armed : L → S → Prop)
  (inv_step : ∀ s e, Inv s → Inv (step s e).2)
  (armed_step : ∀ s e l, Inv s → Armed l s → Armed l (step s e).2)
  (armed_rel : ∀ s e l l', Inv s → Armed l s → (step s e).1 = some l' → R l l')

include inv_step armed_step armed_rel in
/-- Everything output after a state that remembers `l` is `R`-related to `l`. -/
theorem rel_outputs_of_armed {l : L} :
    ∀ (es : List E) (s : S), Inv s → Armed l s → ∀ l' ∈ outputs step s es, R l l' := by
  intro es
  induction es with
  | nil => intro s _ _ l' hl'; simp at hl'
  | cons e es ih =>
    intro s hi ha l' hl'
    rw [outputs_cons, List.mem_append] at hl'
    rcases hl' with hnow | hlater
    · exact armed_rel s e l l' hi ha (Option.mem_toList.mp hnow)
    · exact ih _ (inv_step s e hi) (armed_step s e l hi ha) l' hlater

include inv_step armed_step armed_rel in
/-- The outputs of every run from an invariant state are pairwise `R`-related, when every output
arms the monitor. -/
theorem pairwise_outputs (armed_out : ∀ s e l, Inv s → (step s e).1 = some l → Armed l (step s e).2) :
    ∀ (es : List E) (s : S), Inv s → (outputs step s es).Pairwise R := by
  intro es
  induction es with
  | nil => intro s _; simp
  | cons e es ih =>
    intro s hi
    rw [outputs_cons, List.pairwise_append]
    refine ⟨?_, ih _ (inv_step s e hi), fun l hl l' hl' => ?_⟩
    · -- at most one output now
      cases h : (step s e).1 <;> simp
    · have hout := Option.mem_toList.mp hl
      exact rel_outputs_of_armed Inv Armed inv_step armed_step armed_rel es _ (inv_step s e hi)
        (armed_out s e l hi hout) l' hl'

end Monitor

end Trace
