import Mathlib.Logic.Function.Basic

/-!
# Parent-pointer forests

A forest given by a parent map `par : α → Option α`, as a heap of nodes with parent pointers is:
`par a = none` says that `a` is a root.  `up par k a` follows `k` pointers from `a`, and
`Above par b a` says that `b` is `a` or one of its ancestors.  A node that has a root above it
reaches that root along a finite path, so "every node has the root above it" is the acyclicity
that a tree of pointers promises.

The lemmas are the ones a program that re-hangs nodes needs: how `Above` unfolds along one
pointer, and that it composes.
-/

set_option autoImplicit false

namespace Forest

variable {α : Type*} (par : α → Option α)

/-- Follow `k` parent pointers from `a`. -/
def up : Nat → α → Option α
  | 0, a => some a
  | k + 1, a => (par a).bind (up k)

/-- `b` is `a` or an ancestor of `a`. -/
def Above (b a : α) : Prop := ∃ k, up par k a = some b

variable {par}

@[simp] theorem up_zero (a : α) : up par 0 a = some a := rfl

theorem up_succ (k : Nat) (a : α) : up par (k + 1) a = (par a).bind (up par k) := rfl

theorem above_refl (a : α) : Above par a a := ⟨0, rfl⟩

theorem above_of_par {a b c : α} (hp : par a = some b) (hc : Above par c b) : Above par c a := by
  obtain ⟨k, hk⟩ := hc
  exact ⟨k + 1, by rw [up_succ, hp, Option.bind_some, hk]⟩

theorem above_iff {a b : α} :
    Above par b a ↔ b = a ∨ ∃ p, par a = some p ∧ Above par b p := by
  constructor
  · rintro ⟨k, hk⟩
    cases k with
    | zero => exact Or.inl (Option.some_inj.mp hk).symm
    | succ k =>
      rw [up_succ] at hk
      cases hp : par a with
      | none => rw [hp] at hk; cases hk
      | some p => rw [hp, Option.bind_some] at hk; exact Or.inr ⟨p, rfl, k, hk⟩
  · rintro (rfl | ⟨p, hp, hb⟩)
    · exact above_refl b
    · exact above_of_par hp hb

theorem Above.trans {a b c : α} (hab : Above par b a) (hbc : Above par c b) : Above par c a := by
  obtain ⟨k, hk⟩ := hab
  induction k generalizing a with
  | zero => rw [up_zero, Option.some_inj] at hk; exact hk ▸ hbc
  | succ k ih =>
    rw [up_succ] at hk
    cases hp : par a with
    | none => rw [hp] at hk; cases hk
    | some p => rw [hp, Option.bind_some] at hk; exact above_of_par hp (ih hk)

end Forest
