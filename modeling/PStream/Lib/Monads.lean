import Mathlib.Logic.Basic

/-!
# Taking apart runs of the monads the model is written in

Lemmas that peel a run of a computation apart at its binds: `ExceptT ε Option` for the parsers
and writers, which can fail in two ways, and `EStateM` for methods that change their receiver in
place and return early on an error.
-/

set_option autoImplicit false

/-!
## Computations that can fail in two ways

`ExceptT ε Option` is a computation that returns a value, fails with an error of type `ε`, or
does not return at all (`none`).  The lemmas here take apart a successful run: a bind succeeds
exactly when both halves do, and a lifted `Option` or `Except` succeeds exactly when it holds a
value.  Proofs about such programs peel them with `obtain` step by step instead of unfolding the
monad; a run that fails is followed the same way, through the steps that return, to the one that
fails.
-/

namespace ExceptOption

variable {ε α β : Type}

/-- A run that returns `b`. -/
def Returns (x : ExceptT ε Option α) (a : α) : Prop := x.run = some (.ok a)

theorem returns_bind {x : ExceptT ε Option α} {f : α → ExceptT ε Option β} {b : β} :
    Returns (x >>= f) b ↔ ∃ a, Returns x a ∧ Returns (f a) b := by
  simp only [Returns, ExceptT.run_bind]
  constructor
  · intro h
    rcases hx : x.run with _ | ⟨e | a⟩ <;> rw [hx] at h
    · cases h
    · cases h
    · exact ⟨a, rfl, h⟩
  · rintro ⟨a, hx, hf⟩
    rw [hx]
    exact hf

@[simp] theorem returns_pure {a b : α} : Returns (pure a : ExceptT ε Option α) b ↔ a = b := by
  simp [Returns]

@[simp] theorem not_returns_throw {e : ε} {a : α} : ¬ Returns (throw e : ExceptT ε Option α) a := by
  simp [Returns, throw, throwThe, MonadExceptOf.throw, ExceptT.mk, ExceptT.run]

@[simp] theorem returns_liftOption {o : Option α} {a : α} :
    Returns (liftM o : ExceptT ε Option α) a ↔ o = some a := by
  cases o <;> simp [Returns, liftM, monadLift, MonadLift.monadLift, ExceptT.lift, ExceptT.mk,
    ExceptT.run]

@[simp] theorem returns_liftExcept {x : Except ε α} {a : α} :
    Returns (liftM x : ExceptT ε Option α) a ↔ x = .ok a := by
  cases x <;> simp [Returns, liftM, monadLift, MonadLift.monadLift, MonadLiftT.monadLift]

theorem returns_map {x : ExceptT ε Option α} {f : α → β} {b : β} :
    Returns (f <$> x) b ↔ ∃ a, Returns x a ∧ f a = b := by
  rw [← bind_pure_comp, returns_bind]
  simp

/-- A first step that returns hands the run on to the rest. -/
theorem run_bind_of_returns {x : ExceptT ε Option α} {f : α → ExceptT ε Option β} {a : α}
    (h : Returns x a) : (x >>= f).run = (f a).run := by
  rw [ExceptT.run_bind, h]
  rfl

/-- A first step that fails with an error fails the whole run with it. -/
theorem run_bind_of_fails {x : ExceptT ε Option α} {f : α → ExceptT ε Option β} {e : ε}
    (h : x.run = some (.error e)) : (x >>= f).run = some (.error e) := by
  rw [ExceptT.run_bind, h]
  rfl

/-! ## One way to fail

A plain `Except` computation is taken apart the same way. -/

theorem bind_eq_ok {x : Except ε α} {f : α → Except ε β} {b : β} :
    x >>= f = .ok b ↔ ∃ a, x = .ok a ∧ f a = .ok b := by
  cases x <;> simp [bind, Except.bind]

theorem pure_eq_ok {a b : α} : (pure a : Except ε α) = .ok b ↔ a = b := by
  simp [pure, Except.pure]

end ExceptOption

/-!
## Methods that change their receiver in place

A method that changes its receiver in place and returns early on an error is a computation in
`EStateM`, whose failures carry the state the method left behind.  A bind goes on from the state
its first half left, or fails with it.
-/

namespace EStateM

variable {ε σ α β : Type}

/-- A bind whose first half returned goes on from where it left the state. -/
theorem bind_apply_of_ok {x : EStateM ε σ α} {f : α → EStateM ε σ β} {s s' : σ} {a : α}
    (h : x s = .ok a s') : (x >>= f) s = f a s' := by
  show EStateM.bind x f s = f a s'
  simp only [EStateM.bind, h]

/-- A bind whose first half failed fails with its error and state. -/
theorem bind_apply_of_error {x : EStateM ε σ α} {f : α → EStateM ε σ β} {s s' : σ} {e : ε}
    (h : x s = .error e s') : (x >>= f) s = .error e s' := by
  show EStateM.bind x f s = .error e s'
  simp only [EStateM.bind, h]

end EStateM
