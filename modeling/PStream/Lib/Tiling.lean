import Mathlib.Data.List.Basic

/-!
# Tilings of a range by the pieces of a map

A reassembly buffer keeps what it has received as pieces in a map keyed by where each piece
starts, and what it still misses as a sorted list of intervals.  Two shapes describe such a
buffer, for any type of pieces and of intervals:

* `Tiles q len a b`: from `a` on, the pieces found in `q` follow each other, each starting where
  the one before ends, up to `b`;
* `Interleaved T lo hi a gs b`: the non-empty intervals `gs` follow each other from `a` to `b`,
  each preceded by a stretch on which `T` holds.

A buffer that has handed out everything below `a` and misses exactly the intervals `gs` below `b`
is then described by `Interleaved (Tiles q len) lo hi a gs b`.
-/

set_option autoImplicit false

namespace Tiling

section Tiles

variable {α : Type*} (q : ℕ → Option α) (len : α → ℕ)

/-- From `a` to `b`, the pieces of `q` follow each other without hole or overlap. -/
inductive Tiles : ℕ → ℕ → Prop
  | refl (a : ℕ) : Tiles a a
  | piece {a b : ℕ} {x : α} : q a = some x → 0 < len x → Tiles (a + len x) b → Tiles a b

variable {q len}

theorem Tiles.le {a b : ℕ} (h : Tiles q len a b) : a ≤ b := by
  induction h with
  | refl => exact Nat.le_refl _
  | piece _ _ _ ih => omega

theorem Tiles.trans {a b c : ℕ} (hab : Tiles q len a b) (hbc : Tiles q len b c) :
    Tiles q len a c := by
  induction hab with
  | refl => exact hbc
  | piece hx hpos _ ih => exact .piece hx hpos (ih hbc)

theorem Tiles.single {a : ℕ} {x : α} (hx : q a = some x) (hpos : 0 < len x) :
    Tiles q len a (a + len x) :=
  .piece hx hpos (.refl _)

/-- A tiling only looks at the pieces that start inside its range. -/
theorem Tiles.congr {q' : ℕ → Option α} {a b : ℕ} (h : Tiles q len a b)
    (hq : ∀ k, a ≤ k → k < b → q' k = q k) : Tiles q' len a b := by
  induction h with
  | refl => exact .refl _
  | @piece a b x hx hpos hrest ih =>
    have hle := hrest.le
    exact .piece ((hq a (Nat.le_refl _) (by omega)).trans hx) hpos
      (ih fun k hk hkb => hq k (by omega) hkb)

/-- A non-empty tiling starts with a piece. -/
theorem Tiles.head {a b : ℕ} (h : Tiles q len a b) (hab : a < b) :
    ∃ x, q a = some x ∧ 0 < len x ∧ Tiles q len (a + len x) b := by
  cases h with
  | refl => omega
  | piece hx hpos hrest => exact ⟨_, hx, hpos, hrest⟩

/-- Every point of a tiled range lies in one of its pieces. -/
theorem Tiles.exists_piece {a b n : ℕ} (h : Tiles q len a b) (han : a ≤ n) (hnb : n < b) :
    ∃ k x, a ≤ k ∧ k ≤ n ∧ n < k + len x ∧ q k = some x := by
  induction h with
  | refl => omega
  | @piece a b x hx hpos hrest ih =>
    by_cases hn : n < a + len x
    · exact ⟨a, x, Nat.le_refl _, han, hn, hx⟩
    · obtain ⟨k, y, hk, hkn, hnk, hy⟩ := ih (by omega) hnb
      exact ⟨k, y, by omega, hkn, hnk, hy⟩

end Tiles

section Interleaved

variable {ι : Type*} (T : ℕ → ℕ → Prop) (lo hi : ι → ℕ)

/-- From `a`, the intervals `gs` follow each other, each non-empty and preceded by a stretch on
which `T` holds; the last one ends at `b`. -/
def Interleaved : ℕ → List ι → ℕ → Prop
  | a, [], b => a = b
  | a, g :: gs, b => T a (lo g) ∧ lo g < hi g ∧ Interleaved (hi g) gs b

/-- The intervals `gs` that contain `n`. -/
def InIntervals (gs : List ι) (n : ℕ) : Prop := ∃ g ∈ gs, lo g ≤ n ∧ n < hi g

variable {T lo hi}

@[simp] theorem interleaved_nil {a b : ℕ} : Interleaved T lo hi a [] b ↔ a = b := Iff.rfl

@[simp] theorem interleaved_cons {a b : ℕ} {g : ι} {gs : List ι} :
    Interleaved T lo hi a (g :: gs) b ↔
      T a (lo g) ∧ lo g < hi g ∧ Interleaved T lo hi (hi g) gs b := Iff.rfl

theorem interleaved_append {a c : ℕ} {l₁ l₂ : List ι} :
    Interleaved T lo hi a (l₁ ++ l₂) c ↔
      ∃ b, Interleaved T lo hi a l₁ b ∧ Interleaved T lo hi b l₂ c := by
  induction l₁ generalizing a with
  | nil => simp
  | cons g l₁ ih => simp [ih, and_assoc, exists_and_left]

@[simp] theorem inIntervals_nil {n : ℕ} : ¬ InIntervals lo hi ([] : List ι) n := by
  simp [InIntervals]

@[simp] theorem inIntervals_cons {g : ι} {gs : List ι} {n : ℕ} :
    InIntervals lo hi (g :: gs) n ↔ (lo g ≤ n ∧ n < hi g) ∨ InIntervals lo hi gs n := by
  simp [InIntervals]

@[simp] theorem inIntervals_append {l₁ l₂ : List ι} {n : ℕ} :
    InIntervals lo hi (l₁ ++ l₂) n ↔ InIntervals lo hi l₁ n ∨ InIntervals lo hi l₂ n := by
  simp only [InIntervals, List.mem_append]
  constructor
  · rintro ⟨g, hg | hg, hn⟩
    exacts [.inl ⟨g, hg, hn⟩, .inr ⟨g, hg, hn⟩]
  · rintro (⟨g, hg, hn⟩ | ⟨g, hg, hn⟩)
    exacts [⟨g, .inl hg, hn⟩, ⟨g, .inr hg, hn⟩]

/-- The intervals of an interleaving are non-empty. -/
theorem Interleaved.lo_lt_hi {a b : ℕ} {gs : List ι} (h : Interleaved T lo hi a gs b) :
    ∀ g ∈ gs, lo g < hi g := by
  induction gs generalizing a with
  | nil => simp
  | cons g gs ih =>
    intro g' hg'
    rcases List.mem_cons.mp hg' with rfl | hg'
    exacts [h.2.1, ih h.2.2 g' hg']

/-- An interleaving between two different points ends with an interval. -/
theorem Interleaved.exists_hi_eq {a b : ℕ} {gs : List ι} (h : Interleaved T lo hi a gs b)
    (hab : a ≠ b) : ∃ g ∈ gs, hi g = b := by
  induction gs generalizing a with
  | nil => exact absurd h hab
  | cons g gs ih =>
    by_cases hg : hi g = b
    · exact ⟨g, List.mem_cons_self .., hg⟩
    · obtain ⟨g', hg', hhi⟩ := ih h.2.2 hg
      exact ⟨g', List.mem_cons_of_mem _ hg', hhi⟩

/-! The stretches of an interleaving are ordered, so the whole lies between its two ends. -/
section Ordered

variable (hT : ∀ x y, T x y → x ≤ y)
include hT

theorem Interleaved.le {a b : ℕ} {gs : List ι} (h : Interleaved T lo hi a gs b) : a ≤ b := by
  induction gs generalizing a with
  | nil => exact Nat.le_of_eq h
  | cons g gs ih =>
    obtain ⟨hT₁, hlt, hrest⟩ := h
    have := hT _ _ hT₁
    have := ih hrest
    omega

/-- Every interval of an interleaving from `a` to `b` lies between `a` and `b`. -/
theorem Interleaved.bounds {a b : ℕ} {gs : List ι} (h : Interleaved T lo hi a gs b) :
    ∀ g ∈ gs, a ≤ lo g ∧ hi g ≤ b := by
  induction gs generalizing a with
  | nil => simp
  | cons g gs ih =>
    obtain ⟨hT₁, hlt, hrest⟩ := h
    have hga := hT _ _ hT₁
    have hgb := hrest.le hT
    intro g' hg'
    rcases List.mem_cons.mp hg' with rfl | hg'
    · omega
    · have := ih hrest g' hg'
      omega

/-- The intervals of an interleaving are sorted and disjoint. -/
theorem Interleaved.pairwise {a b : ℕ} {gs : List ι} (h : Interleaved T lo hi a gs b) :
    gs.Pairwise fun g g' => hi g ≤ lo g' := by
  induction gs generalizing a with
  | nil => exact .nil
  | cons g gs ih =>
    obtain ⟨_, _, hrest⟩ := h
    exact .cons (fun g' hg' => ((hrest.bounds hT) g' hg').1) (ih hrest)

/-- Weakening the stretches of an interleaving, where they lie between its two ends. -/
theorem Interleaved.imp {T' : ℕ → ℕ → Prop} {a b : ℕ} {gs : List ι}
    (h : Interleaved T lo hi a gs b) (hT' : ∀ x y, a ≤ x → y ≤ b → T x y → T' x y) :
    Interleaved T' lo hi a gs b := by
  induction gs generalizing a with
  | nil => exact h
  | cons g gs ih =>
    obtain ⟨hT₁, hlt, hrest⟩ := h
    have hb := hrest.le hT
    have hga := hT _ _ hT₁
    exact ⟨hT' _ _ (Nat.le_refl _) (by omega) hT₁, hlt,
      ih hrest fun x y hx hy hxy => hT' x y (by omega) hy hxy⟩

end Ordered

end Interleaved

end Tiling
