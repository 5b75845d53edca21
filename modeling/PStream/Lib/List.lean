import Mathlib.Algebra.BigOperators.Group.List.Basic
import Mathlib.Data.UInt
import Mathlib.Data.List.AList

/-!
# Lists: sub-multisets, chains and sums of machine words

General facts the bookkeeping proofs rest on: taking a sub-multiset out of a list with
`List.diff`, a chain as a test of neighbours, and a `uint64` sum that does not wrap.
-/

set_option autoImplicit false

/-! ## Sub-multisets of a list -/

section Diff

variable {α : Type} [DecidableEq α]

/-- Taking a sub-multiset `l` out of `H` leaves the rest: `H` is what remains, then `l`. -/
theorem List.perm_diff_append_of_subperm {l H : List α} (hs : l.Subperm H) :
    H.Perm (H.diff l ++ l) :=
  (List.subperm_append_diff_self_of_count_le (List.subperm_ext_iff.1 hs)).symm.trans
    List.perm_append_comm

/-- The sum over what remains after taking out a sub-multiset, in an additive group. -/
theorem List.sum_map_diff {G : Type} [AddCommGroup G] (g : α → G) {l H : List α}
    (hs : l.Subperm H) : ((H.diff l).map g).sum = (H.map g).sum - (l.map g).sum := by
  have hsum := ((List.perm_diff_append_of_subperm hs).map g).sum_eq
  rw [List.map_append, List.sum_append] at hsum
  rw [hsum, add_sub_cancel_right]

/-- An element that is left after taking out `l` and then `l'` is not in `l`. -/
theorem List.not_mem_of_mem_diff_append {H l l' : List α} (hn : H.Nodup) {a : α}
    (ha : a ∈ H.diff (l ++ l')) : a ∈ H ∧ a ∉ l := by
  rw [List.diff_append] at ha
  exact (List.Nodup.mem_sdiff_iff hn).1 ((List.diff_sublist _ _).subset ha)

/-- Taking out `l` and then part of what remains takes out part of `H`. -/
theorem List.Subperm.append_of_diff {l l' H : List α} (hs : l.Subperm H)
    (hs' : l'.Subperm (H.diff l)) : (l ++ l').Subperm H :=
  ((List.subperm_append_left l).2 hs').trans
    (List.subperm_append_diff_self_of_count_le (List.subperm_ext_iff.1 hs)).subperm

omit [DecidableEq α] in
/-- A list is a chain of a test exactly when all its neighbours pass it. -/
theorem List.all_zip_iff_isChain {g : α × α → Bool} :
    ∀ (a : α) (l : List α), ((a :: l).zip l).all g = true ↔
      (a :: l).IsChain fun x y => g (x, y) = true
  | a, [] => by simp
  | a, b :: l => by
    rw [List.zip_cons_cons, List.all_cons, Bool.and_eq_true, List.isChain_cons_cons,
      List.all_zip_iff_isChain b l]

end Diff

/-! ## Association lists

A Go map is a list of entries with distinct keys; writing through a pointer to one value replaces
that entry. -/

section Lookup

variable {α β : Type} [DecidableEq α]

/-- Replacing the value at key `a` changes what `lookup` finds there, and nothing else. -/
theorem List.lookup_map_replace (l : List (α × β)) (a k : α) (b : β) :
    (l.map fun e => if e.1 = a then (a, b) else e).lookup k =
      if k = a then (l.lookup k).map fun _ => b else l.lookup k := by
  induction l with
  | nil => simp
  | cons e l ih =>
    obtain ⟨k', v⟩ := e
    by_cases hk' : k' = a
    · subst hk'
      by_cases hk : k = k'
      · subst hk
        simp
      · simp [List.lookup_cons, beq_false_of_ne hk, ih]
    · by_cases hk : k = k'
      · subst hk
        simp [hk']
      · simp [List.lookup_cons, beq_false_of_ne hk, hk', ih]


theorem List.map_replace_of_forall_ne {l : List (α × β)} {a : α} (b : β)
    (hl : ∀ e ∈ l, e.1 ≠ a) : (l.map fun e => if e.1 = a then (a, b) else e) = l := by
  conv_rhs => rw [← List.map_id l]
  exact List.map_congr_left fun e he => if_neg (hl e he)

theorem List.filter_ne_of_forall_ne {l : List (α × β)} {a : α}
    (hl : ∀ e ∈ l, e.1 ≠ a) : (l.filter fun e => e.1 ≠ a) = l :=
  List.filter_eq_self.mpr fun e he => by simpa using hl e he

/-- A key that occurs once splits its list into what comes before it and what comes after, neither
of which holds it. -/
theorem List.eq_append_of_lookup {l : List (α × β)} (hl : (l.map Prod.fst).Nodup) {a : α} {b : β}
    (h : l.lookup a = some b) :
    ∃ l₁ l₂, l = l₁ ++ (a, b) :: l₂ ∧ (∀ e ∈ l₁, e.1 ≠ a) ∧ ∀ e ∈ l₂, e.1 ≠ a := by
  obtain ⟨l₁, l₂, rfl, h₁⟩ := List.lookup_eq_some_iff.mp h
  refine ⟨l₁, l₂, rfl, fun e he heq => by simpa [heq] using h₁ e he, fun e he heq => ?_⟩
  simp only [List.map_append, List.map_cons, List.nodup_append, List.nodup_cons] at hl
  exact hl.2.1.1 (heq ▸ List.mem_map_of_mem he)

theorem List.sum_map_replace {M : Type} [AddCommMonoid M] (g : β → M) {l : List (α × β)}
    (hl : (l.map Prod.fst).Nodup) {a : α} {b b' : β} (h : l.lookup a = some b) :
    ((l.map fun e => if e.1 = a then (a, b') else e).map (g ∘ Prod.snd)).sum + g b =
      (l.map (g ∘ Prod.snd)).sum + g b' := by
  obtain ⟨l₁, l₂, rfl, h₁, h₂⟩ := List.eq_append_of_lookup hl h
  rw [List.map_append, List.map_cons, List.map_replace_of_forall_ne b' h₁,
    List.map_replace_of_forall_ne b' h₂, if_pos rfl]
  simp only [List.map_append, List.map_cons, List.sum_append, List.sum_cons, Function.comp]
  ac_rfl

theorem List.sum_map_filter_ne {M : Type} [AddCommMonoid M] (g : β → M) {l : List (α × β)}
    (hl : (l.map Prod.fst).Nodup) {a : α} {b : β} (h : l.lookup a = some b) :
    ((l.filter fun e => e.1 ≠ a).map (g ∘ Prod.snd)).sum + g b = (l.map (g ∘ Prod.snd)).sum := by
  obtain ⟨l₁, l₂, rfl, h₁, h₂⟩ := List.eq_append_of_lookup hl h
  rw [List.filter_append, List.filter_cons, List.filter_ne_of_forall_ne h₁,
    List.filter_ne_of_forall_ne h₂]
  simp only [ne_eq, not_true_eq_false, decide_false, Bool.false_eq_true, if_false,
    List.map_append, List.map_cons, List.sum_append, List.sum_cons, Function.comp]
  ac_rfl

theorem List.lookup_filter_ne (l : List (α × β)) (a k : α) :
    (l.filter fun e => e.1 ≠ a).lookup k = if k = a then none else l.lookup k := by
  induction l with
  | nil => simp
  | cons e l ih =>
    obtain ⟨k', v⟩ := e
    by_cases hk' : k' = a
    · subst hk'
      rw [List.filter_cons_of_neg (by simp), ih]
      by_cases hk : k = k'
      · simp [hk]
      · simp [List.lookup_cons, hk, beq_false_of_ne hk]
    · rw [List.filter_cons_of_pos (by simpa using hk'), List.lookup_cons, List.lookup_cons, ih]
      by_cases hk : k = k'
      · subst hk
        simp [hk']
      · simp [beq_false_of_ne hk]

theorem List.lookup_eq_none_iff_not_mem_keys {l : List (α × β)} {a : α} :
    l.lookup a = none ↔ a ∉ l.map Prod.fst := by
  simp only [List.lookup_eq_none_iff, bne_iff_ne, ne_eq, List.mem_map, not_exists, not_and]
  exact ⟨fun h e he heq => h e he heq.symm, fun h e he heq => h e he heq.symm⟩

/-- Two lists with the same distinct keys whose values agree under `g` at every key have the same
sum of `g`. -/
theorem List.sum_map_eq_of_lookup {M : Type} [AddCommMonoid M] (g : β → M) :
    ∀ {l l' : List (α × β)}, l.map Prod.fst = l'.map Prod.fst → (l.map Prod.fst).Nodup →
      (∀ a, (l.lookup a).map g = (l'.lookup a).map g) →
      (l.map (g ∘ Prod.snd)).sum = (l'.map (g ∘ Prod.snd)).sum
  | [], [], _, _, _ => rfl
  | [], _ :: _, hkeys, _, _ => by simp at hkeys
  | _ :: _, [], hkeys, _, _ => by simp at hkeys
  | (k, v) :: l, (k', v') :: l', hkeys, hnodup, hlookup => by
    simp only [List.map_cons, List.cons.injEq] at hkeys
    obtain ⟨rfl, hkeys⟩ := hkeys
    rw [List.map_cons, List.nodup_cons] at hnodup
    -- the heads sit under the same key, so they agree under `g`
    have hhead := hlookup k
    simp only [List.lookup_cons_self, Option.map_some, Option.some.injEq] at hhead
    -- the tails agree at every key: at the head's, neither holds it
    have htail : ∀ a, (l.lookup a).map g = (l'.lookup a).map g := by
      intro a
      by_cases ha : a = k
      · subst ha
        have hnone : l.lookup a = none := List.lookup_eq_none_iff_not_mem_keys.mpr hnodup.1
        have hnone' : l'.lookup a = none :=
          List.lookup_eq_none_iff_not_mem_keys.mpr (hkeys ▸ hnodup.1)
        rw [hnone, hnone']
      · simpa [List.lookup_cons, beq_false_of_ne ha] using hlookup a
    simp only [List.map_cons, List.sum_cons, Function.comp_apply]
    rw [hhead, List.sum_map_eq_of_lookup g hkeys hnodup.2 htail]

/-- What `lookup` finds is an entry of the list. -/
theorem List.mem_of_lookup_eq_some {l : List (α × β)} {a : α} {b : β} (h : l.lookup a = some b) :
    (a, b) ∈ l := by
  obtain ⟨l₁, l₂, rfl, -⟩ := List.lookup_eq_some_iff.mp h
  exact List.mem_append_right _ List.mem_cons_self

/-- Under distinct keys, an entry is what `lookup` finds at its key. -/
theorem List.lookup_of_mem {l : List (α × β)} (hl : (l.map Prod.fst).Nodup) {a : α} {b : β}
    (h : (a, b) ∈ l) : l.lookup a = some b := by
  induction l with
  | nil => simp at h
  | cons e l ih =>
    obtain ⟨k, v⟩ := e
    rw [List.map_cons, List.nodup_cons] at hl
    rcases List.mem_cons.mp h with heq | hmem
    · rw [← heq, List.lookup_cons_self]
    · -- the key occurs in the tail, so it is not the head's
      have hne : a ≠ k := fun hak => hl.1 (hak ▸ List.mem_map_of_mem (f := Prod.fst) hmem :)
      rw [List.lookup_cons, beq_false_of_ne hne]
      exact ih hl.2 hmem

end Lookup

/-- Inserting the keys of `ts` one after the other, each with its value under `f`: a key of `ts`
finds its value, any other key what it found before. -/
theorem AList.lookup_foldl_insert {α : Type} {β : α → Type} [DecidableEq α] (f : (a : α) → β a)
    (k : α) : ∀ (ts : List α) (m : AList β),
      (ts.foldl (fun m a => m.insert a (f a)) m).lookup k = if k ∈ ts then some (f k) else m.lookup k
  | [], m => by simp
  | t :: ts, m => by
    rw [List.foldl_cons, AList.lookup_foldl_insert f k ts]
    by_cases hk : k = t
    · subst hk
      simp [AList.lookup_insert]
    · simp [AList.lookup_insert_ne hk, hk]

/-- A `uint64` sum of terms of at most `B` each, when `length * B` fits in 64 bits, does not
wrap, and its value is at most `length * B`. -/
theorem UInt64.toNat_sum_of_le (B : Nat) :
    ∀ l : List UInt64, (∀ x ∈ l, x.toNat ≤ B) → l.length * B < 2 ^ 64 →
      l.sum.toNat = (l.map UInt64.toNat).sum ∧ (l.map UInt64.toNat).sum ≤ l.length * B
  | [], _, _ => ⟨rfl, Nat.zero_le _⟩
  | x :: l, hB, hlen => by
    have hx := hB x List.mem_cons_self
    rw [List.length_cons, Nat.succ_mul] at hlen ⊢
    obtain ⟨ih, hsum⟩ := UInt64.toNat_sum_of_le B l
      (fun y hy => hB y (List.mem_cons_of_mem _ hy)) (by omega)
    rw [List.sum_cons, List.map_cons, List.sum_cons, UInt64.toNat_add, ih,
      Nat.mod_eq_of_lt (by omega)]
    exact ⟨rfl, by omega⟩

/-- A `uint64` sum whose terms add up to less than `2 ^ 64` does not wrap. -/
theorem UInt64.toNat_sum_of_lt :
    ∀ l : List UInt64, (l.map UInt64.toNat).sum < 2 ^ 64 → l.sum.toNat = (l.map UInt64.toNat).sum
  | [], _ => rfl
  | x :: l, h => by
    rw [List.map_cons, List.sum_cons] at h ⊢
    rw [List.sum_cons, UInt64.toNat_add, UInt64.toNat_sum_of_lt l (by omega),
      Nat.mod_eq_of_lt h]

theorem UInt64.one_le_of_pos {a : UInt64} (h : 0 < a) : 1 ≤ a := by
  rw [UInt64.lt_iff_toNat_lt] at h
  rw [UInt64.le_iff_toNat_le, UInt64.toNat_one]
  rw [UInt64.toNat_zero] at h
  exact h

/-- One more than a number below another does not wrap. -/
theorem UInt64.toNat_add_one_of_lt {a b : UInt64} (h : a < b) : (a + 1).toNat = a.toNat + 1 := by
  rw [UInt64.lt_iff_toNat_lt] at h
  have hb := b.toNat_lt
  rw [UInt64.toNat_add, UInt64.toNat_one, Nat.mod_eq_of_lt (by omega)]
