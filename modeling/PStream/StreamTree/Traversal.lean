import PStream.StreamTree.WellFormed

/-!
# Traversals that remove what they walk

Both traversals close a node whose stream has finished writing and sent its FIN, and closing a
node without active children unlists it from its parent: the children list a traversal is walking
shrinks under it.

* `scheduleAll_only_child_panics`: `traverseAll` moves its cursor by the length of the list as it
  is after the child's visit.  When that child was the last one listed, the length is zero and
  `(n.nextChild + 1) % uint16(len(n.children))` divides by zero.  This happens in every
  well-formed tree whose root lists a single leaf, once that leaf's stream has sent its FIN
  (`deactivateNode_only_child`, `traverseAll_only_child`).
* `schedule_skips_sibling`: `traverse` reads `n.children[n.nextChild]` and lets each child's visit
  move the cursor on.  When the child at the cursor is removed, its successor moves into its
  place, and the cursor then steps over it.  In the tree of the streams 5, 7 and 9 with stream 5
  finished, `schedule` reports stream 9 alone, although stream 7 is active, unvisited and listed
  under the root.
-/

set_option autoImplicit false

namespace PStream
namespace StreamTree

variable {S : Type}

/-! ## Facts about one call -/

/-- A node with a list is allocated: a pointer past the heap reads the default node. -/
theorem lt_length_of_children_ne_nil {t : StreamTree S} {n : NodeRef}
    (h : (t.node n).children ≠ []) : n < t.nodes.length := by
  by_contra hn
  apply h
  simp [node, List.getD_eq_getElem?_getD, List.getElem?_eq_none (Nat.le_of_not_lt hn)]
  rfl

/-- A node with a finished stream is allocated. -/
theorem lt_length_of_finishedAt {ops : StreamOps S} {t : StreamTree S} {n : NodeRef}
    (h : finishedAt ops t n = true) : n < t.nodes.length := by
  by_contra hn
  have hd : t.node n = default := by
    simp [node, List.getD_eq_getElem?_getD, List.getElem?_eq_none (Nat.le_of_not_lt hn)]
  simp only [finishedAt, hd] at h
  cases h

theorem four_le_fuel (t : StreamTree S) : 4 ≤ t.fuel := by
  have h : 2 ≤ t.nodes.length + (t.nodes.map fun n => n.children.length).sum + 2 := by omega
  calc 4 = 2 ^ 2 := rfl
    _ ≤ _ := Nat.pow_le_pow_left h 2

/-- Moving the cursor of a node with no list divides by zero. -/
theorem advanceCursor_eq_none {t : StreamTree S} {n : NodeRef} (h : (t.node n).children = []) :
    advanceCursor t n = none := by
  simp [advanceCursor, h]

/-- Unlisting the only child of the root empties the root's list; the cascade stops at the root. -/
theorem removeWeight_only_child (fuel : Nat) {t : StreamTree S} {c : NodeRef}
    (hroot : (t.node root).parent = none) (hc : (t.node root).children = [c]) :
    removeWeight (fuel + 1) t root c = some (t.modify root fun nd =>
      { nd with children := [], nextChild := 0
                childrensWeight := nd.childrensWeight - ((t.node c).weight.toUInt32 - 1)
                activeChildren := nd.activeChildren - 1 }) := by
  have hlen := lt_length_of_children_ne_nil (hc ▸ List.cons_ne_nil c [])
  simp [removeWeight, hc, removalIndex, node_modify_self _ _ _ hlen, hroot]

/-- Closing the only child of the root, a leaf, unlists it and leaves the root with no list. -/
theorem deactivateNode_only_child (fuel : Nat) {t : StreamTree S} {c : NodeRef}
    (hroot : (t.node root).parent = none) (hc : (t.node root).children = [c])
    (hcpar : (t.node c).parent = some root) (hc0 : c ≠ root) (hclen : c < t.nodes.length)
    (hleaf : (t.node c).activeChildren = 0) :
    ∃ t', deactivateNode (fuel + 1) t c = some t' ∧ (t'.node root).children = [] ∧
      (t'.node c).stream = none ∧ (t'.node c).activeChildren = 0 := by
  have hrlen := lt_length_of_children_ne_nil (hc ▸ List.cons_ne_nil c [])
  -- the node after it closed, before it is unlisted
  have hc₁ : (t.modify c fun nd => { nd with state := .closed, stream := none }).node c =
      { t.node c with state := .closed, stream := none } :=
    node_modify_self _ _ _ hclen
  have hroot₁ : (t.modify c fun nd => { nd with state := .closed, stream := none }).node root =
      t.node root :=
    node_modify_ne _ _ hc0
  have hrw := removeWeight_only_child fuel (hroot₁ ▸ hroot) (hroot₁ ▸ hc)
  have hd : deactivateNode (fuel + 1) t c = removeWeight (fuel + 1)
      (t.modify c fun nd => { nd with state := .closed, stream := none }) root c := by
    rw [deactivateNode]
    simp only [hc₁, hcpar, hleaf, if_true]
  rw [hd, hrw]
  refine ⟨_, rfl, ?_, ?_, ?_⟩
  · rw [node_modify_self _ _ _ (by rw [length_modify]; exact hrlen)]
  · rw [node_modify_ne _ _ (Ne.symm hc0), hc₁]
  · rw [node_modify_ne _ _ (Ne.symm hc0), hc₁]
    exact hleaf

/-- `traverseAll` at the only child of the root, a leaf whose stream has finished: the child
reports nothing, and the root is left with no list. -/
theorem traverseAll_only_child {ops : StreamOps S} (fuel : Nat) {t : StreamTree S} {c : NodeRef}
    (hroot : (t.node root).parent = none) (hc : (t.node root).children = [c])
    (hcpar : (t.node c).parent = some root) (hc0 : c ≠ root) (hfin : finishedAt ops t c = true)
    (hleaf : (t.node c).activeChildren = 0) :
    ∃ t', traverseAll ops (fuel + 2) t c = some (t', []) ∧ (t'.node root).children = [] := by
  obtain ⟨t', hd, hempty, hstream, hleaf'⟩ := deactivateNode_only_child fuel
    (t := { t with openStreams := t.openStreams - 1 }) hroot hc hcpar hc0
    (lt_length_of_finishedAt hfin) hleaf
  refine ⟨t', ?_, hempty⟩
  rw [traverseAll, closeIfFinished, if_pos hfin, hd]
  simp [hstream, hleaf']

/-! ## `scheduleAll` divides by zero -/

/-- In every well-formed tree whose root lists a single leaf, `scheduleAll` panics once that
leaf's stream has sent its FIN: the leaf is unlisted during its own visit, and the root's cursor
is then moved modulo the empty list. -/
theorem scheduleAll_only_child_panics (ops : StreamOps S) {t : StreamTree S} (hwf : WellFormed t)
    (hroot : finishedAt ops t root = false) {c : NodeRef} (hc : (t.node root).children = [c])
    (hfin : finishedAt ops t c = true) (hleaf : (t.node c).activeChildren = 0) :
    scheduleAll ops t = none := by
  have hr : Tracked t root := .inl rfl
  -- the root's counter and cursor, as the invariant fixes them for a list of one
  have hpos : (t.node root).activeChildren > 0 := by
    rw [gt_iff_lt, UInt16.lt_iff_toNat_lt, hwf.activeChildren_eq root hr, hc,
      List.length_singleton]
    decide
  have hnext : (t.node root).nextChild.toNat = 0 := by
    have := hwf.nextChild_lt root hr (by rw [hc]; exact List.cons_ne_nil c [])
    rw [hc, List.length_singleton] at this
    omega
  have hcpar : (t.node c).parent = some root :=
    hwf.child_parent root hr c (by rw [hc]; exact List.mem_singleton_self c)
  have hc0 : c ≠ root := by
    rintro rfl
    rw [hwf.root_parent] at hcpar
    cases hcpar
  obtain ⟨f, hf⟩ : ∃ f, t.fuel = f + 4 := ⟨t.fuel - 4, by have := four_le_fuel t; omega⟩
  obtain ⟨t', hc', hempty⟩ :=
    traverseAll_only_child f hwf.root_parent hc hcpar hc0 hfin hleaf
  have hall : traverseAll ops (f + 4) t root = none := by
    rw [traverseAll, closeIfFinished, if_neg (by rw [hroot]; decide)]
    simp only [Option.bind_eq_bind, Option.bind_some, if_pos hpos]
    rw [traverseAllChildren.eq_def]
    simp only [hc, List.length_singleton, Nat.zero_lt_one, if_true, hnext, List.getElem?_cons_zero,
      Option.bind_eq_bind, Option.bind_some, hc', advanceCursor_eq_none hempty, Option.bind_none]
  simp only [scheduleAll, hf, hall]
  rfl

/-- The tree of the one stream 5, after its FIN went out: well-formed, and `scheduleAll` panics. -/
theorem scheduleAll_only_child_panics_five :
    ∃ t, addNode finSentOps (newStreamTree StreamID) (some 5) = some (.ok t) ∧ WellFormed t ∧
      scheduleAll finSentOps t = none :=
  ⟨_, rfl, wellFormed_addNode_five _ rfl,
    scheduleAll_only_child_panics finSentOps (wellFormed_addNode_five _ rfl) (by decide) (c := 1)
      (by decide) (by decide) (by decide)⟩

/-! ## `schedule` steps over a sibling -/

/-- Streams of which only stream 5 has finished writing and sent its FIN, and none has a size
recorded. -/
def finSentFiveOps : StreamOps StreamID := ⟨id, fun s => s == 5, fun _ => false⟩

/-- The tree of the streams 5, 7 and 9, added in that order, is well-formed: the root lists their
nodes 1, 2 and 3, and nothing else is tracked. -/
theorem wellFormed_addNode_five_seven_nine (t₁ t₂ t₃ : StreamTree StreamID)
    (h₁ : addNode finSentFiveOps (newStreamTree StreamID) (some 5) = some (.ok t₁))
    (h₂ : addNode finSentFiveOps t₁ (some 7) = some (.ok t₂))
    (h₃ : addNode finSentFiveOps t₂ (some 9) = some (.ok t₃)) : WellFormed t₃ := by
  obtain rfl := Except.ok.inj (Option.some.inj h₁)
  obtain rfl := Except.ok.inj (Option.some.inj h₂)
  obtain rfl := Except.ok.inj (Option.some.inj h₃)
  constructor
  case root_parent => decide
  case listed_iff =>
    refine forall_tracked_setNodeMap (fun _ => ⟨root, rfl, by decide⟩) ?_
    refine forall_tracked_setNodeMap (fun _ => ⟨root, rfl, by decide⟩) ?_
    refine forall_tracked_setNodeMap (fun _ => ⟨root, rfl, by decide⟩) ?_
    exact forall_tracked_newStreamTree (S := StreamID) fun h => absurd rfl h
  case reaches_root =>
    refine forall_tracked_setNodeMap ⟨1, rfl⟩ ?_
    refine forall_tracked_setNodeMap ⟨1, rfl⟩ ?_
    refine forall_tracked_setNodeMap ⟨1, rfl⟩ ?_
    exact forall_tracked_newStreamTree (S := StreamID) (Forest.above_refl _)
  all_goals
    refine forall_tracked_setNodeMap (by decide) ?_
    refine forall_tracked_setNodeMap (by decide) ?_
    refine forall_tracked_setNodeMap (by decide) ?_
    exact forall_tracked_newStreamTree (S := StreamID) (by decide)

/-- Stream 5 finishes during the walk of the root's list, its node is unlisted, stream 7 moves
into its place, and the cursor steps past it: `schedule` reports stream 9 alone, while the node of
stream 7 is listed under the root without a stream above it, active, unvisited, and its stream
has neither finished nor a size recorded. -/
theorem schedule_skips_sibling :
    ∃ t₁ t₂ t₃ t', addNode finSentFiveOps (newStreamTree StreamID) (some 5) = some (.ok t₁) ∧
      addNode finSentFiveOps t₁ (some 7) = some (.ok t₂) ∧
      addNode finSentFiveOps t₂ (some 9) = some (.ok t₃) ∧ WellFormed t₃ ∧
      (t₃.node root).stream = none ∧ 2 ∈ (t₃.node root).children ∧
      (t₃.node 2).stream = some 7 ∧ (t₃.node 2).state = .active ∧ (t₃.node 2).visited = false ∧
      finSentFiveOps.finishedWriteAndSentFin 7 = false ∧ finSentFiveOps.checksize 7 = false ∧
      schedule finSentFiveOps t₃ = some (t', [some 9]) :=
  ⟨_, _, _, _, rfl, rfl, rfl, wellFormed_addNode_five_seven_nine _ _ _ rfl rfl rfl, by decide,
    by decide, rfl, rfl, rfl, rfl, rfl, rfl⟩

end StreamTree
end PStream
