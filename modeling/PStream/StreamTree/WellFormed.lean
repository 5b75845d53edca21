import PStream.StreamTree.Methods
import PStream.Lib.Forest

/-!
# Well-formed stream trees

What the tree's methods are written to keep: every listed child points back to the node that
lists it, the two counters of a node agree with its list, a node is listed under its parent
exactly when it is active or has an active dependant, the parent pointers lead to the root, and
the round-robin cursor stays inside the list.  `WellFormed` states this for the root and for
every node that `nodeMap` reaches; nodes that a second `addNode` for the same ID has pushed out
of `nodeMap` are not constrained.

`Step` is one call of the tree's API that returns normally, with any arguments, and any flags on
the streams.

The invariant does not survive the methods.  `removeWeight` subtracts `weight - 1` where
`addWeight` added `weight + 1`, so the first child a node loses leaves two units behind in its
`childrensWeight`: `schedule_unbalances_childrensWeight` closes the only stream of a one-stream
tree and is left with a root that lists nothing and weighs 2.

Nor does `maybeSetParent` reach the root: the root is not in `nodeMap`, so a dependency on
stream 0 is refused as one on an unknown stream.
-/

set_option autoImplicit false

namespace PStream

variable {S : Type}

/-- `n.state == nodeActive || n.activeChildren > 0`: the test every method applies before
listing a node under its parent or unlisting it. -/
def Node.live (nd : Node S) : Prop := nd.state = .active ∨ 0 < nd.activeChildren

instance (nd : Node S) : Decidable nd.live :=
  inferInstanceAs (Decidable (nd.state = .active ∨ 0 < nd.activeChildren))

namespace StreamTree

/-- The parent map of the heap. -/
def parentMap (t : StreamTree S) : NodeRef → Option NodeRef := fun r => (t.node r).parent

/-- The root and the nodes `nodeMap` points to. -/
def Tracked (t : StreamTree S) (r : NodeRef) : Prop := r = root ∨ ∃ id, t.nodeMap id = some r

/-- The representation invariant of the tree. -/
structure WellFormed (t : StreamTree S) : Prop where
  /-- The root has no parent. -/
  root_parent : (t.node root).parent = none
  /-- A node lists no child twice. -/
  nodup : ∀ r, Tracked t r → (t.node r).children.Nodup
  /-- Every listed child points back to the node listing it. -/
  child_parent : ∀ r, Tracked t r → ∀ c ∈ (t.node r).children, (t.node c).parent = some r
  /-- `activeChildren` counts the list. -/
  activeChildren_eq : ∀ r, Tracked t r →
    (t.node r).activeChildren.toNat = (t.node r).children.length
  /-- `childrensWeight` is the sum of `weight + 1` over the list. -/
  childrensWeight_eq : ∀ r, Tracked t r → (t.node r).childrensWeight =
    ((t.node r).children.map fun c => (t.node c).weight.toUInt32 + 1).sum
  /-- A node other than the root is listed under its parent exactly when it is live. -/
  listed_iff : ∀ r, Tracked t r → r ≠ root →
    ∃ p, (t.node r).parent = some p ∧ (r ∈ (t.node p).children ↔ (t.node r).live)
  /-- The parent pointers lead to the root. -/
  reaches_root : ∀ r, Tracked t r → Forest.Above t.parentMap root r
  /-- The round-robin cursor points into a non-empty list. -/
  nextChild_lt : ∀ r, Tracked t r → (t.node r).children ≠ [] →
    (t.node r).nextChild.toNat < (t.node r).children.length

/-- One call of the tree's API that returns normally. -/
inductive Step (ops : StreamOps S) : StreamTree S → StreamTree S → Prop
  | addNode {t t' : StreamTree S} (child : Option S) (h : addNode ops t child = some (.ok t')) :
      Step ops t t'
  | maybeSetWeight {t t' : StreamTree S} (id : StreamID) (w : UInt8)
      (h : t.maybeSetWeight id w = some (.ok t')) : Step ops t t'
  | maybeSetParent {t t' : StreamTree S} (childID parentID : StreamID) (exclusive : Bool)
      (h : t.maybeSetParent childID parentID exclusive = some (.ok t')) : Step ops t t'
  | setActive {t t' : StreamTree S} (id : StreamID) (h : t.setActive id = some (.ok t')) :
      Step ops t t'
  | schedule {t t' : StreamTree S} {l : List (Option S)} (h : schedule ops t = some (t', l)) :
      Step ops t t'
  | scheduleAll {t t' : StreamTree S} {l : List (Option S)}
      (h : scheduleAll ops t = some (t', l)) : Step ops t t'

theorem tracked_newStreamTree {r : NodeRef} (h : Tracked (newStreamTree S) r) : r = root := by
  rcases h with h | ⟨_, h⟩
  · exact h
  · cases h

theorem tracked_setNodeMap {t : StreamTree S} {id : StreamID} {n r : NodeRef}
    (h : Tracked (t.setNodeMap id n) r) : r = n ∨ Tracked t r := by
  rcases h with h | ⟨id', h⟩
  · exact .inr (.inl h)
  · by_cases hid : id' = id
    · simp only [setNodeMap, hid, if_true, Option.some.injEq] at h
      exact .inl h.symm
    · simp only [setNodeMap, hid, if_false] at h
      exact .inr (.inr ⟨id', h⟩)

/-- What holds of the new node and of every node tracked before holds of every node tracked
after `setNodeMap`. -/
theorem forall_tracked_setNodeMap {t : StreamTree S} {id : StreamID} {n : NodeRef}
    {P : NodeRef → Prop} (hn : P n) (ht : ∀ r, Tracked t r → P r) :
    ∀ r, Tracked (t.setNodeMap id n) r → P r := by
  intro r hr
  rcases tracked_setNodeMap hr with rfl | hr
  · exact hn
  · exact ht r hr

theorem forall_tracked_newStreamTree {P : NodeRef → Prop} (h : P root) :
    ∀ r, Tracked (newStreamTree S) r → P r := by
  intro r hr
  rw [tracked_newStreamTree hr]
  exact h

/-! ## The cascade leaves weight behind -/

/-- Streams that have all finished writing and sent their FIN, and have no size recorded. -/
def finSentOps : StreamOps StreamID := ⟨id, fun _ => true, fun _ => false⟩

/-- The tree of one stream, 5, is well-formed: the root lists the node of stream 5, at index 1,
and nothing else is tracked. -/
theorem wellFormed_addNode_five (t : StreamTree StreamID)
    (ht : addNode finSentOps (newStreamTree StreamID) (some 5) = some (.ok t)) : WellFormed t := by
  obtain rfl := Except.ok.inj (Option.some.inj ht)
  constructor
  case root_parent => decide
  case listed_iff =>
    refine forall_tracked_setNodeMap (fun _ => ⟨root, rfl, by decide⟩) ?_
    exact forall_tracked_newStreamTree (S := StreamID) fun h => absurd rfl h
  case reaches_root =>
    refine forall_tracked_setNodeMap ⟨1, rfl⟩ ?_
    exact forall_tracked_newStreamTree (S := StreamID) (Forest.above_refl _)
  all_goals
    refine forall_tracked_setNodeMap (by decide) ?_
    exact forall_tracked_newStreamTree (S := StreamID) (by decide)

theorem schedule_unbalances_childrensWeight :
    ∃ t t' l, addNode finSentOps (newStreamTree StreamID) (some 5) = some (.ok t) ∧
      WellFormed t ∧ schedule finSentOps t = some (t', l) ∧
      (t'.node root).children = [] ∧ (t'.node root).childrensWeight = 2 ∧ ¬ WellFormed t' := by
  refine ⟨_, _, _, rfl, wellFormed_addNode_five _ rfl, rfl, by decide, by decide, ?_⟩
  intro h
  have := h.childrensWeight_eq root (.inl rfl)
  revert this
  decide

/-! ## Reprioritising to the root

A PRIORITY frame that makes a stream depend on stream 0 asks for the root, and `maybeSetParent`
maps the header stream 3 to 0 for the same reason.  But `addNode` never enters the root into
`nodeMap`: unless the stream hangs below a node of ID 0 already and the request is not
exclusive, the lookup of the new parent fails. -/

theorem maybeSetParent_root_unknown {t : StreamTree S} {childID parentID : StreamID}
    {c : NodeRef} {exclusive : Bool} (hroot : t.nodeMap 0 = none)
    (hc : t.nodeMap childID = some c) (hcid : childID ≠ 0 ∧ childID ≠ 1 ∧ childID ≠ 3)
    (hp : parentID = 0 ∨ parentID = 3)
    (hmove : exclusive = true ∨ ∀ p, (t.node c).parent = some p → (t.node p).id ≠ 0) :
    t.maybeSetParent childID parentID exclusive =
      some (.error s!"setting stream {childID} as exclusive child of unknown stream 0") := by
  obtain ⟨h0, h1, h3⟩ := hcid
  -- both spellings of the root become 0 before the lookups
  have hpid : (if parentID = 3 then 0 else parentID) = (0 : StreamID) := by
    rcases hp with rfl | rfl <;> rfl
  have hne : childID ≠ parentID := by
    rcases hp with rfl | rfl
    · exact h0
    · exact h3
  have hp1 : parentID ≠ 1 := by
    rcases hp with rfl | rfl <;> decide
  simp only [maybeSetParent, hne, h1, h3, hp1, if_false, hpid, hc, hroot]
  -- the shortcut for a parent that is already the requested one is not taken
  rw [if_neg]
  · -- Go prints the rewritten parent ID
    rw [String.append_assoc]
    rfl
  rcases hmove with rfl | hmove
  · simp
  · cases hpar : (t.node c).parent with
    | none => simp
    | some p => simp [hmove p hpar]

/-- The one-stream tree is well-formed, and an exclusive dependency of stream 5 on the root is
refused. -/
theorem maybeSetParent_root_unknown_five :
    ∃ t, addNode finSentOps (newStreamTree StreamID) (some 5) = some (.ok t) ∧ WellFormed t ∧
      t.nodeMap 0 = none ∧ t.maybeSetParent 5 0 true =
        some (.error s!"setting stream {5} as exclusive child of unknown stream 0") :=
  ⟨_, rfl, wellFormed_addNode_five _ rfl, rfl,
    maybeSetParent_root_unknown rfl rfl (by decide) (.inl rfl) (.inl rfl)⟩

end StreamTree
end PStream
