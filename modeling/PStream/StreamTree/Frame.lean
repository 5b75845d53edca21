import PStream.StreamTree.Methods

/-!
# What the list-keeping methods leave alone

`addWeight` and `removeWeight` rewrite children lists, the two counters that go with them and the
round-robin cursor, and nothing else: every node keeps its ID, stream, weight, state, parent and
visited flag, no node is allocated, and `nodeMap` stays.  `Relisted t t'` says this of two trees.
It is a preorder, every write of a list-keeping method keeps it, and so the whole cascade does.

From this, `addNode` places a node with the default weight below the root for every stream,
whatever priority the stream itself carries, and leaves every node allocated before alone.
-/

set_option autoImplicit false

namespace PStream

variable {S : Type}

/-- The fields of a node that the list-keeping methods never write. -/
def Node.head (nd : Node S) : StreamID × Option S × UInt8 × NodeState × Option NodeRef × Bool :=
  (nd.id, nd.stream, nd.weight, nd.state, nd.parent, nd.visited)

theorem Node.weight_eq_of_head_eq {nd nd' : Node S} (h : nd'.head = nd.head) :
    nd'.weight = nd.weight :=
  congrArg (fun x => x.2.2.1) h

theorem Node.parent_eq_of_head_eq {nd nd' : Node S} (h : nd'.head = nd.head) :
    nd'.parent = nd.parent :=
  congrArg (fun x => x.2.2.2.2.1) h

namespace StreamTree

/-- `t'` is `t` with at most its children lists, their counters and cursors rewritten. -/
structure Relisted (t t' : StreamTree S) : Prop where
  length_eq : t'.nodes.length = t.nodes.length
  nodeMap_eq : t'.nodeMap = t.nodeMap
  openStreams_eq : t'.openStreams = t.openStreams
  head_eq : ∀ r, (t'.node r).head = (t.node r).head

namespace Relisted

variable {t t' t'' : StreamTree S}

theorem refl (t : StreamTree S) : Relisted t t := ⟨rfl, rfl, rfl, fun _ => rfl⟩

theorem trans (h : Relisted t t') (h' : Relisted t' t'') : Relisted t t'' :=
  ⟨h'.length_eq.trans h.length_eq, h'.nodeMap_eq.trans h.nodeMap_eq,
    h'.openStreams_eq.trans h.openStreams_eq, fun r => (h'.head_eq r).trans (h.head_eq r)⟩

end Relisted

/-- A write through a pointer that keeps the node's head. -/
theorem relisted_modify {t : StreamTree S} {n : NodeRef} {f : Node S → Node S}
    (hf : ∀ nd, (f nd).head = nd.head) : Relisted t (t.modify n f) := by
  refine ⟨length_modify .., rfl, rfl, fun r => ?_⟩
  rw [node_modify]
  split
  · exact hf _
  · rfl

theorem addWeight_relisted : ∀ {fuel : Nat} {t t' : StreamTree S} {n c : NodeRef},
    addWeight fuel t n c = some t' → Relisted t t'
  | 0, _, _, _, _, h => by cases h
  | fuel + 1, t, t', n, c, h => by
    -- the write to `n`, then maybe the same step one level up
    rw [addWeight] at h
    generalize ht₁ : t.modify n _ = t₁ at h
    have hw : Relisted t t₁ := ht₁ ▸ relisted_modify fun _ => rfl
    split at h
    · split at h
      · exact hw.trans (addWeight_relisted h)
      · cases h
        exact hw
    · cases h
      exact hw

theorem removeWeight_relisted : ∀ {fuel : Nat} {t t' : StreamTree S} {n c : NodeRef},
    removeWeight fuel t n c = some t' → Relisted t t'
  | 0, _, _, _, _, h => by cases h
  | fuel + 1, t, t', n, c, h => by
    -- the two panics, the write to `n`, then maybe the same step one level up
    rw [removeWeight] at h
    dsimp only at h
    split at h
    · cases h
    split at h
    · cases h
    generalize ht₁ : t.modify n _ = t₁ at h
    have hw : Relisted t t₁ := ht₁ ▸ relisted_modify fun _ => rfl
    split at h
    · split at h
      · exact hw.trans (removeWeight_relisted h)
      · cases h
        exact hw
    · cases h
      exact hw

/-! ## Adding a node -/

@[simp] theorem node_setNodeMap (t : StreamTree S) (id : StreamID) (n r : NodeRef) :
    (t.setNodeMap id n).node r = t.node r := rfl

@[simp] theorem alloc_snd (t : StreamTree S) (nd : Node S) : (t.alloc nd).2 = t.nodes.length := rfl

theorem node_alloc (t : StreamTree S) (nd : Node S) (r : NodeRef) :
    (t.alloc nd).1.node r = if r = t.nodes.length then nd else t.node r := by
  simp only [alloc, node, List.getD_eq_getElem?_getD]
  rcases Nat.lt_trichotomy r t.nodes.length with h | rfl | h
  · simp [List.getElem?_append_left h, Nat.ne_of_lt h]
  · simp
  · simp [List.getElem?_eq_none (Nat.le_of_lt h), Nat.ne_of_gt h,
      List.getElem?_eq_none (show (t.nodes ++ [nd]).length ≤ r by simp; omega)]

/-- `addNode` of a stream: allocate its node, list it under the root, enter it in `nodeMap`. -/
theorem addNode_some (ops : StreamOps S) (t : StreamTree S) (s : S) :
    addNode ops t (some s) =
      (addWeight (t.alloc (newNode (ops.streamID s) (some s) (some root))).1.fuel
        (t.alloc (newNode (ops.streamID s) (some s) (some root))).1 root t.nodes.length).bind
        fun t₂ => some (.ok (t₂.setNodeMap (ops.streamID s) t.nodes.length)) := by
  -- the new node is born active, so it is always listed
  have hnew : ((t.alloc (newNode (ops.streamID s) (some s) (some root))).1.node
      t.nodes.length).state = .active := by
    rw [node_alloc, if_pos rfl]
    rfl
  simp only [addNode, alloc_snd, hnew, true_or, if_true]
  rfl

theorem addNode_spec {ops : StreamOps S} {t t' : StreamTree S} {s : S}
    (h : addNode ops t (some s) = some (.ok t')) :
    t'.nodeMap (ops.streamID s) = some t.nodes.length ∧
      (∀ id, id ≠ ops.streamID s → t'.nodeMap id = t.nodeMap id) ∧
      (t'.node t.nodes.length).head = (newNode (ops.streamID s) (some s) (some root)).head ∧
      ∀ r < t.nodes.length, (t'.node r).head = (t.node r).head := by
  rw [addNode_some] at h
  obtain ⟨t₂, h₂, ht'⟩ := Option.bind_eq_some_iff.1 h
  cases ht'
  have hr := addWeight_relisted h₂
  refine ⟨by simp [setNodeMap], fun id hid => ?_, ?_, fun r hr' => ?_⟩
  · simp [setNodeMap, hid, hr.nodeMap_eq, alloc]
  · rw [node_setNodeMap, hr.head_eq, node_alloc, if_pos rfl]
  · rw [node_setNodeMap, hr.head_eq, node_alloc, if_neg (Nat.ne_of_lt hr')]

end StreamTree
end PStream
