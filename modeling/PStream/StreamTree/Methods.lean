import PStream.StreamTree.Basic

/-!
# The methods of the stream tree

Each method of `stream_tree.go`, as a function on `StreamTree`.  The order follows the source:
the two list-keeping methods of a node (`addWeight`, `removeWeight`, which call each other's
parents), `deactivateNode`, then the methods of the tree — `addNode`, `maybeSetWeight`,
`maybeSetParent`, `setActive` — and last the three traversals.

Two places in the source are asymmetric, and the model keeps them so:

* `addWeight` adds `weight + 1` to `childrensWeight`, `removeWeight` subtracts `weight - 1`;
* `addWeight` hangs a node into its parent's list only when the node is not active itself,
  `removeWeight` takes it out of its parent's list whenever its last child goes.

`maybeSetParent`'s exclusive loop ranges over `newParent.children` while `removeWeight` shifts
that same slice in place; `exclusiveLoop` walks the backing array the way Go's `range` does.
-/

set_option autoImplicit false

namespace PStream
namespace StreamTree

variable {S : Type}

/-! ## Keeping the children lists -/

/-- `n.addWeight(child)`: list and count `child` under `n`, and when this gives an inactive `n`
its first active child, list `n` under its own parent in turn. -/
def addWeight : Nat → StreamTree S → NodeRef → NodeRef → Option (StreamTree S)
  | 0, _, _, _ => none
  | fuel + 1, t, n, child =>
    let w := (t.node child).weight
    let t := t.modify n fun nd =>
      { nd with
        childrensWeight := nd.childrensWeight + (w.toUInt32 + 1)
        activeChildren := nd.activeChildren + 1
        children := nd.children ++ [child] }
    let nd := t.node n
    match nd.parent with
    | some p =>
      if nd.state ≠ .active ∧ nd.activeChildren = 1 then addWeight fuel t p n else some t
    | none => some t

/-- The position `removeWeight` deletes: that of `child`, or 0 when `child` is not listed — the Go
loop leaves `index` at its initial value then. -/
def removalIndex (cs : List NodeRef) (child : NodeRef) : Nat :=
  (cs.findIdx? (· == child)).getD 0

/-- `n.removeWeight(child)`: delete `child` from `n`'s list, keep the round-robin cursor in range,
uncount it, and when `n` has no active child left, take `n` out of its parent's list. -/
def removeWeight : Nat → StreamTree S → NodeRef → NodeRef → Option (StreamTree S)
  | 0, _, _, _ => none
  | fuel + 1, t, n, child =>
    let nd := t.node n
    -- `n.children[index+1:]` is out of range exactly when the list is empty
    if nd.children = [] then none else
    let cs := nd.children.eraseIdx (removalIndex nd.children child)
    let len := UInt16.ofNat cs.length
    -- `n.nextChild % uint16(len(n.children))` divides by zero at a multiple of 2^16 children
    if cs ≠ [] ∧ len = 0 then none else
    let w := (t.node child).weight
    let t := t.modify n fun nd =>
      { nd with
        children := cs
        nextChild := if cs = [] then 0 else nd.nextChild % len
        childrensWeight := nd.childrensWeight - (w.toUInt32 - 1)
        activeChildren := nd.activeChildren - 1 }
    let nd := t.node n
    match nd.parent with
    | some p => if nd.activeChildren = 0 then removeWeight fuel t p n else some t
    | none => some t

/-- `n.deactivateNode()`: close the node, drop its stream, and unlist it if it has no active
child. -/
def deactivateNode (fuel : Nat) (t : StreamTree S) (n : NodeRef) : Option (StreamTree S) :=
  let t := t.modify n fun nd => { nd with state := .closed, stream := none }
  let nd := t.node n
  match nd.parent with
  | some p => if nd.activeChildren = 0 then removeWeight fuel t p n else some t
  | none => some t

/-! ## Adding nodes, weights and activity -/

/-- `sch.nodeMap[id] = n`. -/
def setNodeMap (t : StreamTree S) (id : StreamID) (n : NodeRef) : StreamTree S :=
  { t with nodeMap := fun id' => if id' = id then some n else t.nodeMap id' }

/-- `addNode`: a new node below the root for the stream `child`.  The node is born active, so it
is always listed under the root. -/
def addNode (ops : StreamOps S) (t : StreamTree S) (child : Option S) :
    Option (Except String (StreamTree S)) :=
  match child with
  | none => some (.error "attempt to add unknown node")
  | some s => do
    let (t, n) := t.alloc (newNode (ops.streamID s) (some s) (some root))
    let nd := t.node n
    let t ← if nd.state = .active ∨ nd.id = 1 ∨ nd.id = 3 then addWeight t.fuel t root n
      else some t
    pure (.ok (t.setNodeMap (ops.streamID s) n))

/-- `maybeSetWeight`: give the stream `id` a new weight, and correct its parent's
`childrensWeight` when the node is listed there. -/
def maybeSetWeight (t : StreamTree S) (id : StreamID) (weight : UInt8) :
    Option (Except String (StreamTree S)) :=
  if id = 1 ∨ id = 3 then some (.ok t) else
  match t.nodeMap id with
  | none => some (.error s!"setting weight of unknown stream {id}")
  | some n =>
    let nd := t.node n
    if nd.weight = weight then some (.ok t) else do
    let t ← if nd.state = .active ∨ nd.activeChildren > 0 then
        match nd.parent with
        | none => none
        | some p =>
          let diff : Int := (weight.toNat : Int) - nd.weight.toNat
          some (t.modify p fun pd =>
            { pd with childrensWeight := UInt32.ofInt ((pd.childrensWeight.toNat : Int) + diff) })
      else some t
    pure (.ok (t.modify n fun nd => { nd with weight }))

/-- `setActive`: mark the stream `id` active and list it under its parent — also when it is
listed there already. -/
def setActive (t : StreamTree S) (id : StreamID) : Option (Except String (StreamTree S)) :=
  if id = 1 then some (.ok t) else if id = 3 then some (.ok t) else
  match t.nodeMap id with
  | none => some (.error s!"setting unknown stream {id} active")
  | some n => do
    let t := t.modify n fun nd => { nd with state := .active }
    let some p := (t.node n).parent | none
    let t ← addWeight t.fuel t p n
    pure (.ok { t with openStreams := t.openStreams + 1 })

/-! ## Reprioritisation -/

/-- The body of `maybeSetParent`'s RFC 7540 loop, run where the walk meets `child`: `newParent`
was a descendant of `child`, so it moves — with its listing, if it has one — to `oldParent`. -/
def moveDescendant (fuel : Nat) (t : StreamTree S) (newParent : NodeRef)
    (oldParent : Option NodeRef) : Option (StreamTree S) := do
  let np := t.node newParent
  let t ← if np.state = .active ∨ np.activeChildren > 0 then do
      let some p := np.parent | none
      let t ← removeWeight fuel t p newParent
      match oldParent with
      | some o => addWeight fuel t o newParent
      | none => some t
    else some t
  pure (t.modify newParent fun nd => { nd with parent := oldParent })

/-- `for n := newParent.parent; n.parent != nil; n = n.parent`: the walk from `newParent`'s parent
up to the root, looking for `child` among the ancestors. -/
def dependencyLoop : Nat → StreamTree S → NodeRef → NodeRef → NodeRef → Option NodeRef →
    Option (StreamTree S)
  | 0, _, _, _, _, _ => none
  | fuel + 1, t, n, child, newParent, oldParent =>
    if (t.node n).parent.isNone then some t else do
    let t ← if n = child then moveDescendant fuel t newParent oldParent else some t
    -- `n = n.parent` reads the pointer after the body; a nil one fails the next test
    let some up := (t.node n).parent | none
    dependencyLoop fuel t up child newParent oldParent

/-- "Remove node from its previous parent": unlist `child` if it is listed, and clear its parent
pointer. -/
def detach (fuel : Nat) (t : StreamTree S) (child : NodeRef) : Option (StreamTree S) :=
  let cd := t.node child
  match cd.parent with
  | none => some t
  | some p => do
    let t ← if cd.state = .active ∨ cd.activeChildren > 0 then removeWeight fuel t p child
      else some t
    pure (t.modify child fun nd => { nd with parent := none })

/-- The exclusive loop, `for _, c := range newParent.children`.  Go evaluates the slice once: the
loop visits positions `0 .. len - 1` of the backing array `arr` it had then.  `removeWeight` on
`newParent` writes the shortened list over the front of that same array and leaves the cells
behind it alone, so after each removal the array is the new list followed by the old tail. -/
def exclusiveLoop : Nat → StreamTree S → NodeRef → NodeRef → List NodeRef → Nat →
    Option (StreamTree S)
  | 0, _, _, _, _, _ => none
  | fuel + 1, t, child, newParent, arr, i =>
    match arr[i]? with
    | none => some t
    | some c =>
      if c = newParent then exclusiveLoop fuel t child newParent arr (i + 1) else do
      let cd := t.node c
      let (t, arr) ← if cd.state = .active ∨ cd.activeChildren > 0 then do
          let t ← addWeight fuel t child c
          let t ← removeWeight fuel t newParent c
          let live := (t.node newParent).children
          pure (t, live ++ arr.drop live.length)
        else some (t, arr)
      let t := t.modify c fun nd => { nd with parent := some child }
      exclusiveLoop fuel t child newParent arr (i + 1)

/-- The last step of `maybeSetParent`: point `child` at `newParent`, and list it there when it is
active or has active dependants. -/
def attach (fuel : Nat) (t : StreamTree S) (child newParent : NodeRef) : Option (StreamTree S) :=
  let t := t.modify child fun nd => { nd with parent := some newParent }
  let cd := t.node child
  if cd.state = .active ∨ cd.activeChildren > 0 then addWeight fuel t newParent child else some t

/-- The mutating part of `maybeSetParent`, once both nodes have been found. -/
def reparent (fuel : Nat) (t : StreamTree S) (child newParent : NodeRef) (exclusive : Bool) :
    Option (StreamTree S) := do
  let oldParent := (t.node child).parent
  -- the loop starts at `newParent.parent` and dereferences it straight away
  let some start := (t.node newParent).parent | none
  let t ← dependencyLoop fuel t start child newParent oldParent
  let t ← detach fuel t child
  let t ← if exclusive then exclusiveLoop fuel t child newParent (t.node newParent).children 0
    else some t
  attach fuel t child newParent

/-- `maybeSetParent`: make `childID` depend on `parentID`, exclusively or not.  A request for the
header stream 3 as parent is one for the root, ID 0. -/
def maybeSetParent (t : StreamTree S) (childID parentID : StreamID) (exclusive : Bool) :
    Option (Except String (StreamTree S)) :=
  if childID = parentID then some (.error s!"setting stream {childID} as its own parent")
  else if childID = 1 then some (.error "setting parent of crypto stream")
  else if childID = 3 then some (.error "setting parent of header stream")
  else if parentID = 1 then some (.error "setting parent to crypto stream")
  else
    let parentID : StreamID := if parentID = 3 then 0 else parentID
    match t.nodeMap childID with
    | none =>
      some (.error s!"setting unknown stream {childID} as exclusive child of stream {parentID}")
    | some child =>
      -- already the parent: `child.parent != nil && child.parent.id == parentID`
      let already := match (t.node child).parent with
        | some p => (t.node p).id == parentID
        | none => false
      if !exclusive && already then some (.ok t) else
      match t.nodeMap parentID with
      | none => some (.error
          s!"setting stream {childID} as exclusive child of unknown stream {parentID}")
      | some newParent => (reparent t.fuel t child newParent exclusive).map .ok

/-! ## Traversals -/

/-- `n.stream != nil && n.stream.finishedWriteAndSentFin()`. -/
def finishedAt (ops : StreamOps S) (t : StreamTree S) (n : NodeRef) : Bool :=
  match (t.node n).stream with
  | some s => ops.finishedWriteAndSentFin s
  | none => false

/-- `n.stream != nil && n.stream.checksize`. -/
def checksizeAt (ops : StreamOps S) (t : StreamTree S) (n : NodeRef) : Bool :=
  match (t.node n).stream with
  | some s => ops.checksize s
  | none => false

/-- The first statement of both traversals: a node whose stream has finished writing and sent
its FIN is closed, and `openStreams` counts it down. -/
def closeIfFinished (ops : StreamOps S) (fuel : Nat) (t : StreamTree S) (n : NodeRef) :
    Option (StreamTree S) :=
  if finishedAt ops t n then deactivateNode fuel { t with openStreams := t.openStreams - 1 } n
  else some t

/-- `n.nextChild = (n.nextChild + 1) % uint16(len(n.children))`; a zero length panics. -/
def advanceCursor (t : StreamTree S) (n : NodeRef) : Option (StreamTree S) :=
  let len := UInt16.ofNat (t.node n).children.length
  if len = 0 then none else some (t.modify n fun nd => { nd with nextChild := (nd.nextChild + 1) % len })

mutual

/-- `traverse`: the nodes whose streams may be given paths now.  A listed node is reported when its
stream has not been given paths yet; the traversal goes below a node only when the node has no
stream, its stream has finished, or it is the crypto or header stream.  Every visit moves the
parent's round-robin cursor on by one. -/
def traverse (ops : StreamOps S) : Nat → StreamTree S → NodeRef →
    Option (StreamTree S × List NodeRef)
  | 0, _, _ => none
  | fuel + 1, t, n => do
    let t ← closeIfFinished ops fuel t n
    let t := if checksizeAt ops t n then t.modify n fun nd => { nd with visited := true } else t
    let nd := t.node n
    let (t, strm) ← if !nd.visited && nd.stream.isSome then
        some (t, if nd.state = .active then [n] else [])
      else if nd.activeChildren > 0 then
        if nd.stream.isNone || finishedAt ops t n || nd.id == 1 || nd.id == 3 then
          traverseChildren ops fuel t n 0 []
        else some (t, [])
      else some (t, [])
    match (t.node n).parent with
    | some p =>
      if (t.node p).children ≠ [] then (advanceCursor t p).map fun t => (t, strm)
      else some (t, strm)
    | none => some (t, strm)

/-- `for i := 0; i < len(n.children); i++ { c := n.children[n.nextChild]; ... }` of `traverse`:
the children's traversals move the cursor themselves. -/
def traverseChildren (ops : StreamOps S) : Nat → StreamTree S → NodeRef → Nat → List NodeRef →
    Option (StreamTree S × List NodeRef)
  | 0, _, _, _, _ => none
  | fuel + 1, t, n, i, strm =>
    let nd := t.node n
    if i < nd.children.length then do
      let c ← nd.children[nd.nextChild.toNat]?
      let (t, r) ← traverse ops fuel t c
      traverseChildren ops fuel t n (i + 1) (strm ++ r)
    else some (t, strm)

end

mutual

/-- `traverseAll`: every node that still has a stream, below every node with an active child. -/
def traverseAll (ops : StreamOps S) : Nat → StreamTree S → NodeRef →
    Option (StreamTree S × List NodeRef)
  | 0, _, _ => none
  | fuel + 1, t, n => do
    let t ← closeIfFinished ops fuel t n
    let strm := if (t.node n).stream.isSome then [n] else []
    if (t.node n).activeChildren > 0 then traverseAllChildren ops fuel t n 0 strm
    else some (t, strm)

/-- The loop of `traverseAll`, which moves the cursor itself after each child — by the length
of the list as it is *after* the child's traversal, which is zero once the last child closed. -/
def traverseAllChildren (ops : StreamOps S) : Nat → StreamTree S → NodeRef → Nat →
    List NodeRef → Option (StreamTree S × List NodeRef)
  | 0, _, _, _, _ => none
  | fuel + 1, t, n, i, strm =>
    let nd := t.node n
    if i < nd.children.length then do
      let c ← nd.children[nd.nextChild.toNat]?
      let (t, r) ← traverseAll ops fuel t c
      let t ← advanceCursor t n
      traverseAllChildren ops fuel t n (i + 1) (strm ++ r)
    else some (t, strm)

end

/-- `schedule`: the streams of the nodes `traverse` reports, from the root. -/
def schedule (ops : StreamOps S) (t : StreamTree S) : Option (StreamTree S × List (Option S)) := do
  let (t, nodes) ← traverse ops t.fuel t root
  pure (t, nodes.map fun r => (t.node r).stream)

/-- `scheduleAll`: the streams of the nodes `traverseAll` reports, from the root. -/
def scheduleAll (ops : StreamOps S) (t : StreamTree S) :
    Option (StreamTree S × List (Option S)) := do
  let (t, nodes) ← traverseAll ops t.fuel t root
  pure (t, nodes.map fun r => (t.node r).stream)

mutual

/-- The `dfs` of `printTree`.  The levels it records are only printed in debug mode; what stays is
the cursor it moves. -/
def printDfs : Nat → StreamTree S → NodeRef → Option (StreamTree S)
  | 0, _, _ => none
  | fuel + 1, t, n =>
    if (t.node n).activeChildren > 0 then printDfsChildren fuel t n 0 else some t

/-- The loop of `printTree`'s `dfs`. -/
def printDfsChildren : Nat → StreamTree S → NodeRef → Nat → Option (StreamTree S)
  | 0, _, _, _ => none
  | fuel + 1, t, n, i =>
    let nd := t.node n
    if i < nd.children.length then do
      let c ← nd.children[nd.nextChild.toNat]?
      let t ← printDfs fuel t c
      let t ← advanceCursor t n
      printDfsChildren fuel t n (i + 1)
    else some t

end

/-- `printTree`. -/
def printTree (t : StreamTree S) : Option (StreamTree S) := printDfs t.fuel t root

end StreamTree
end PStream
