import Mathlib.Algebra.GroupWithZero.Nat
import Mathlib.Data.UInt
import PStream.Protocol

/-!
# The stream dependency tree

`stream_tree.go` keeps the HTTP/2 priority tree of a session: one node per stream, hung below a
root of ID 0, with each node's *children* list holding those dependants that are active or have
active dependants of their own.  The scheduler walks this list to find the streams it may assign
to paths.

The Go tree is a graph of pointers, mutated in place by a handful of mutually recursive
methods, so it is modelled as a heap: `StreamTree.nodes` is the list of every node ever
allocated, a `NodeRef` is an index into it, and the root is the first node, which nothing ever
moves.  Each method becomes a function from a tree to a tree.

## What a call can do

Go code can fail without returning an error: a nil pointer dereference, a slice bound out of
range and a modulo by zero all panic, and the recursions here (up the parent chain, down the
children lists) can run for ever on a cyclic state.  A call therefore returns an `Option`, where
`none` is a call that never returns normally; every recursion takes an explicit `fuel` argument and
gives `none` when it runs out.  The entry points supply `StreamTree.fuel`, which exceeds the depth
of every run on a tree whose parent pointers and children lists have no cycle.

Errors that Go *returns* (`fmt.Errorf`) are `Except.error` with the text of the Go message; in
every such case the Go method has not touched the tree yet.

## Streams

A node points to a stream, and the traversals read three things of it: its ID, whether it has
finished writing and sent its FIN (`finishedWriteAndSentFin`), and whether its size has been
recorded (`checksize`).  The tree is generic in the type `S` of stream pointers and reads them
through a `StreamOps S`; a session instantiates it with its own table of streams.
-/

set_option autoImplicit false

namespace PStream

/-- Go's `nodeIdle`, `nodeActive` and `nodeClosed` (the values 0, 1, 2 of the `uint8` field). -/
inductive NodeState where
  | idle
  | active
  | closed
  deriving DecidableEq, Repr, Inhabited

/-- A pointer to a node: its index in `StreamTree.nodes`. -/
abbrev NodeRef := Nat

/-- What the tree reads of a stream. -/
structure StreamOps (S : Type) where
  /-- The stream's ID. -/
  streamID : S → StreamID
  /-- `stream.finishedWriteAndSentFin()`: `Close` was called and the FIN has gone out. -/
  finishedWriteAndSentFin : S → Bool
  /-- `stream.checksize`: the stream's size has been detected and it was given paths. -/
  checksize : S → Bool

/-- A node of the tree (`node` in `stream_tree.go`). -/
structure Node (S : Type) where
  id : StreamID
  stream : Option S
  weight : UInt8
  childrensWeight : UInt32
  state : NodeState
  activeChildren : UInt16
  parent : Option NodeRef
  children : List NodeRef
  nextChild : UInt16
  /-- Set once the stream has been assigned paths. -/
  visited : Bool
  deriving Inhabited

/-- `newNode`: a fresh node is active, has the default weight and no children. -/
def newNode {S : Type} (id : StreamID) (stream : Option S) (parent : Option NodeRef) : Node S :=
  { id, stream, parent
    weight := Protocol.DefaultStreamWeight
    childrensWeight := 0
    state := .active
    activeChildren := 0
    children := []
    nextChild := 0
    visited := false }

/-- The tree (`streamTree`).  Its `root` is always the first node; `nodeMap` maps a stream ID to
the node made for it by the last `addNode`.  The `streamFramer` and `blockedLast` fields are not
read by any method modelled here. -/
structure StreamTree (S : Type) where
  nodes : List (Node S)
  openStreams : Int
  nodeMap : StreamID → Option NodeRef

/-- `newStreamTree`: a root of ID 0 without a stream, and an empty `nodeMap`. -/
def newStreamTree (S : Type) : StreamTree S :=
  { nodes := [newNode 0 none none], openStreams := 0, nodeMap := fun _ => none }

namespace StreamTree

variable {S : Type}

/-- The root node. -/
def root : NodeRef := 0

/-- Dereference a node pointer. -/
def node (t : StreamTree S) (r : NodeRef) : Node S := t.nodes.getD r default

/-- Write through a node pointer. -/
def modify (t : StreamTree S) (r : NodeRef) (f : Node S → Node S) : StreamTree S :=
  { t with nodes := t.nodes.modify r f }

/-- Allocate a node; it gets the next free index. -/
def alloc (t : StreamTree S) (n : Node S) : StreamTree S × NodeRef :=
  ({ t with nodes := t.nodes ++ [n] }, t.nodes.length)

/-- Enough fuel for every recursion of one call: each node's children are visited at most once
per loop iteration, and each cascade climbs at most once through every node. -/
def fuel (t : StreamTree S) : Nat :=
  (t.nodes.length + (t.nodes.map fun n => n.children.length).sum + 2) ^ 2

@[simp] theorem length_modify (t : StreamTree S) (r : NodeRef) (f : Node S → Node S) :
    (t.modify r f).nodes.length = t.nodes.length := List.length_modify ..

@[simp] theorem nodeMap_modify (t : StreamTree S) (r : NodeRef) (f : Node S → Node S) :
    (t.modify r f).nodeMap = t.nodeMap := rfl

@[simp] theorem openStreams_modify (t : StreamTree S) (r : NodeRef) (f : Node S → Node S) :
    (t.modify r f).openStreams = t.openStreams := rfl

theorem node_modify (t : StreamTree S) (r r' : NodeRef) (f : Node S → Node S) :
    (t.modify r f).node r' =
      if r = r' ∧ r' < t.nodes.length then f (t.node r') else t.node r' := by
  simp only [node, modify, List.getD_eq_getElem?_getD, List.getElem?_modify]
  by_cases h : r' < t.nodes.length <;> simp [h]

@[simp] theorem node_modify_self (t : StreamTree S) (r : NodeRef) (f : Node S → Node S)
    (h : r < t.nodes.length) : (t.modify r f).node r = f (t.node r) := by
  simp [node_modify, h]

@[simp] theorem node_modify_ne (t : StreamTree S) {r r' : NodeRef} (f : Node S → Node S)
    (h : r ≠ r') : (t.modify r f).node r' = t.node r' := by
  simp [node_modify, h]

end StreamTree

end PStream
