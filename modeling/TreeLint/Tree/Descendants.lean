import TreeLint.Tree.Node

/-!
# Walks over a tree

A walk keeps the nodes that it still has to visit, in visiting order. Taking the next node puts
its children in front of the others, so a walk goes over a tree of any depth without recursion.
Each walk says which kinds of nodes it enters; a node that is not entered is still yielded. A
scoped walk yields classes, methods, constructors, functions and lambdas, but does not enter
them.

Beside the walk stands the plain recursion `preorder`: a node, then the preorder of each child.
`drain_eq_flatMap` says that the walk yields exactly the recursive list.
-/

namespace TreeLint

/-- A walk over a list of trees, from the front. -/
structure Walk where
  /-- The nodes to visit, next one first. -/
  pending : List Node
  /-- Whether the children of a node of this kind are visited. -/
  enters : Kind → Bool

namespace Walk

/-- The children that a walk visits after `n`. -/
def inner (enters : Kind → Bool) (n : Node) : List Node :=
  if enters n.kind then n.subnodes else []

/-- The next node and the walk after it. -/
def next? (w : Walk) : Option (Node × Walk) :=
  match w.pending with
  | [] => none
  | n :: rest => some (n, { w with pending := inner w.enters n ++ rest })

theorem sizeSum_inner_lt (enters : Kind → Bool) (n : Node) :
    Node.sizeSum (inner enters n) < n.size := by
  unfold inner
  split
  · exact n.sizeSum_subnodes_lt
  · simpa [Node.sizeSum] using n.size_pos

/-- A step leaves fewer nodes to visit. -/
theorem next?_decreases {w w' : Walk} {n : Node} (h : w.next? = some (n, w')) :
    Node.sizeSum w'.pending < Node.sizeSum w.pending := by
  obtain ⟨pending, enters⟩ := w
  cases pending with
  | nil => simp [next?] at h
  | cons m rest =>
    obtain ⟨rfl, rfl⟩ : m = n ∧ _ = w' := by simpa [next?] using h
    have := sizeSum_inner_lt enters m
    simp [Node.sizeSum] at this ⊢
    omega

/-- Every node that the walk yields, in order. -/
def drain (w : Walk) : List Node :=
  match _h : w.next? with
  | none => []
  | some (n, w') => n :: drain w'
termination_by Node.sizeSum w.pending
decreasing_by exact next?_decreases _h

/-- A walk of everything enters every node. -/
def everything (_ : Kind) : Bool := true

/-- A walk inside one scope enters no node that opens another. -/
def withinScope (k : Kind) : Bool := !k.isScopeBoundary

end Walk

namespace Node

/-- The proper descendants in pre-order. -/
def descendants (n : Node) : List Node := Walk.drain ⟨n.subnodes, Walk.everything⟩

/-- The proper descendants in pre-order that lie in the scope of `n`: nested declarations of a
scope are listed, what is inside them is not. -/
def scopedDescendants (n : Node) : List Node := Walk.drain ⟨n.subnodes, Walk.withinScope⟩

/-- Whether an identifier `x` occurs in the tree, at its root included. -/
def references (n : Node) (x : String) : Bool :=
  n.isIdentifier x || n.descendants.any (·.isIdentifier x)

/-- The number of nodes, counted by walking. -/
def nodeCount (n : Node) : Nat := 1 + n.descendants.length

/-! ## The recursive order -/

mutual

/-- The nodes of a tree, each before its children, with nothing below a node that is not
entered. -/
def preorder (enters : Kind → Bool) : Node → List Node
  | ⟨h, cs⟩ => ⟨h, cs⟩ :: if enters h.kind then preorderList enters cs else []

/-- The nodes of a list of children, tree after tree. -/
def preorderList (enters : Kind → Bool) : List (Role × Node) → List Node
  | [] => []
  | (_, n) :: cs => n.preorder enters ++ preorderList enters cs

end

theorem preorderList_eq (enters : Kind → Bool) (cs : List (Role × Node)) :
    preorderList enters cs = (cs.map (·.2)).flatMap (preorder enters) := by
  induction cs with
  | nil => rfl
  | cons c cs ih => obtain ⟨r, n⟩ := c; simp [preorderList, ih]

theorem preorder_eq (enters : Kind → Bool) (n : Node) :
    n.preorder enters = n :: (Walk.inner enters n).flatMap (preorder enters) := by
  obtain ⟨h, cs⟩ := n
  rw [preorder, Walk.inner]
  split <;> simp [preorderList_eq, subnodes]

end Node

/-- A walk yields the recursive pre-order of each pending tree, one after the other. -/
theorem Walk.drain_eq_flatMap (w : Walk) :
    w.drain = w.pending.flatMap (Node.preorder w.enters) := by
  fun_induction Walk.drain w with
  | case1 w h =>
    obtain ⟨pending, enters⟩ := w
    cases pending with
    | nil => rfl
    | cons m rest => simp [next?] at h
  | case2 w n w' h ih =>
    obtain ⟨pending, enters⟩ := w
    cases pending with
    | nil => simp [next?] at h
    | cons m rest =>
      obtain ⟨rfl, rfl⟩ : m = n ∧ _ = w' := by simpa [next?] using h
      simp [ih, Node.preorder_eq enters m]

end TreeLint
