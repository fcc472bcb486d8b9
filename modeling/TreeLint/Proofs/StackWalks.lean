import Mathlib.Algebra.Ring.Nat
import TreeLint.Proofs.Reach

/-!
# Walks on a stack

A walk can keep its pending nodes in an array that grows and shrinks at its end. The next node comes
off the end, and its children are appended in declaration order, so the part that they fill has to
be turned round: the first child comes off first. Is the outcome the pre-order?

**Theorem (`walks_preorder`).** It is, for every tree and every starting node, be it a scope of its
own or not. The walk over everything yields the recursive pre-order of what is below the node. The
walk inside one scope yields the pre-order in which nothing is listed below a class, method,
constructor, function or lambda, the starting node apart; so it yields a part of the former, in the
same order. What is counted by walking is the number of nodes, and an identifier that is sought by
walking is found iff it stands at some position of the tree.

The invariant is that the array, read from its end, holds the pending nodes of a `Walk` (`toWalk`).
One step keeps it (`next?_toWalk`), so a whole run does (`drain_eq`), whatever the array holds.
-/

namespace TreeLint

/-! ## Walks in visiting order -/

namespace Walk

variable {w w' : Walk} {n : Node}

theorem drain_of_none (h : w.next? = none) : w.drain = [] := by
  rw [drain]
  split
  · rfl
  · simp_all

theorem drain_of_some (h : w.next? = some (n, w')) : w.drain = n :: w'.drain := by
  rw [drain]
  split
  · simp_all
  · simp_all

/-- The kinds below which a walk inside one scope does not go. -/
theorem withinScope_eq_false_iff {k : Kind} :
    withinScope k = false ↔ k ∈ [.classDecl, .method, .constructor, .function, .lambda] := by
  cases k <;> decide

end Walk

/-! ## The stack -/

/-- A walk that keeps the nodes to visit in an array, next one last. -/
structure StackWalk where
  stack : Array Node
  /-- Whether the children of a node of this kind are visited. -/
  enters : Kind → Bool

namespace StackWalk

/-- The array with the part from position `k` on turned round. -/
def reverseFrom (k : Nat) (ns : Array Node) : Array Node := ns.take k ++ (ns.drop k).reverse

theorem reverseFrom_size_append (ns ms : Array Node) :
    reverseFrom ns.size (ns ++ ms) = ns ++ ms.reverse := by
  apply Array.toList_inj.1
  simp [reverseFrom]

/-- The walk over what is below `n`. -/
def below (n : Node) (enters : Kind → Bool) : StackWalk := ⟨n.subnodes.toArray.reverse, enters⟩

/-- The next node and the walk after it. -/
def next? (w : StackWalk) : Option (Node × StackWalk) :=
  match w.stack.back? with
  | none => none
  | some n =>
    let rest := w.stack.pop
    if w.enters n.kind then
      some (n, { w with stack := reverseFrom rest.size (rest ++ n.subnodes.toArray) })
    else some (n, { w with stack := rest })

/-- The walk with the same pending nodes in visiting order. -/
def toWalk (w : StackWalk) : Walk := ⟨w.stack.toList.reverse, w.enters⟩

theorem toWalk_below (n : Node) (enters : Kind → Bool) :
    (below n enters).toWalk = ⟨n.subnodes, enters⟩ := by
  simp [below, toWalk]

theorem next?_push (rest : Array Node) (n : Node) (enters : Kind → Bool) :
    next? ⟨rest.push n, enters⟩ =
      some (n, ⟨rest ++ (Walk.inner enters n).toArray.reverse, enters⟩) := by
  rw [next?, Array.back?_push]
  by_cases h : enters n.kind = true
  · simp [h, Walk.inner, reverseFrom_size_append]
  · simp [h, Walk.inner]

/-- **A step on the stack** is a step of the walk in visiting order. -/
theorem next?_toWalk (w : StackWalk) :
    w.toWalk.next? = w.next?.map fun (n, w') => (n, w'.toWalk) := by
  obtain ⟨stack, enters⟩ := w
  by_cases hsize : stack.size = 0
  · obtain rfl : stack = #[] := Array.eq_empty_of_size_eq_zero hsize
    rfl
  · obtain ⟨rest, n, rfl⟩ := Array.eq_push_of_size_ne_zero hsize
    rw [next?_push]
    simp [toWalk, Walk.next?]

theorem next?_decreases {w w' : StackWalk} {n : Node} (h : w.next? = some (n, w')) :
    Node.sizeSum w'.toWalk.pending < Node.sizeSum w.toWalk.pending := by
  have hstep := next?_toWalk w
  rw [h] at hstep
  exact Walk.next?_decreases hstep

/-- Every node that the walk yields, in order. -/
def drain (w : StackWalk) : List Node :=
  match _h : w.next? with
  | none => []
  | some (n, w') => n :: drain w'
termination_by Node.sizeSum w.toWalk.pending
decreasing_by exact next?_decreases _h

/-- **A run on the stack** is a run of the walk in visiting order. -/
theorem drain_eq (w : StackWalk) : w.drain = w.toWalk.drain := by
  fun_induction drain w with
  | case1 w h =>
    have hstep := next?_toWalk w
    rw [h] at hstep
    exact (Walk.drain_of_none hstep).symm
  | case2 w n w' h ih =>
    have hstep := next?_toWalk w
    rw [h] at hstep
    rw [ih, Walk.drain_of_some hstep]

theorem drain_below (n : Node) (enters : Kind → Bool) :
    (below n enters).drain = Node.preorderList enters n.children := by
  rw [drain_eq, toWalk_below, Walk.drain_eq_flatMap, Node.preorderList_eq]
  rfl

end StackWalk

/-! ## What the walks yield -/

namespace Node

theorem descendants_eq (n : Node) : n.descendants = preorderList Walk.everything n.children := by
  rw [descendants, Walk.drain_eq_flatMap, preorderList_eq]
  rfl

theorem scopedDescendants_eq (n : Node) :
    n.scopedDescendants = preorderList Walk.withinScope n.children := by
  rw [scopedDescendants, Walk.drain_eq_flatMap, preorderList_eq]
  rfl

theorem cons_descendants (n : Node) : n :: n.descendants = n.preorder Walk.everything := by
  rw [descendants, Walk.drain_eq_flatMap, preorder_eq]
  rfl

theorem map_node_tail_visits (n : Node) : n.visits.tail.map (·.node) = n.descendants := by
  rw [List.map_tail, map_node_visits, ← cons_descendants, List.tail_cons]

/-- Of these visits, a walk that does not enter every node comes to some, in their order. -/
theorem exists_sublist_tail_visits (n : Node) (enters : Kind → Bool) :
    ∃ vs : List Visit, vs.Sublist n.visits.tail ∧
      vs.map (·.node) = Walk.drain ⟨n.subnodes, enters⟩ := by
  let root : Visit := ⟨[], [], n⟩
  have htail : n.visits.tail = root.children.flatMap Visit.within := by
    show root.within.tail = _
    rw [Visit.within_eq, List.tail_cons]
  refine ⟨root.walkedBelow enters, ?_, Visit.map_node_walkedBelow enters root⟩
  rw [htail]
  exact List.filter_sublist

theorem nodeCount_eq_size (n : Node) : n.nodeCount = n.size := by
  rw [← length_preorder, ← cons_descendants, List.length_cons, nodeCount, Nat.add_comm]

theorem sizeSum_eq_sum (ns : List Node) : sizeSum ns = (ns.map nodeCount).sum := by
  induction ns with
  | nil => rfl
  | cons n ns ih => rw [sizeSum, ih, List.map_cons, List.sum_cons, nodeCount_eq_size]

theorem mem_preorder_iff {n m : Node} :
    m ∈ n.preorder Walk.everything ↔ ∃ path, n.at? path = some m := by
  rw [← map_node_visits, List.mem_map]
  constructor
  · rintro ⟨v, hv, rfl⟩
    exact ⟨v.path, (mem_visits_iff.1 hv).1⟩
  · rintro ⟨path, hpath⟩
    exact ⟨⟨path, n.ancestorsAt path, m⟩, mem_visits_iff.2 ⟨hpath, rfl⟩, rfl⟩

theorem references_iff {n : Node} {x : String} :
    n.references x = true ↔ ∃ path m, n.at? path = some m ∧ m.isIdentifier x = true := by
  have hany : n.references x = (n.preorder Walk.everything).any (·.isIdentifier x) := by
    rw [← cons_descendants, List.any_cons, references]
  rw [hany, List.any_eq_true]
  constructor
  · rintro ⟨m, hm, hx⟩
    obtain ⟨path, hpath⟩ := mem_preorder_iff.1 hm
    exact ⟨path, m, hpath, hx⟩
  · rintro ⟨path, m, hpath, hx⟩
    exact ⟨m, mem_preorder_iff.2 ⟨path, hpath⟩, hx⟩

/-- **The walks below a node are its pre-orders.** The walk on the stack yields what the walk in
visiting order does, and both yield the list of the plain recursion: with everything below the node,
or without what is below a class, method, constructor, function or lambda. The second list is a
part of the first one in the same order, also if nodes are told apart by their positions. The number
of nodes is one more than those of the children together, and an identifier is referenced iff it
stands at some position, the node itself included. -/
theorem walks_preorder (n : Node) :
    ((StackWalk.below n Walk.everything).drain = n.descendants ∧
      n.descendants = preorderList Walk.everything n.children) ∧
    ((StackWalk.below n Walk.withinScope).drain = n.scopedDescendants ∧
      n.scopedDescendants = preorderList Walk.withinScope n.children ∧
      ∀ k, Walk.withinScope k = false ↔
        k ∈ [.classDecl, .method, .constructor, .function, .lambda]) ∧
    (n.scopedDescendants.Sublist n.descendants ∧
      n.visits.tail.map (·.node) = n.descendants ∧
      ∃ vs : List Visit, vs.Sublist n.visits.tail ∧ vs.map (·.node) = n.scopedDescendants) ∧
    n.nodeCount = 1 + (n.subnodes.map nodeCount).sum ∧
    ∀ x, n.references x = true ↔
      ∃ path m, n.at? path = some m ∧ m.kind = .identifier ∧ m.nameText = x := by
  have hall := descendants_eq n
  have hscoped := scopedDescendants_eq n
  obtain ⟨vs, hvs, hnodes⟩ := exists_sublist_tail_visits n Walk.withinScope
  have hpart : n.scopedDescendants.Sublist n.descendants := by
    rw [← map_node_tail_visits, scopedDescendants, ← hnodes]
    exact hvs.map _
  refine ⟨⟨?_, hall⟩, ⟨?_, hscoped, fun k => Walk.withinScope_eq_false_iff⟩,
    ⟨hpart, map_node_tail_visits n, vs, hvs, hnodes⟩, ?_, fun x => ?_⟩
  · rw [StackWalk.drain_below, hall]
  · rw [StackWalk.drain_below, hscoped]
  · rw [nodeCount_eq_size, size_eq, ← sizeSum_map_snd, sizeSum_eq_sum]
    rfl
  · rw [references_iff]
    simp only [isIdentifier, Bool.and_eq_true, beq_iff_eq]

end Node

end TreeLint
