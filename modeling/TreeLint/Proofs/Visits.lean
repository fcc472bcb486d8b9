import Mathlib.Data.List.Lex
import TreeLint.Detector.Basic

/-!
# Visits: the nodes of a tree in their places

A *visit* is a node together with its place: the child positions that lead to it from the root,
and its ancestors. `Node.visits` lists the visits of a tree by plain recursion, a node before its
children and the children in declaration order.

Two facts pin the list down without mention of the recursion:

* `mem_visits_iff`: the visits are exactly the positions of the tree, each with the node there and
  with the nodes on the way to it as ancestors, and
* `visits_ordered`: the positions strictly increase in the lexicographic order, in which a
  position comes before those below it and a child before its later siblings.

So each node is visited exactly once, and the order is the pre-order. Positions, not nodes, tell
visits apart: a tree may hold equal nodes.
-/

namespace TreeLint

/-- A node in its place. -/
structure Visit where
  /-- The child positions on the way from the root to the node. -/
  path : List Nat
  /-- The ancestors, nearest first. -/
  ancestors : List Node
  node : Node

namespace Visit

/-- The position among the children of the parent; the root has position 0. -/
def index (v : Visit) : Nat := v.path.getLastD 0

/-- The site of the node in a unit. -/
def site (u : SourceUnit) (v : Visit) : Site := ⟨u, v.ancestors, v.index⟩

/-- The visits of the children, in declaration order. -/
def children (v : Visit) : List Visit :=
  v.node.children.zipIdx.map fun ((_, c), i) => ⟨v.path ++ [i], v.node :: v.ancestors, c⟩

end Visit

namespace Node

mutual

/-- The visits of the tree below a node that stands at `path`, under `ancestors`. -/
def visitsFrom (path : List Nat) (ancestors : List Node) : Node → List Visit
  | ⟨h, cs⟩ => ⟨path, ancestors, ⟨h, cs⟩⟩ :: visitsList path (⟨h, cs⟩ :: ancestors) 0 cs

/-- The visits of a list of children, the first of them being child `i` of the node at `path`. -/
def visitsList (path : List Nat) (ancestors : List Node) : Nat → List (Role × Node) → List Visit
  | _, [] => []
  | i, (_, c) :: cs =>
    c.visitsFrom (path ++ [i]) ancestors ++ visitsList path ancestors (i + 1) cs

end

/-- The visits of a tree, in pre-order. -/
def visits (root : Node) : List Visit := root.visitsFrom [] []

/-- The nodes on the way to a position, nearest first, without the node at the position. -/
def ancestorsAt (n : Node) (path : List Nat) : List Node :=
  ((List.range path.length).filterMap fun j => n.at? (path.take j)).reverse

end Node

/-- The visits of the tree below a visit. -/
def Visit.within (v : Visit) : List Visit := v.node.visitsFrom v.path v.ancestors

/-! ## The recursion -/

theorem Node.visitsList_eq (path : List Nat) (ancestors : List Node) (i : Nat)
    (cs : List (Role × Node)) :
    visitsList path ancestors i cs =
      (cs.zipIdx i).flatMap fun ((_, c), j) => c.visitsFrom (path ++ [j]) ancestors := by
  induction cs generalizing i with
  | nil => simp [visitsList]
  | cons c cs ih =>
    obtain ⟨r, c⟩ := c
    simp [visitsList, ih]

namespace Node

mutual

theorem length_preorder : (n : Node) → (n.preorder Walk.everything).length = n.size
  | ⟨h, cs⟩ => by
    rw [preorder, size, Walk.everything, if_pos rfl, List.length_cons, length_preorderList cs,
      Nat.add_comm]

theorem length_preorderList : (cs : List (Role × Node)) →
    (preorderList Walk.everything cs).length = sizeList cs
  | [] => rfl
  | (_, n) :: cs => by
    rw [preorderList, sizeList, List.length_append, length_preorder n, length_preorderList cs]

end

end Node

namespace Visit

/-- A visit comes first, and then what is within each child. -/
theorem within_eq (v : Visit) : v.within = v :: v.children.flatMap within := by
  obtain ⟨path, ancestors, ⟨h, cs⟩⟩ := v
  rw [within, Node.visitsFrom, Node.visitsList_eq, children, List.flatMap_map]
  rfl

theorem mem_children {v w : Visit} :
    w ∈ v.children ↔ ∃ i r c, v.node.children[i]? = some (r, c) ∧
      w = ⟨v.path ++ [i], v.node :: v.ancestors, c⟩ := by
  simp only [children, List.mem_map]
  constructor
  · rintro ⟨⟨⟨r, c⟩, i⟩, hi, rfl⟩
    exact ⟨i, r, c, List.mk_mem_zipIdx_iff_getElem?.1 hi, rfl⟩
  · rintro ⟨i, r, c, hi, rfl⟩
    exact ⟨((r, c), i), List.mk_mem_zipIdx_iff_getElem?.2 hi, rfl⟩

theorem map_node_children (v : Visit) : v.children.map (·.node) = v.node.subnodes := by
  calc v.children.map (·.node)
      = (v.node.children.zipIdx.map Prod.fst).map (·.2) := by
        simp only [children, List.map_map, Function.comp_def]
    _ = v.node.subnodes := by rw [List.zipIdx_map_fst, Node.subnodes]

theorem of_children {P : Visit → Prop} (h : ∀ v, (∀ w ∈ v.children, P w) → P v) (v : Visit) :
    P v := by
  induction hs : v.node.size using Nat.strongRecOn generalizing v with
  | ind s ih =>
    subst hs
    refine h v fun w hw => ih w.node.size ?_ w rfl
    obtain ⟨i, r, c, hi, rfl⟩ := mem_children.1 hw
    exact Node.size_lt_of_mem (List.mem_of_getElem? hi)

theorem map_node_within (v : Visit) :
    v.within.map (·.node) = v.node.preorder Walk.everything := by
  induction v using of_children with
  | h v ih =>
    have hbelow : (v.children.flatMap within).map (·.node) =
        v.node.subnodes.flatMap (Node.preorder Walk.everything) := by
      rw [List.map_flatMap, ← map_node_children, List.flatMap_map]
      exact List.flatMap_congr ih
    rw [within_eq, List.map_cons, hbelow, Node.preorder_eq]
    rfl

end Visit

/-! ## Positions -/

namespace Node

theorem at?_cons {n m : Node} {i : Nat} {path : List Nat} :
    n.at? (i :: path) = some m ↔ ∃ r c, n.children[i]? = some (r, c) ∧ c.at? path = some m := by
  rw [at?]
  cases hi : n.children[i]? with
  | none => simp
  | some rc => obtain ⟨r, c⟩ := rc; simp

@[simp] theorem ancestorsAt_nil (n : Node) : n.ancestorsAt [] = [] := rfl

/-- The way to a position starts at the node itself and goes on from one of its children. -/
theorem ancestorsAt_cons {n c : Node} {r : Role} {i : Nat} (hi : n.children[i]? = some (r, c))
    (path : List Nat) : n.ancestorsAt (i :: path) = c.ancestorsAt path ++ [n] := by
  have hstep : ∀ j, n.at? ((i :: path).take (j + 1)) = c.at? (path.take j) := by
    intro j
    rw [List.take_succ_cons, at?, hi]
  rw [ancestorsAt, List.length_cons, List.range_succ_eq_map, List.filterMap_cons,
    List.filterMap_map]
  simp only [List.take_zero, at?, Function.comp_def, hstep, List.reverse_cons, ancestorsAt]

end Node

namespace Visit

/-- What is within a visit: the positions below it, each with the node there. -/
theorem mem_within_iff {v w : Visit} :
    w ∈ v.within ↔ ∃ path, w.path = v.path ++ path ∧ v.node.at? path = some w.node ∧
      w.ancestors = v.node.ancestorsAt path ++ v.ancestors := by
  induction v using of_children with
  | h v ih =>
    rw [within_eq, List.mem_cons, List.mem_flatMap]
    constructor
    · rintro (rfl | ⟨c, hc, hw⟩)
      · exact ⟨[], by simp [Node.at?]⟩
      · obtain ⟨path, hpath, hat, hanc⟩ := (ih c hc).1 hw
        obtain ⟨i, r, c, hi, rfl⟩ := mem_children.1 hc
        refine ⟨i :: path, by simp [hpath], Node.at?_cons.2 ⟨r, c, hi, hat⟩, ?_⟩
        rw [hanc, Node.ancestorsAt_cons hi]
        simp
    · rintro ⟨path, hpath, hat, hanc⟩
      cases path with
      | nil =>
        left
        have hnode : v.node = w.node := by simpa [Node.at?] using hat
        cases v; cases w
        simp_all
      | cons i path =>
        right
        obtain ⟨r, c, hi, hat⟩ := Node.at?_cons.1 hat
        have hc := mem_children.2 ⟨i, r, c, hi, rfl⟩
        refine ⟨_, hc, (ih _ hc).2 ⟨path, by simp [hpath], hat, ?_⟩⟩
        rw [hanc, Node.ancestorsAt_cons hi]
        simp

/-- The order of positions: a position comes before those below it, and what is below a child
before what is below its later siblings. -/
def Before (v w : Visit) : Prop := List.Lex (· < ·) v.path w.path

theorem within_ordered (v : Visit) : v.within.Pairwise Before := by
  induction v using of_children with
  | h v ih =>
    rw [within_eq, List.pairwise_cons, List.pairwise_flatMap]
    refine ⟨fun w hw => ?_, ih, ?_⟩
    · obtain ⟨c, hc, hw⟩ := List.mem_flatMap.1 hw
      obtain ⟨path, hpath, -, -⟩ := mem_within_iff.1 hw
      obtain ⟨i, r, c, hi, rfl⟩ := mem_children.1 hc
      rw [Before, hpath, List.append_assoc]
      simpa using List.Lex.append_left (· < ·) (List.Lex.nil (a := i) (l := path)) v.path
    · -- Two children differ first in their own positions, whatever comes below them.
      rw [children, List.pairwise_map]
      have hidx : v.node.children.zipIdx.Pairwise fun a b => a.2 < b.2 := by
        rw [← List.pairwise_map (R := (· < ·)), List.zipIdx_map_snd]
        exact List.pairwise_lt_range'
      refine hidx.imp fun {a b} hab x hx y hy => ?_
      obtain ⟨p, hp, -, -⟩ := mem_within_iff.1 hx
      obtain ⟨q, hq, -, -⟩ := mem_within_iff.1 hy
      rw [Before, hp, hq, List.append_assoc, List.append_assoc]
      exact List.Lex.append_left (· < ·) (List.Lex.rel hab) v.path

end Visit

namespace Node

theorem map_node_visits (root : Node) :
    root.visits.map (·.node) = root.preorder Walk.everything :=
  Visit.map_node_within ⟨[], [], root⟩

theorem length_visits (root : Node) : root.visits.length = root.size := by
  rw [← length_preorder, ← map_node_visits, List.length_map]

/-- **The visits of a tree** are its positions, each with its node and the nodes above it. -/
theorem mem_visits_iff {root : Node} {v : Visit} :
    v ∈ root.visits ↔ root.at? v.path = some v.node ∧ v.ancestors = root.ancestorsAt v.path := by
  have h := Visit.mem_within_iff (v := ⟨[], [], root⟩) (w := v)
  simp only [List.nil_append, List.append_nil] at h
  constructor
  · intro hv
    obtain ⟨path, rfl, hat, hanc⟩ := h.1 hv
    exact ⟨hat, hanc⟩
  · rintro ⟨hat, hanc⟩
    exact h.2 ⟨v.path, rfl, hat, hanc⟩

/-- **The visits of a tree are in pre-order.** -/
theorem visits_ordered (root : Node) : root.visits.Pairwise Visit.Before :=
  Visit.within_ordered ⟨[], [], root⟩

end Node

end TreeLint
