import Mathlib.Algebra.BigOperators.Group.List.Basic
import TreeLint.Proofs.Reach
import TreeLint.Proofs.Walk

/-!
# Every decision is counted once

The complexity of a file adds up one walk for each method, constructor and function. The walks
overlap in the tree: that of a method goes over the lambdas inside it and stops at the classes and
callables inside it, each of which has a walk of its own or none.

**Theorem (`complexity_of_isComplete`).** The complexity of a tree that is walked to its end is the
number of its methods, constructors and functions plus the number of its decisions whose nearest
owner is one of these. An *owner* is a class, method, constructor or function above the decision.

The walk of a callable counts the decisions that it owns (`decisionPoints_eq`), and a node has one
owner or none (`countP_owns`). Counting the pairs of a callable and a decision that it owns in both
ways gives the theorem.
-/

namespace TreeLint

/-- The kinds that own what is below them. What a class owns is counted for nobody. -/
def ownerKinds : List Kind := [.classDecl, .method, .constructor, .function]

theorem decisionScope_eq : Node.decisionScope = fun k => !ownerKinds.contains k := by
  funext k
  cases k <;> rfl

theorem Node.contains_ownerKinds {n : Node} (h : n.isMeasured = true) :
    ownerKinds.contains n.kind = true := by
  unfold isMeasured at h
  split at h <;> simp_all [ownerKinds]

/-! ## Owners -/

namespace Visit

variable {root : Node} {v w : Visit}

/-- Whether `v` is the nearest owner above `w`. -/
def owns (v w : Visit) : Bool :=
  ownerKinds.contains v.node.kind && v.reaches (fun k => !ownerKinds.contains k) w

theorem owns_iff :
    v.owns w = true ↔ ownerKinds.contains v.node.kind = true ∧
      v.reaches (fun k => !ownerKinds.contains k) w = true := by
  rw [owns, Bool.and_eq_true]

/-- No owner of a node is above another: the walk from the upper would have entered the lower. -/
theorem length_le_of_owns {v' : Visit} (hv : v ∈ root.visits) (hv' : v' ∈ root.visits)
    (hw : w ∈ root.visits) (h : v.owns w = true) (h' : v'.owns w = true) :
    v'.path.length ≤ v.path.length := by
  refine Nat.not_lt.1 fun hlt => ?_
  obtain ⟨hown, hreach'⟩ := owns_iff.1 h'
  have hself := (reaches_of_reaches_of_lt hv hv' hw (owns_iff.1 h).2 hreach' hlt).2
  simp only [hown, Bool.not_true, Bool.false_eq_true] at hself

theorem owns_unique {v' : Visit} (hv : v ∈ root.visits) (hv' : v' ∈ root.visits)
    (hw : w ∈ root.visits) (h : v.owns w = true) (h' : v'.owns w = true) : v = v' := by
  have hlen : v.path.length = v'.path.length :=
    Nat.le_antisymm (length_le_of_owns hv' hv hw h' h) (length_le_of_owns hv hv' hw h h')
  have hpath := (reaches_iff.1 (owns_iff.1 h).2).1
  have hpath' := (reaches_iff.1 (owns_iff.1 h').2).1
  exact eq_of_path_eq hv hv'
    ((List.prefix_of_prefix_length_le hpath hpath' hlen.le).eq_of_length hlen)

theorem enclosing_of_owns (u : SourceUnit) (hv : v ∈ root.visits) (hw : w ∈ root.visits)
    (h : v.owns w = true) : (w.site u).enclosing? ownerKinds = some v.node := by
  obtain ⟨hown, hreach⟩ := owns_iff.1 h
  obtain ⟨hpath, hlt, hbetween⟩ := reaches_iff.1 hreach
  exact List.find?_eq_some_iff_append.2
    ⟨hown, v.between w, v.ancestors, ancestors_of_lt hv hw hpath hlt, hbetween⟩

theorem exists_owns (u : SourceUnit) (hw : w ∈ root.visits) {a : Node}
    (h : (w.site u).enclosing? ownerKinds = some a) :
    ∃ v ∈ root.visits, v.node = a ∧ v.owns w = true := by
  obtain ⟨hown, below, above, hanc, hbelow⟩ := List.find?_eq_some_iff_append.1 h
  obtain ⟨v, hv, rfl, hpath, hlt, rfl⟩ := exists_visit_of_ancestors hw hanc
  exact ⟨v, hv, rfl, owns_iff.2 ⟨hown, reaches_iff.2 ⟨hpath, hlt, hbelow⟩⟩⟩

theorem countP_owns_eq_one (hv : v ∈ root.visits) (hw : w ∈ root.visits) (h : v.owns w = true) :
    root.visits.countP (·.owns w) = 1 := by
  have hfilter : root.visits.filter (·.owns w) = [v] := by
    refine (root.visits_ordered.sublist List.filter_sublist).eq_of_mem_iff
      (List.pairwise_singleton _ _) fun v' => ?_
    rw [List.mem_filter, List.mem_singleton]
    constructor
    · exact fun ⟨hv', h'⟩ => owns_unique hv' hv hw h' h
    · rintro rfl
      exact ⟨hv, h⟩
  rw [List.countP_eq_length_filter, hfilter, List.length_singleton]

/-- A node is owned by one measured visit, if its nearest owner is measured, else by none. -/
theorem countP_owns (u : SourceUnit) (hw : w ∈ root.visits) :
    (root.visits.countP fun v => v.node.isMeasured && v.owns w) =
      if ((w.site u).enclosing? ownerKinds).any (·.isMeasured) then 1 else 0 := by
  cases hencl : (w.site u).enclosing? ownerKinds with
  | none =>
    refine List.countP_eq_zero.2 fun v hv h => ?_
    rw [Bool.and_eq_true] at h
    rw [enclosing_of_owns u hv hw h.2] at hencl
    cases hencl
  | some a =>
    obtain ⟨v, hv, rfl, howns⟩ := exists_owns u hw hencl
    have hnode : ∀ v' ∈ root.visits, (v'.node.isMeasured && v'.owns w) = true ↔
        (v.node.isMeasured && v'.owns w) = true := by
      intro v' hv'
      simp only [Bool.and_eq_true, and_congr_left_iff]
      intro h
      rw [owns_unique hv' hv hw h howns]
    rw [List.countP_congr hnode, Option.any_some]
    cases v.node.isMeasured <;> simp [countP_owns_eq_one hv hw howns]

/-- The decisions of a callable are those that it owns. -/
theorem decisionPoints_eq (hv : v ∈ root.visits) (hm : v.node.isMeasured = true) :
    v.node.decisionPoints = root.visits.countP fun w => v.owns w && w.node.isDecision := by
  have howns : v.owns = v.reaches fun k => !ownerKinds.contains k := by
    funext w
    rw [owns, Node.contains_ownerKinds hm, Bool.true_and]
  rw [Node.decisionPoints, decisionScope_eq, ← map_node_filter_reaches hv, List.countP_map,
    List.countP_filter, howns]
  simp only [Function.comp_apply, Bool.and_comm]

/-- What a visit adds to the complexity: itself, and the decisions that it owns, if it is
measured. -/
theorem complexity_eq (hv : v ∈ root.visits) :
    v.node.complexity = (if v.node.isMeasured then 1 else 0) +
      root.visits.countP fun w => v.node.isMeasured && v.owns w && w.node.isDecision := by
  rw [Node.complexity]
  cases hm : v.node.isMeasured with
  | false => simp
  | true => simp [decisionPoints_eq hv hm]

end Visit

/-! ## Counting in two ways -/

theorem countP_eq_sum {α : Type} (p : α → Bool) (as : List α) :
    as.countP p = (as.map fun a => if p a then 1 else 0).sum := by
  induction as with
  | nil => rfl
  | cons a as ih => rw [List.countP_cons, ih, List.map_cons, List.sum_cons, Nat.add_comm]

/-- The pairs in a relation, counted by their first and by their second entries. -/
theorem sum_countP_comm {α β : Type} (r : α → β → Bool) (as : List α) (bs : List β) :
    (as.map fun a => bs.countP (r a)).sum = (bs.map fun b => as.countP (r · b)).sum := by
  induction as with
  | nil => simp
  | cons a as ih =>
    simp only [List.countP_cons, List.sum_map_add]
    rw [List.map_cons, List.sum_cons, ih, countP_eq_sum, Nat.add_comm]

namespace Engine

/-- **Every decision is counted once.** The complexity of a tree that is walked to its end is the
number of its methods, constructors and functions plus the number of its decisions whose nearest
owner is one of these. Each of them counts the decisions that it owns, and a node is owned by
exactly one of them, or by none if a class comes first or there is no owner above it. -/
theorem complexity_of_isComplete (e : Engine) {u : SourceUnit} {root : Node}
    (hu : u.tree = .ok root) {t : Interrupts} (ht : (e.analyze u t).isComplete) :
    (e.analyze u t).metrics.cyclomaticComplexity =
      root.visits.countP (·.node.isMeasured) +
        root.visits.countP (fun w =>
          w.node.isDecision && ((w.site u).enclosing? ownerKinds).any (·.isMeasured)) ∧
    (∀ v ∈ root.visits, v.node.isMeasured →
      v.node.decisionPoints = root.visits.countP fun w => v.owns w && w.node.isDecision) ∧
    ∀ w ∈ root.visits, (root.visits.countP fun v => v.node.isMeasured && v.owns w) =
      if ((w.site u).enclosing? ownerKinds).any (·.isMeasured) then 1 else 0 := by
  refine ⟨?_, fun v hv hm => Visit.decisionPoints_eq hv hm, fun w hw => Visit.countP_owns u hw⟩
  have hcount : ∀ w ∈ root.visits,
      (root.visits.countP fun v => v.node.isMeasured && v.owns w && w.node.isDecision) =
        if w.node.isDecision && ((w.site u).enclosing? ownerKinds).any (·.isMeasured)
        then 1 else 0 := by
    intro w hw
    cases w.node.isDecision <;> simp [Visit.countP_owns u hw]
  calc (e.analyze u t).metrics.cyclomaticComplexity
      = (root.visits.map (·.node.complexity)).sum := by
        rw [e.analyze_of_isComplete hu ht, reportOn]
    _ = root.visits.countP (·.node.isMeasured) +
          (root.visits.map fun v => root.visits.countP fun w =>
            v.node.isMeasured && v.owns w && w.node.isDecision).sum := by
        rw [List.map_congr_left fun v hv => Visit.complexity_eq hv, List.sum_map_add,
          ← countP_eq_sum]
    _ = root.visits.countP (·.node.isMeasured) +
          (root.visits.map fun w => root.visits.countP fun v =>
            v.node.isMeasured && v.owns w && w.node.isDecision).sum := by
        rw [sum_countP_comm]
    _ = _ := by rw [List.map_congr_left hcount, ← countP_eq_sum]

/-- A program with a loop and a class. The class has a choice in a field and a method that branches;
in the branch, a lambda holds a choice and a function that loops. -/
def nestedTree : Node :=
  let choice : Node := .leaf .ternary ⟨1, 1, 1, 2⟩
  let loop : Node := .leaf .whileLoop ⟨1, 1, 1, 2⟩
  let helper : Node := (Node.leaf .function ⟨1, 1, 1, 2⟩).push .body loop
  let lambda : Node := ((Node.leaf .lambda ⟨1, 1, 1, 2⟩).push .body choice).push .body helper
  let branch : Node := (Node.leaf .ifStmt ⟨1, 1, 1, 2⟩).push .thenBranch lambda
  let field : Node := (Node.leaf .field ⟨1, 1, 1, 2⟩).push .value choice
  let method : Node := (Node.leaf .method ⟨1, 1, 1, 2⟩).push .body branch
  let owner : Node := (Node.leaf .classDecl ⟨1, 1, 1, 2⟩).pushAll .member [field, method]
  (Node.leaf .program ⟨1, 1, 1, 2⟩).pushAll .statement [loop, owner]

def nestedUnit : SourceUnit := .parsed "nested.js" "ab" nestedTree

/-- The method has the branch and the choice of the lambda, and the function its loop. The first
loop and the choice of the field are counted for nobody. -/
theorem complexity_of_isComplete_nested :
    let e : Engine := ⟨⟨[]⟩, true⟩
    nestedUnit.tree = .ok nestedTree ∧ (e.analyze nestedUnit .never).isComplete ∧
      (e.analyze nestedUnit .never).metrics.cyclomaticComplexity = 5 ∧
      nestedTree.visits.countP (·.node.isMeasured) = 2 ∧
      nestedTree.visits.countP (·.node.isDecision) = 5 := by
  intro e
  have hcomplete : (e.analyze nestedUnit .never).isComplete := by
    rw [e.analyze_never (u := nestedUnit) rfl]
    rfl
  refine ⟨rfl, hcomplete, ?_, by decide +kernel, by decide +kernel⟩
  rw [(e.complexity_of_isComplete (u := nestedUnit) rfl hcomplete).1]
  decide +kernel

end Engine

end TreeLint
