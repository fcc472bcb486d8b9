import Mathlib.Data.List.Lex
import Mathlib.Data.List.Sort
import TreeLint.Proofs.Visits

/-!
# What a walk reaches

A walk over what is below a node yields nodes, not places. This file says where they stand. A visit
`v` *reaches* a visit `w` below it if the walk enters every node between the two.

**Theorem (`filter_reaches`).** The visits of a walk over what is below `v` are the visits of the
tree that `v` reaches, in the order of the tree.

So a count over a walk is a count over the tree (`map_node_filter_reaches`), and the walks that start
at different nodes of one tree can be compared: what two visits reach lies below both, so the upper
one reaches the lower one and enters it (`reaches_of_reaches_of_lt`).

The same relation, read upward, gives the ancestors: each is visited on the way to the node
(`exists_visit_of_ancestors`), and the nodes in between are the nearer ancestors (`ancestors_of_lt`).
-/

namespace TreeLint

/-! ## Positions below a position -/

namespace Node

variable {root n m : Node} {p : List Nat}

theorem at?_append (n : Node) (p q : List Nat) : n.at? (p ++ q) = (n.at? p).bind (·.at? q) := by
  induction p generalizing n with
  | nil => rfl
  | cons i p ih =>
    rw [List.cons_append, at?, at?]
    cases n.children[i]? with
    | none => rfl
    | some rc => exact ih rc.2

theorem ancestorsAt_append (h : n.at? p = some m) (q : List Nat) :
    n.ancestorsAt (p ++ q) = m.ancestorsAt q ++ n.ancestorsAt p := by
  induction p generalizing n with
  | nil =>
    obtain rfl : n = m := by simpa [at?] using h
    simp
  | cons i p ih =>
    obtain ⟨r, c, hi, hc⟩ := at?_cons.1 h
    rw [List.cons_append, ancestorsAt_cons hi, ancestorsAt_cons hi, ih hc, List.append_assoc]

theorem length_ancestorsAt (h : n.at? p = some m) : (n.ancestorsAt p).length = p.length := by
  induction p generalizing n with
  | nil => rfl
  | cons i p ih =>
    obtain ⟨r, c, hi, hc⟩ := at?_cons.1 h
    rw [ancestorsAt_cons hi, List.length_append, ih hc, List.length_cons]
    rfl

end Node

namespace Visit

/-- A visit below another node stands among the children of its nearest ancestor. -/
theorem exists_role_of_ancestors {root parent : Node} {above : List Node} {v : Visit}
    (hv : v ∈ root.visits) (h : v.ancestors = parent :: above) :
    ∃ r, parent.children[v.index]? = some (r, v.node) := by
  obtain ⟨hat, hanc⟩ := Node.mem_visits_iff.1 hv
  obtain ⟨p, i, hpath⟩ : ∃ p i, v.path = p ++ [i] := by
    refine ⟨_, _, (List.dropLast_append_getLast ?_).symm⟩
    intro hnil
    rw [hnil, Node.ancestorsAt_nil, h] at hanc
    cases hanc
  rw [hpath, Node.at?_append] at hat
  obtain ⟨m, hm, hmat⟩ := Option.bind_eq_some_iff.1 hat
  obtain ⟨r, c, hi, hc⟩ := Node.at?_cons.1 hmat
  obtain rfl : c = v.node := Option.some.inj hc
  rw [hpath, Node.ancestorsAt_append hm, Node.ancestorsAt_cons hi, h] at hanc
  obtain ⟨rfl, -⟩ : parent = m ∧ above = root.ancestorsAt p := by simpa using hanc
  refine ⟨r, ?_⟩
  rw [index, hpath, List.getLastD_concat]
  exact hi

variable {root : Node} {v w d : Visit} {enters : Kind → Bool}

theorem eq_of_path_eq (hv : v ∈ root.visits) (hw : w ∈ root.visits) (h : v.path = w.path) :
    v = w := by
  obtain ⟨hnode, hanc⟩ := Node.mem_visits_iff.1 hv
  obtain ⟨hnode', hanc'⟩ := Node.mem_visits_iff.1 hw
  have hn : v.node = w.node := by
    rw [h, hnode'] at hnode
    exact (Option.some.inj hnode).symm
  have ha : v.ancestors = w.ancestors := by rw [hanc, hanc', h]
  cases v; cases w
  simp_all

/-- Of the visits of a tree, those within one of them are those at or below its position. -/
theorem mem_within_iff_of_mem (hv : v ∈ root.visits) :
    w ∈ v.within ↔ w ∈ root.visits ∧ v.path <+: w.path := by
  obtain ⟨hnode, hanc⟩ := Node.mem_visits_iff.1 hv
  rw [mem_within_iff, Node.mem_visits_iff]
  constructor
  · rintro ⟨q, hpath, hat, hw⟩
    refine ⟨⟨?_, ?_⟩, ⟨q, hpath.symm⟩⟩
    · rw [hpath, Node.at?_append, hnode, Option.bind_some, hat]
    · rw [hpath, Node.ancestorsAt_append hnode, hw, hanc]
  · rintro ⟨⟨hat, hw⟩, q, hq⟩
    refine ⟨q, hq.symm, ?_, ?_⟩
    · rwa [← hq, Node.at?_append, hnode, Option.bind_some] at hat
    · rw [hw, ← hq, Node.ancestorsAt_append hnode, hanc]

theorem mem_visits_of_mem_children (hv : v ∈ root.visits) (hw : w ∈ v.children) :
    w ∈ root.visits := by
  have hwithin : w ∈ v.within := by
    rw [within_eq]
    refine List.mem_cons_of_mem v (List.mem_flatMap.2 ⟨w, hw, ?_⟩)
    rw [within_eq]
    exact List.mem_cons_self
  exact ((mem_within_iff_of_mem hv).1 hwithin).1

/-! ## Reached positions -/

/-- The nodes between a visit and one below it, without these two. -/
def between (v w : Visit) : List Node := w.ancestors.take (w.path.length - v.path.length - 1)

/-- Whether a walk over what is below `v` comes to `w`: it enters every node between them. -/
def reaches (enters : Kind → Bool) (v w : Visit) : Bool :=
  decide (v.path <+: w.path) && decide (v.path.length < w.path.length) &&
    (v.between w).all (enters ·.kind)

theorem reaches_iff :
    v.reaches enters w = true ↔
      v.path <+: w.path ∧ v.path.length < w.path.length ∧
        ∀ a ∈ v.between w, enters a.kind = true := by
  simp only [reaches, Bool.and_eq_true, decide_eq_true_eq, List.all_eq_true, and_assoc]

/-- The ancestors of a visit within a child of `v`: those below `v`, then `v`, then those above. -/
theorem ancestors_of_mem_child (hd : d ∈ v.children) (hw : w ∈ d.within) :
    w.ancestors = v.between w ++ v.node :: v.ancestors ∧
      w.path.length = v.path.length + 1 + (v.between w).length := by
  obtain ⟨i, r, c, -, rfl⟩ := mem_children.1 hd
  obtain ⟨q, hpath, hat, hanc⟩ := mem_within_iff.1 hw
  dsimp only at hpath hat hanc
  have hlen : (c.ancestorsAt q).length = q.length := Node.length_ancestorsAt hat
  have hwlen : w.path.length = v.path.length + 1 + q.length := by
    rw [hpath, List.length_append, List.length_append, List.length_singleton]
  have hbetween : v.between w = c.ancestorsAt q := by
    rw [between, hanc, List.take_left' (by omega)]
  rw [hbetween, hlen]
  exact ⟨hanc, hwlen⟩

/-- The visits of a walk that starts at `v`. -/
def walked (enters : Kind → Bool) (v : Visit) : List Visit :=
  v.within.filter fun w => (w.ancestors.take (w.path.length - v.path.length)).all (enters ·.kind)

/-- The visits of a walk over what is below `v`. -/
def walkedBelow (enters : Kind → Bool) (v : Visit) : List Visit :=
  (v.children.flatMap within).filter fun w => (v.between w).all (enters ·.kind)

theorem walkedBelow_eq (enters : Kind → Bool) (v : Visit) :
    v.walkedBelow enters = v.children.flatMap (walked enters) := by
  rw [walkedBelow, List.filter_flatMap]
  refine List.flatMap_congr fun d hd => ?_
  obtain ⟨i, r, c, -, rfl⟩ := mem_children.1 hd
  rw [walked]
  refine List.filter_congr fun w hw => ?_
  rw [between, Nat.sub_sub]
  simp

theorem walked_eq (enters : Kind → Bool) (v : Visit) :
    v.walked enters = v :: if enters v.node.kind then v.walkedBelow enters else [] := by
  have hway : ∀ w ∈ v.children.flatMap within,
      w.ancestors.take (w.path.length - v.path.length) = v.between w ++ [v.node] := by
    intro w hw
    obtain ⟨d, hd, hw⟩ := List.mem_flatMap.1 hw
    obtain ⟨hanc, hlen⟩ := ancestors_of_mem_child hd hw
    rw [hanc, List.append_cons, List.take_left' (by simp; omega)]
  rw [walked, within_eq, List.filter_cons_of_pos (by simp), walkedBelow]
  congr 1
  rw [List.filter_congr fun w hw => by rw [hway w hw]]
  by_cases hv : enters v.node.kind = true
  · rw [if_pos hv]
    exact List.filter_congr fun w _ => by simp [hv]
  · rw [if_neg hv]
    exact List.filter_eq_nil_iff.2 fun w _ => by simp [hv]

theorem map_node_walkedBelow_of
    (h : ∀ d ∈ v.children, (d.walked enters).map (·.node) = d.node.preorder enters) :
    (v.walkedBelow enters).map (·.node) = v.node.subnodes.flatMap (Node.preorder enters) := by
  rw [walkedBelow_eq, List.map_flatMap, ← map_node_children, List.flatMap_map]
  exact List.flatMap_congr h

theorem map_node_walked (enters : Kind → Bool) (v : Visit) :
    (v.walked enters).map (·.node) = v.node.preorder enters := by
  induction v using of_children with
  | h v ih =>
    rw [walked_eq, List.map_cons, Node.preorder_eq, Walk.inner]
    split
    · rw [map_node_walkedBelow_of ih]
    · rfl

theorem map_node_walkedBelow (enters : Kind → Bool) (v : Visit) :
    (v.walkedBelow enters).map (·.node) = Walk.drain ⟨v.node.subnodes, enters⟩ := by
  rw [Walk.drain_eq_flatMap, map_node_walkedBelow_of fun d _ => map_node_walked enters d]

/-! ## In the whole tree -/

theorem mem_flatMap_within_iff :
    w ∈ v.children.flatMap within ↔ w ∈ v.within ∧ v.path.length < w.path.length := by
  rw [within_eq v, List.mem_cons]
  constructor
  · intro hw
    obtain ⟨d, hd, hwd⟩ := List.mem_flatMap.1 hw
    obtain ⟨-, hlen⟩ := ancestors_of_mem_child hd hwd
    exact ⟨.inr hw, by omega⟩
  · rintro ⟨rfl | hw, hlt⟩
    · exact absurd hlt (Nat.lt_irrefl _)
    · exact hw

theorem mem_walkedBelow_iff (hv : v ∈ root.visits) :
    w ∈ v.walkedBelow enters ↔ w ∈ root.visits ∧ v.reaches enters w = true := by
  rw [walkedBelow, List.mem_filter, mem_flatMap_within_iff, mem_within_iff_of_mem hv, reaches_iff,
    List.all_eq_true]
  simp only [and_assoc]

instance : Std.Irrefl Before := ⟨fun _ => irrefl (r := List.Lex (· < ·)) _⟩

instance : Std.Antisymm Before := ⟨fun _ _ h h' => (asymm (r := List.Lex (· < ·)) h h').elim⟩

/-- **What a walk reaches.** The visits of a walk over what is below `v` are those of the tree at
the positions that `v` reaches, in the same order. -/
theorem filter_reaches (hv : v ∈ root.visits) (enters : Kind → Bool) :
    root.visits.filter (v.reaches enters) = v.walkedBelow enters := by
  have hordered : (v.walkedBelow enters).Pairwise Before := by
    have hwithin := v.within_ordered
    rw [within_eq] at hwithin
    exact (List.pairwise_cons.1 hwithin).2.sublist List.filter_sublist
  refine (root.visits_ordered.sublist List.filter_sublist).eq_of_mem_iff hordered fun w => ?_
  rw [List.mem_filter, mem_walkedBelow_iff hv]

theorem map_node_filter_reaches (hv : v ∈ root.visits) (enters : Kind → Bool) :
    (root.visits.filter (v.reaches enters)).map (·.node) =
      Walk.drain ⟨v.node.subnodes, enters⟩ := by
  rw [filter_reaches hv, map_node_walkedBelow]

theorem length_ancestors (hv : v ∈ root.visits) : v.ancestors.length = v.path.length := by
  obtain ⟨hat, hanc⟩ := Node.mem_visits_iff.1 hv
  rw [hanc, Node.length_ancestorsAt hat]

theorem exists_visit_of_ancestors {a : Node} {below above : List Node} (hw : w ∈ root.visits)
    (h : w.ancestors = below ++ a :: above) :
    ∃ v ∈ root.visits, v.node = a ∧ v.path <+: w.path ∧ v.path.length < w.path.length ∧
      v.between w = below := by
  have hlen : w.path.length = below.length + (above.length + 1) := by
    rw [← length_ancestors hw, h, List.length_append, List.length_cons]
  obtain ⟨hat, hanc⟩ := Node.mem_visits_iff.1 hw
  -- The position of the ancestor leaves as many steps out as there are nodes below it.
  obtain ⟨p, i, q, hpath, hp⟩ :
      ∃ p i q, w.path = p ++ i :: q ∧ p.length = above.length := by
    obtain ⟨i, q, hq⟩ := List.exists_cons_of_length_pos (l := w.path.drop above.length) (by
      rw [List.length_drop]
      omega)
    refine ⟨w.path.take above.length, i, q, ?_, ?_⟩
    · rw [← hq, List.take_append_drop]
    · rw [List.length_take]
      omega
  rw [hpath, Node.at?_append] at hat
  obtain ⟨m, hm, hmat⟩ := Option.bind_eq_some_iff.1 hat
  obtain ⟨r, c, hi, -⟩ := Node.at?_cons.1 hmat
  rw [hpath, Node.ancestorsAt_append hm, Node.ancestorsAt_cons hi, List.append_assoc, h] at hanc
  have hlast : (a :: above).length = ([m] ++ root.ancestorsAt p).length := by
    rw [List.length_cons, List.length_append, Node.length_ancestorsAt hm, hp]
    exact Nat.add_comm _ _
  obtain ⟨-, hright⟩ := List.append_inj' hanc hlast
  obtain ⟨rfl, -⟩ : a = m ∧ above = root.ancestorsAt p := by simpa using hright
  refine ⟨⟨p, root.ancestorsAt p, a⟩, Node.mem_visits_iff.2 ⟨hm, rfl⟩, rfl, ⟨_, hpath.symm⟩, ?_, ?_⟩
  · dsimp only
    omega
  · rw [between, h, List.take_left' (by dsimp only; omega)]

/-- The ancestors of a visit that `v` is on the way to. -/
theorem ancestors_of_lt (hv : v ∈ root.visits) (hw : w ∈ root.visits) (hpath : v.path <+: w.path)
    (hlt : v.path.length < w.path.length) : w.ancestors = v.between w ++ v.node :: v.ancestors := by
  have hwithin := (mem_within_iff_of_mem hv).2 ⟨hw, hpath⟩
  obtain ⟨d, hd, hwd⟩ := List.mem_flatMap.1 (mem_flatMap_within_iff.2 ⟨hwithin, hlt⟩)
  exact (ancestors_of_mem_child hd hwd).1

/-- With a stop on the way: a walk from `v` comes to `w` if it comes to the visit in between, enters
it, and goes on from there. -/
theorem reaches_iff_of_between {m : Visit} (hv : v ∈ root.visits) (hm : m ∈ root.visits)
    (hw : w ∈ root.visits) (hvm : v.path <+: m.path) (hltm : v.path.length < m.path.length)
    (hmw : m.path <+: w.path) (hlt : m.path.length < w.path.length) :
    v.reaches enters w = true ↔
      v.reaches enters m = true ∧ enters m.node.kind = true ∧ m.reaches enters w = true := by
  have hbetween : v.between w = m.between w ++ m.node :: v.between m := by
    have h := ancestors_of_lt hm hw hmw hlt
    rw [ancestors_of_lt hv hm hvm hltm, ancestors_of_lt hv hw (hvm.trans hmw) (hltm.trans hlt),
      ← List.cons_append, ← List.append_assoc] at h
    exact (List.append_inj' h rfl).1
  rw [reaches_iff, reaches_iff, reaches_iff, hbetween, List.forall_mem_append, List.forall_mem_cons]
  constructor
  · rintro ⟨-, -, hbelow, hself, habove⟩
    exact ⟨⟨hvm, hltm, habove⟩, hself, hmw, hlt, hbelow⟩
  · rintro ⟨⟨-, -, habove⟩, hself, -, -, hbelow⟩
    exact ⟨hvm.trans hmw, hltm.trans hlt, hbelow, hself, habove⟩

/-- Of two visits that come to one, the upper one comes to the lower one and enters it. -/
theorem reaches_of_reaches_of_lt {m : Visit} (hv : v ∈ root.visits) (hm : m ∈ root.visits)
    (hw : w ∈ root.visits) (hvw : v.reaches enters w = true) (hmw : m.reaches enters w = true)
    (hlt : v.path.length < m.path.length) :
    v.reaches enters m = true ∧ enters m.node.kind = true := by
  obtain ⟨hpath, -, -⟩ := reaches_iff.1 hvw
  obtain ⟨hpath', hlt', -⟩ := reaches_iff.1 hmw
  have hvm : v.path <+: m.path := List.prefix_of_prefix_length_le hpath hpath' hlt.le
  obtain ⟨h, hself, -⟩ := (reaches_iff_of_between hv hm hw hvm hlt hpath' hlt').1 hvw
  exact ⟨h, hself⟩

end Visit

end TreeLint
