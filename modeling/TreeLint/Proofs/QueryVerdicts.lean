import Mathlib.Logic.Relation
import TreeLint.Proofs.ConcatChains
import TreeLint.Proofs.RuleFindings

/-!
# Queries and the parentheses of chains

A call that runs a query is reported when one of its arguments is a tainted `+` chain, or a local
that is bound to one in the callable around the call. What does it change when chains are
parenthesized in other ways?

**Theorem (`reports_of_reassociated`).** Nothing: each call gets the report it had before. This is
said twice. For one call it is enough that its arguments and the values bound in its callable are
the same up to parentheses. In a tree, where chains may be exchanged anywhere, also within arguments
of calls that are operands of chains, the calls come with the same reports, up to the order in which
the tree is walked.

In the tree the proof is an induction on where the exchanged chain stands. At the chain itself a
search finds the same things, since it finds nothing in a `+` node. Above the chain the rule sees of
a child only some functions of it, such as whether it is tainted, and none of them tells the two
chains apart; so it cannot tell the parents apart either.
-/

namespace TreeLint

theorem any_eq_of_map_eq {α : Type*} {a b : Option α} {p : α → Bool} (h : a.map p = b.map p) :
    a.any p = b.any p := by
  have hany : ∀ o : Option α, o.any p = (o.map p).any id := fun o => by cases o <;> rfl
  rw [hany, hany, h]

theorem any_toList {α : Type*} (o : Option α) (p : α → Bool) : o.toList.any p = o.any p := by
  cases o <;> simp

namespace Node

variable {n n' c c' : Node} {h : Head} {r : Role} {before after : List (Role × Node)}

/-! ## Exchanging one child -/

/-- The children under a role, seen through a function that does not tell the child from its
replacement. -/
theorem map_childrenIn_exchange {β : Type*} {φ : Node → β} (hφ : φ c' = φ c) (role : Role) :
    (childrenIn ⟨h, before ++ (r, c') :: after⟩ role).map φ =
      (childrenIn ⟨h, before ++ (r, c) :: after⟩ role).map φ := by
  by_cases hr : r = role <;> simp [childrenIn, hr, hφ]

theorem child?_eq_head? (n : Node) (role : Role) : n.child? role = (n.childrenIn role).head? := by
  rw [child?, childrenIn, List.head?_map, List.head?_filter]

theorem map_child?_exchange {β : Type*} {φ : Node → β} (hφ : φ c' = φ c) (role : Role) :
    (child? ⟨h, before ++ (r, c') :: after⟩ role).map φ =
      (child? ⟨h, before ++ (r, c) :: after⟩ role).map φ := by
  rw [child?_eq_head?, child?_eq_head?, ← List.head?_map, ← List.head?_map,
    map_childrenIn_exchange hφ]

theorem map_subnodes_exchange {β : Type*} {φ : Node → β} (hφ : φ c' = φ c) :
    (subnodes ⟨h, before ++ (r, c') :: after⟩).map φ =
      (subnodes ⟨h, before ++ (r, c) :: after⟩).map φ := by
  simp [subnodes, hφ]

theorem map_sides_exchange {β : Type*} {φ : Node → β} (hφ : φ c' = φ c) :
    (sides ⟨h, before ++ (r, c') :: after⟩).map φ =
      (sides ⟨h, before ++ (r, c) :: after⟩).map φ := by
  simp only [sides, List.map_append, ← Option.toList_map, map_child?_exchange hφ]

/-! ## Nodes that say the same of themselves -/

/-- The nodes say the same of themselves, or each is a `+`. -/
def Resembles (n n' : Node) : Prop := n'.toHead = n.toHead ∨ n.isConcat ∧ n'.isConcat

namespace Resembles

theorem kind_eq (h : Resembles n n') : n'.kind = n.kind := by
  rcases h with hhead | ⟨hconcat, hconcat'⟩
  · rw [hhead]
  · rw [kind_of_isConcat hconcat, kind_of_isConcat hconcat']

theorem isConcat_eq (h : Resembles n n') : n'.isConcat = n.isConcat := by
  rcases h with hhead | ⟨hconcat, hconcat'⟩
  · simp only [isConcat, valueText, hhead]
  · rw [hconcat, hconcat']

theorem name_eq (h : Resembles n n') (hkind : n.kind = .identifier) : n'.name = n.name := by
  rcases h with hhead | ⟨hconcat, -⟩
  · rw [hhead]
  · rw [kind_of_isConcat hconcat] at hkind
    cases hkind

theorem isIdentifier_eq (h : Resembles n n') : n'.isIdentifier = n.isIdentifier := by
  funext x
  rw [isIdentifier, isIdentifier, h.kind_eq]
  by_cases hkind : n.kind = .identifier
  · rw [nameText, nameText, h.name_eq hkind]
  · rw [beq_false_of_ne hkind, Bool.false_and, Bool.false_and]

end Resembles

/-- The expressions are equal, or `+` chains of the same operands. -/
def SameOperands (a a' : Node) : Prop :=
  a' = a ∨ a.isConcat ∧ a'.isConcat ∧ a'.operands = a.operands

namespace SameOperands

theorem resembles (h : SameOperands n n') : Resembles n n' := by
  obtain rfl | ⟨hconcat, hconcat', -⟩ := h
  · exact .inl rfl
  · exact .inr ⟨hconcat, hconcat'⟩

theorem isTaintedConcat_eq (h : SameOperands n n') : n'.isTaintedConcat = n.isTaintedConcat := by
  have hconcat := h.resembles.isConcat_eq
  obtain rfl | ⟨-, -, hoperands⟩ := h
  · rfl
  · exact isTaintedConcat_congr hconcat (by rw [hoperands])

end SameOperands

/-! ## Exchanging a chain -/

/-- The second tree is the first one with another chain of the same operands and strays in place of
one of its chains. -/
inductive Rechained : Node → Node → Prop
  | chain {m m' : Node} (hm : Reassociated m m') : Rechained m m'
  | inside {c c' : Node} (hc : Rechained c c') (h : Head) (r : Role)
      (before after : List (Role × Node)) :
      Rechained ⟨h, before ++ (r, c) :: after⟩ ⟨h, before ++ (r, c') :: after⟩

namespace Rechained

theorem resembles (hn : Rechained n n') : Resembles n n' := by
  cases hn with
  | chain hm => exact .inr ⟨hm.isConcat, hm.isConcat'⟩
  | inside => exact .inl rfl

theorem map_kind_operands (hn : Rechained n n') :
    n'.operands.map (·.kind) = n.operands.map (·.kind) := by
  induction hn with
  | chain hm => rw [hm.operands]
  | @inside c c' hc h r before after ih =>
    let n : Node := ⟨h, before ++ (r, c) :: after⟩
    let n' : Node := ⟨h, before ++ (r, c') :: after⟩
    have hsame : n'.isConcat = n.isConcat := (inside hc h r before after).resembles.isConcat_eq
    by_cases hconcat : n.isConcat
    · have hsides : (n'.sides.map fun s => s.operands.map (·.kind)) =
          n.sides.map fun s => s.operands.map (·.kind) := map_sides_exchange ih
      rw [operands_of_isConcat (n := n) hconcat, operands_of_isConcat (n := n') (hsame ▸ hconcat),
        List.map_flatMap, List.map_flatMap, List.flatMap_def, List.flatMap_def, hsides]
    · rw [operands_of_not_isConcat (n := n) hconcat,
        operands_of_not_isConcat (n := n') (hsame ▸ hconcat)]
      rfl

theorem isTaintedConcat_eq (hn : Rechained n n') : n'.isTaintedConcat = n.isTaintedConcat :=
  isTaintedConcat_congr hn.resembles.isConcat_eq hn.map_kind_operands

end Rechained

/-! ## Values bound in a scope -/

/-- The values that are bound to `x` in a node or below it, in the scope of the node. -/
def boundWithin (x : String) (n : Node) : List Node :=
  (n.preorder Walk.withinScope).filterMap (boundValue? x)

theorem boundWithin_eq (x : String) (n : Node) :
    n.boundWithin x =
      (n.boundValue? x).toList ++ (Walk.inner Walk.withinScope n).flatMap (boundWithin x) := by
  rw [boundWithin, preorder_eq, List.filterMap_cons, List.filterMap_flatMap]
  cases n.boundValue? x <;> rfl

theorem bindings_eq (scope : Node) (x : String) :
    scope.bindings x = scope.subnodes.flatMap (boundWithin x) := by
  rw [bindings, scopedDescendants, Walk.drain_eq_flatMap, List.filterMap_flatMap]
  rfl

theorem boundValue?_eq_none (x : String) (hlocal : n.kind ≠ .localVar)
    (hassign : n.kind ≠ .assignment) : n.boundValue? x = none := by
  simp [boundValue?, isPlainAssignment, hlocal, hassign]

theorem boundWithin_of_isConcat (x : String) (h : n.isConcat) :
    n.boundWithin x = n.subnodes.flatMap (boundWithin x) := by
  have hkind := kind_of_isConcat h
  have hvalue : n.boundValue? x = none :=
    boundValue?_eq_none x (by simp [hkind]) (by simp [hkind])
  have henters : Walk.inner Walk.withinScope n = n.subnodes := by
    rw [Walk.inner, hkind]
    rfl
  rw [boundWithin_eq, hvalue, henters]
  rfl

/-- Whether a tainted chain is bound to `x` in the scope. -/
def taints (scope : Node) (x : String) : Bool := (scope.bindings x).any isTaintedConcat

theorem any_flatMap_boundWithin (x : String) (ns : List Node) :
    (ns.flatMap (boundWithin x)).any isTaintedConcat =
      (ns.map fun n => (n.boundWithin x).any isTaintedConcat).any id := by
  rw [List.any_flatMap, List.any_map]
  rfl

/-- What a node binds itself, when one of its children is exchanged. -/
theorem map_boundValue?_exchange {β : Type*} {φ : Node → β} (hφ : φ c' = φ c)
    (hidentifier : c'.isIdentifier = c.isIdentifier) (x : String) :
    (boundValue? x ⟨h, before ++ (r, c') :: after⟩).map φ =
      (boundValue? x ⟨h, before ++ (r, c) :: after⟩).map φ := by
  let n : Node := ⟨h, before ++ (r, c) :: after⟩
  let n' : Node := ⟨h, before ++ (r, c') :: after⟩
  have htarget : (n'.child? .target).any (·.isIdentifier x) =
      (n.child? .target).any (·.isIdentifier x) := by
    have hmap : (n'.child? .target).map (·.isIdentifier x) =
        (n.child? .target).map (·.isIdentifier x) :=
      map_child?_exchange (congrFun hidentifier x) .target
    exact any_eq_of_map_eq hmap
  have hvalue : (n'.child? .value).map φ = (n.child? .value).map φ := map_child?_exchange hφ .value
  show (if n.kind == .localVar && n.nameText == x then n'.child? .value
    else if n.isPlainAssignment && (n'.child? .target).any (·.isIdentifier x) then n'.child? .value
    else none).map φ = (n.boundValue? x).map φ
  rw [htarget, boundValue?]
  split_ifs
  · exact hvalue
  · exact hvalue
  · rfl

namespace Rechained

theorem any_boundWithin (hn : Rechained n n') (x : String) :
    (n'.boundWithin x).any isTaintedConcat = (n.boundWithin x).any isTaintedConcat := by
  induction hn with
  | chain hm => exact (hm.perm fun n => boundWithin_of_isConcat x).any_eq
  | @inside c c' hc h r before after ih =>
    let n : Node := ⟨h, before ++ (r, c) :: after⟩
    let n' : Node := ⟨h, before ++ (r, c') :: after⟩
    have hself : (n'.boundValue? x).toList.any isTaintedConcat =
        (n.boundValue? x).toList.any isTaintedConcat := by
      have hmap : (n'.boundValue? x).map isTaintedConcat = (n.boundValue? x).map isTaintedConcat :=
        map_boundValue?_exchange hc.isTaintedConcat_eq hc.resembles.isIdentifier_eq x
      rw [any_toList, any_toList]
      exact any_eq_of_map_eq hmap
    have hinner : ((Walk.inner Walk.withinScope n').flatMap (boundWithin x)).any isTaintedConcat =
        ((Walk.inner Walk.withinScope n).flatMap (boundWithin x)).any isTaintedConcat := by
      rw [any_flatMap_boundWithin, any_flatMap_boundWithin]
      show ((if Walk.withinScope n.kind then n'.subnodes else []).map _).any id = _
      rw [Walk.inner]
      split_ifs
      · exact congrArg (List.any · id) (map_subnodes_exchange ih)
      · rfl
    rw [boundWithin_eq, boundWithin_eq, List.any_append, List.any_append]
    exact congrArg₂ (· || ·) hself hinner

/-- Parentheses do not matter to what is bound in a scope. -/
theorem taints_eq (hn : Rechained n n') : n'.taints = n.taints := by
  funext x
  rw [taints, taints, bindings_eq, bindings_eq]
  cases hn with
  | chain hm =>
    rw [← boundWithin_of_isConcat x hm.isConcat, ← boundWithin_of_isConcat x hm.isConcat']
    exact (chain hm).any_boundWithin x
  | inside hc h r before after =>
    rw [any_flatMap_boundWithin, any_flatMap_boundWithin]
    exact congrArg (List.any · id) (map_subnodes_exchange (hc.any_boundWithin x))

end Rechained

end Node

/-! ## One call -/

theorem map_eq_of_forall₂ {α β γ : Type*} {R : α → β → Prop} {f : α → γ} {g : β → γ}
    {xs : List α} {ys : List β} (h : List.Forall₂ R xs ys) (hR : ∀ x y, R x y → g y = f x) :
    ys.map g = xs.map f := by
  induction h with
  | nil => rfl
  | cons hxy _ ih => rw [List.map_cons, List.map_cons, hR _ _ hxy, ih]

namespace Rules.SqlInjection

open Node

variable {sinks : List String} {s s' : Site} {n n' a a' : Node} {scope scope' : Option Node}

/-- Of the callable only what it binds to tainted chains matters. -/
theorem taint?_eq (scope : Option Node) (a : Node) :
    taint? scope a =
      if a.isTaintedConcat then some .inline
      else if a.kind = .identifier then
        a.name.bind fun x => (scope.map taints).bind fun tainted =>
          if tainted x then some (.through x) else none
      else none := by
  cases hname : a.name <;> cases scope <;> simp [taint?, hname, taints]

theorem taint?_congr (hscope : scope'.map taints = scope.map taints) (ha : Resembles a a')
    (htainted : a'.isTaintedConcat = a.isTaintedConcat) : taint? scope' a' = taint? scope a := by
  rw [taint?_eq, taint?_eq, hscope, htainted, ha.kind_eq]
  by_cases hkind : a.kind = .identifier
  · rw [ha.name_eq hkind]
  · rw [if_neg hkind, if_neg hkind]

theorem report_of_taints (hfile : s'.file = s.file) (hhead : n'.toHead = n.toHead)
    (htaint : n'.arguments.map (taint? s'.callable?) = n.arguments.map (taint? s.callable?)) :
    report sinks s' n' = report sinks s n := by
  have hfirst : ∀ (m : Node) (scope : Option Node),
      m.arguments.findSome? (taint? scope) = (m.arguments.map (taint? scope)).findSome? id := by
    intro m scope
    rw [List.findSome?_map]
    rfl
  simp only [report, nameText, hhead, Site.finding, Site.findingAt, hfile, hfirst, htaint]

/-- The verdict on a call, when its arguments and the values bound in its callable are the same up
to parentheses. -/
theorem report_of_sameOperands (hfile : s'.file = s.file) (hhead : n'.toHead = n.toHead)
    (harguments : List.Forall₂ SameOperands n.arguments n'.arguments)
    (hbindings : Option.Rel
      (fun c c' => ∀ x, List.Forall₂ SameOperands (c.bindings x) (c'.bindings x))
      s.callable? s'.callable?) :
    report sinks s' n' = report sinks s n := by
  have hscope : s'.callable?.map taints = s.callable?.map taints := by
    generalize s.callable? = scope, s'.callable? = scope' at hbindings
    cases hbindings with
    | none => rfl
    | @some c c' h =>
      refine congrArg some (funext fun x => ?_)
      have hmap := map_eq_of_forall₂ (h x) fun _ _ => SameOperands.isTaintedConcat_eq
      have hany : ∀ d : Node, d.taints x = ((d.bindings x).map isTaintedConcat).any id := by
        intro d
        rw [List.any_map]
        rfl
      rw [hany, hany, hmap]
  refine report_of_taints hfile hhead (map_eq_of_forall₂ harguments fun a a' h => ?_)
  exact taint?_congr hscope h.resembles h.isTaintedConcat_eq

/-! ## All calls of a tree -/

/-- What is reported at a visit, with what the call says of itself. -/
def verdictAt (sinks : List String) (u : SourceUnit) (v : Visit) : List (Head × List Finding) :=
  if v.node.kind = .call then [(v.node.toHead, report sinks (v.site u) v.node)] else []

/-- The verdicts on all calls within a visit. -/
def verdictsWithin (sinks : List String) (u : SourceUnit) (v : Visit) :
    List (Head × List Finding) :=
  v.within.flatMap (verdictAt sinks u)

/-- What the callable around a node binds to tainted chains. -/
def scopeTaints (ancestors : List Node) : Option (String → Bool) :=
  (ancestors.find? (·.kind.isCallable)).map taints

theorem scopeTaints_cons (n : Node) (ancestors : List Node) :
    scopeTaints (n :: ancestors) =
      if n.kind.isCallable then some n.taints else scopeTaints ancestors := by
  rw [scopeTaints, List.find?_cons]
  cases n.kind.isCallable <;> rfl

/-- Below nodes that bind the same, the same is known as before. -/
theorem scopeTaints_cons_congr {above above' : List Node} (hkind : n'.kind = n.kind)
    (htaints : n'.taints = n.taints) (habove : scopeTaints above' = scopeTaints above) :
    scopeTaints (n' :: above') = scopeTaints (n :: above) := by
  rw [scopeTaints_cons, scopeTaints_cons, hkind, htaints, habove]

theorem verdictAt_congr {u : SourceUnit} {v v' : Visit} (hhead : v'.node.toHead = v.node.toHead)
    (htaint : v'.node.arguments.map (taint? (v'.site u).callable?) =
      v.node.arguments.map (taint? (v.site u).callable?)) :
    verdictAt sinks u v' = verdictAt sinks u v := by
  have hreport : report sinks (v'.site u) v'.node = report sinks (v.site u) v.node :=
    report_of_taints rfl hhead htaint
  rw [verdictAt, verdictAt, hreport, hhead]

/-- Equal trees have the same verdicts in places that know the same. -/
theorem verdictsWithin_congr {u : SourceUnit} {v v' : Visit} (hnode : v'.node = v.node)
    (hscope : scopeTaints v'.ancestors = scopeTaints v.ancestors) :
    verdictsWithin sinks u v' = verdictsWithin sinks u v := by
  induction v using Visit.of_children generalizing v' with
  | h v ih =>
    have hself : verdictAt sinks u v' = verdictAt sinks u v := by
      refine verdictAt_congr (by rw [hnode]) ?_
      rw [hnode]
      exact List.map_congr_left fun a _ => taint?_congr hscope (.inl rfl) rfl
    have hbelow : scopeTaints (v.node :: v'.ancestors) = scopeTaints (v.node :: v.ancestors) :=
      scopeTaints_cons_congr rfl rfl hscope
    rw [verdictsWithin, verdictsWithin, Visit.within_eq, Visit.within_eq, List.flatMap_cons,
      List.flatMap_cons, hself, List.flatMap_assoc, List.flatMap_assoc, Visit.children,
      Visit.children, hnode, List.flatMap_map, List.flatMap_map]
    refine congrArg _ (List.flatMap_congr fun entry hc => ?_)
    obtain ⟨⟨r, c⟩, i⟩ := entry
    have hchild : ⟨v.path ++ [i], v.node :: v.ancestors, c⟩ ∈ v.children :=
      Visit.mem_children.2 ⟨i, r, c, List.mk_mem_zipIdx_iff_getElem?.1 hc, rfl⟩
    exact ih _ hchild rfl hbelow

/-- The verdicts on the calls of a tree that stands below other nodes. -/
def verdictsBelow (sinks : List String) (u : SourceUnit) (above : List Node) (n : Node) :
    List (Head × List Finding) :=
  verdictsWithin sinks u ⟨[], above, n⟩

theorem verdictsWithin_eq {u : SourceUnit} (v : Visit) :
    verdictsWithin sinks u v =
      verdictAt sinks u v ++
        v.node.subnodes.flatMap (verdictsBelow sinks u (v.node :: v.ancestors)) := by
  rw [verdictsWithin, Visit.within_eq, List.flatMap_cons, List.flatMap_assoc,
    ← Visit.map_node_children, List.flatMap_map]
  refine congrArg _ (List.flatMap_congr fun w hw => ?_)
  obtain ⟨i, r, c, -, rfl⟩ := Visit.mem_children.1 hw
  exact verdictsWithin_congr rfl rfl

/-- A `+` is no call, and what is below it has the callable that is around it. -/
theorem verdictsBelow_of_isConcat {u : SourceUnit} {above : List Node} (h : n.isConcat) :
    verdictsBelow sinks u above n = n.subnodes.flatMap (verdictsBelow sinks u above) := by
  have hkind := kind_of_isConcat h
  have hself : verdictAt sinks u ⟨[], above, n⟩ = [] := by
    rw [verdictAt, if_neg (by simp [hkind])]
  have hscope : scopeTaints (n :: above) = scopeTaints above := by
    rw [scopeTaints_cons, hkind]
    rfl
  rw [verdictsBelow, verdictsWithin_eq, hself, List.nil_append]
  exact List.flatMap_congr fun c _ => verdictsWithin_congr rfl hscope

/-- **One exchange of a chain keeps the verdicts.** -/
theorem perm_verdictsBelow {u : SourceUnit} (hn : Rechained n n') {above above' : List Node}
    (habove : scopeTaints above' = scopeTaints above) :
    (verdictsBelow sinks u above' n').Perm (verdictsBelow sinks u above n) := by
  induction hn generalizing above above' with
  | @chain m m' hm =>
    have hsame : verdictsBelow sinks u above' m' = verdictsBelow sinks u above m' :=
      verdictsWithin_congr rfl habove
    rw [hsame]
    exact hm.perm fun n => verdictsBelow_of_isConcat
  | @inside c c' hc h r before after ih =>
    let n : Node := ⟨h, before ++ (r, c) :: after⟩
    let n' : Node := ⟨h, before ++ (r, c') :: after⟩
    have hbelow : scopeTaints (n' :: above') = scopeTaints (n :: above) :=
      scopeTaints_cons_congr rfl (Rechained.inside hc h r before after).taints_eq habove
    have hself : verdictAt sinks u ⟨[], above', n'⟩ = verdictAt sinks u ⟨[], above, n⟩ := by
      have htaint : taint? (above'.find? (·.kind.isCallable)) =
          taint? (above.find? (·.kind.isCallable)) :=
        funext fun a => taint?_congr habove (.inl rfl) rfl
      refine verdictAt_congr rfl ?_
      show n'.arguments.map (taint? (above'.find? (·.kind.isCallable))) = _
      rw [htaint]
      exact map_childrenIn_exchange
        (taint?_congr rfl hc.resembles hc.isTaintedConcat_eq) .argument
    have hothers : verdictsBelow sinks u (n' :: above') = verdictsBelow sinks u (n :: above) :=
      funext fun d => verdictsWithin_congr rfl hbelow
    rw [verdictsBelow, verdictsBelow, verdictsWithin_eq, verdictsWithin_eq, hself, hothers]
    simp only [subnodes, n, List.map_append, List.map_cons, List.flatMap_append,
      List.flatMap_cons]
    exact (((ih rfl).append_right _).append_left _).append_left _

/-- The verdicts on all calls of a tree. -/
def verdicts (sinks : List String) (u : SourceUnit) (root : Node) : List (Head × List Finding) :=
  root.visits.flatMap (verdictAt sinks u)

theorem perm_verdicts {root root' : Node} (h : Relation.ReflTransGen Rechained root root')
    (u : SourceUnit) : (verdicts sinks u root').Perm (verdicts sinks u root) := by
  induction h with
  | refl => exact .refl _
  | tail _ hstep ih => exact (perm_verdictsBelow hstep rfl).trans ih

end Rules.SqlInjection

/-! ## Reports -/

namespace Engine

open Node Rules.SqlInjection

variable {e : Engine} {s : Settings}

theorem queryFindings_eq (he : Registry.ofSettings s = .ok e.registry) {u : SourceUnit}
    {root : Node} (hu : u.tree = .ok root) {t : Interrupts} (ht : (e.analyze u t).isComplete) :
    (e.analyze u t).findings.filter (·.ruleId == rule.id) =
      if s.analysis.disabledRules.contains rule.id then []
      else ((verdicts s.rules.querySinkNames u root).flatMap (·.2)).map (e.finalize u) := by
  have hmem : ∀ c, .reporting rule [.call] (report s.rules.querySinkNames) ∈
      Registry.detectorsWith s.rules c := by
    simp [Registry.detectorsWith, detector]
  rw [filter_findings_of_isComplete hu ht,
    List.flatMap_congr fun v _ => ruleFindingsAt_eq he hmem (by decide) u v]
  by_cases hoff : s.analysis.disabledRules.contains rule.id
  · simp only [if_pos hoff]
    exact List.flatMap_eq_nil_iff.2 fun _ _ => rfl
  · simp only [if_neg hoff]
    rw [verdicts, List.flatMap_assoc, List.map_flatMap]
    refine List.flatMap_congr fun v _ => ?_
    rw [verdictAt]
    by_cases hcall : v.node.kind = .call
    · rw [if_pos hcall, List.flatMap_singleton, hcall]
      rfl
    · rw [if_neg hcall, if_neg (by simp [hcall])]
      rfl

/-- **Parentheses do not matter to queries.** The operands of an expression are those of the plain
recursion, and none of them is a `+`. Two `+` chains of the same operands are both tainted or both
not. A call has the same report when its arguments, and the values bound in its callable, are the
same or `+` chains of the same operands. In two trees that differ only in how chains are
parenthesized, the calls come with the same reports, and complete reports on the two trees hold the
same findings of the rule. -/
theorem reports_of_reassociated (s : Settings) :
    (∀ n : Node, n.concatOperands = n.operands ∧ ∀ x ∈ n.operands, ¬x.isConcat) ∧
    (∀ m m' : Node, m.isConcat → m'.isConcat → m'.operands = m.operands →
      m'.isTaintedConcat = m.isTaintedConcat) ∧
    (∀ (sinks : List String) (st st' : Site) (n n' : Node), st'.file = st.file →
      n'.toHead = n.toHead → List.Forall₂ SameOperands n.arguments n'.arguments →
      Option.Rel (fun c c' => ∀ x, List.Forall₂ SameOperands (c.bindings x) (c'.bindings x))
        st.callable? st'.callable? →
      report sinks st' n' = report sinks st n) ∧
    ∀ root root' : Node, Relation.ReflTransGen Rechained root root' →
      (∀ (sinks : List String) (u : SourceUnit),
        (verdicts sinks u root').Perm (verdicts sinks u root)) ∧
      ∀ (e : Engine) (u : SourceUnit) (t t' : Interrupts),
        Registry.ofSettings s = .ok e.registry → u.tree = .ok root →
        let r := e.analyze u t
        let r' := e.analyze { u with tree := .ok root' } t'
        r.isComplete → r'.isComplete →
        (r'.findings.filter (·.ruleId == rule.id)).Perm
          (r.findings.filter (·.ruleId == rule.id)) := by
  refine ⟨fun n => ⟨n.concatOperands_eq, not_isConcat_of_mem_operands⟩, ?_, ?_, ?_⟩
  · intro m m' hm hm' hoperands
    exact SameOperands.isTaintedConcat_eq (.inr ⟨hm, hm', hoperands⟩)
  · intro sinks st st' n n' hfile hhead harguments hbindings
    exact report_of_sameOperands hfile hhead harguments hbindings
  · intro root root' hroot
    refine ⟨fun sinks u => perm_verdicts hroot u, ?_⟩
    intro e u t t' he hu r r' hr hr'
    have hu' : ({ u with tree := .ok root' } : SourceUnit).tree = .ok root' := rfl
    rw [queryFindings_eq he hu hr, queryFindings_eq he hu' hr']
    by_cases hoff : s.analysis.disabledRules.contains rule.id
    · rw [if_pos hoff, if_pos hoff]
    · rw [if_neg hoff, if_neg hoff]
      exact ((perm_verdicts hroot u).flatMap_right _).map _

/-- `("SELECT " + a) + b` -/
def selectLeft : Node :=
  .binaryOf "+"
    (.binaryOf "+" (.string "SELECT " ⟨2, 3, 2, 9⟩) (.ident "a" ⟨2, 3, 2, 9⟩) ⟨2, 3, 2, 9⟩)
    (.ident "b" ⟨2, 3, 2, 9⟩) ⟨2, 3, 2, 9⟩

/-- `"SELECT " + (a + b)` -/
def selectRight : Node :=
  .binaryOf "+" (.string "SELECT " ⟨2, 3, 2, 9⟩)
    (.binaryOf "+" (.ident "a" ⟨2, 3, 2, 9⟩) (.ident "b" ⟨2, 3, 2, 9⟩) ⟨2, 3, 2, 9⟩) ⟨2, 3, 2, 9⟩

/-- The call `query(sql, <chain>)`. -/
def queryCall (chain : Node) : Node :=
  (Node.callOf "query" ⟨3, 1, 3, 9⟩).pushAll .argument [.ident "sql" ⟨3, 7, 3, 8⟩, chain]

def sqlLocal (chain : Node) : Node :=
  ({ kind := .localVar, span := ⟨2, 1, 2, 9⟩, name := some "sql" } : Node).push .value chain

/-- A function that binds a chain to `sql` and passes that and another chain to a query. -/
def queryTree (bound passed : Node) : Node :=
  (Node.leaf .function ⟨1, 1, 4, 2⟩).pushAll .statement [sqlLocal bound, queryCall passed]

def queryUnit : SourceUnit :=
  .parsed "query.js" "function f() \x7b\nlet sql\nquery()\n\x7d" (queryTree selectLeft selectLeft)

theorem reassociated_select : Reassociated selectLeft selectRight :=
  ⟨by decide, by decide, by decide +kernel, by decide +kernel⟩

theorem rechained_queryTree : Relation.ReflTransGen Rechained (queryTree selectLeft selectLeft)
    (queryTree selectRight selectRight) := by
  have hbound : Rechained (queryTree selectLeft selectLeft) (queryTree selectRight selectLeft) :=
    .inside (.inside (.chain reassociated_select) (sqlLocal selectLeft).toHead .value [] [])
      (queryTree selectLeft selectLeft).toHead .statement [] [(.statement, queryCall selectLeft)]
  have hpassed : Rechained (queryTree selectRight selectLeft) (queryTree selectRight selectRight) :=
    .inside (.inside (.chain reassociated_select) (queryCall selectLeft).toHead .argument
        [(.argument, .ident "sql" ⟨3, 7, 3, 8⟩)] [])
      (queryTree selectLeft selectLeft).toHead .statement [(.statement, sqlLocal selectRight)] []
  exact .tail (.single hbound) hpassed

theorem bindings_queryTree {chain : Node} (hchain : chain ∈ [selectLeft, selectRight])
    (x : String) :
    (queryTree chain chain).bindings x = if x = "sql" then [chain] else [] := by
  have hlist : (queryTree chain chain).scopedDescendants =
      sqlLocal chain :: (queryTree chain chain).scopedDescendants.tail := by
    revert hchain chain
    decide +kernel
  have hothers : ∀ n ∈ (queryTree chain chain).scopedDescendants.tail,
      n.kind ≠ .localVar ∧ n.kind ≠ .assignment := by
    revert hchain chain
    decide +kernel
  have hnone : (queryTree chain chain).scopedDescendants.tail.filterMap (boundValue? x) = [] :=
    List.filterMap_eq_nil_iff.2 fun n hn =>
      boundValue?_eq_none x (hothers n hn).1 (hothers n hn).2
  rw [bindings, hlist, List.filterMap_cons, hnone]
  by_cases hx : x = "sql"
  · subst hx
    rfl
  · have hself : (sqlLocal chain).boundValue? x = none := by
      have hname : ("sql" == x) = false := beq_false_of_ne (Ne.symm hx)
      show (if "sql" == x then _ else none) = none
      rw [hname]
      rfl
    rw [hself, if_neg hx]

/-- Both arguments of the query are tainted, however the chains are parenthesized. -/
theorem reports_of_reassociated_select :
    let s : Settings := { rules := Registry.plainRules }
    let e : Engine := ⟨.plain, true⟩
    let root := queryTree selectLeft selectLeft
    let root' := queryTree selectRight selectRight
    let u' : SourceUnit := { queryUnit with tree := .ok root' }
    Registry.ofSettings s = .ok e.registry ∧
    Relation.ReflTransGen Rechained root root' ∧ selectLeft.isTaintedConcat ∧
    selectRight.isTaintedConcat = selectLeft.isTaintedConcat ∧
    report ["query"] ⟨u', [root'], 1⟩ (queryCall selectRight) =
      report ["query"] ⟨queryUnit, [root], 1⟩ (queryCall selectLeft) ∧
    (verdicts ["query"] u' root').Perm (verdicts ["query"] u' root) ∧
    ((e.analyze u' .never).findings.filter (·.ruleId == rule.id)).Perm
      ((e.analyze queryUnit .never).findings.filter (·.ruleId == rule.id)) := by
  intro s e root root' u'
  have hcomplete : (e.analyze queryUnit .never).isComplete := by
    rw [e.analyze_never (u := queryUnit) rfl]
    rfl
  have hcomplete' : (e.analyze u' .never).isComplete := by
    rw [e.analyze_never (u := u') rfl]
    rfl
  have hsame : SameOperands selectLeft selectRight :=
    .inr ⟨reassociated_select.isConcat, reassociated_select.isConcat',
      reassociated_select.operands⟩
  have hbindings : ∀ x, List.Forall₂ SameOperands (root.bindings x) (root'.bindings x) := by
    intro x
    rw [bindings_queryTree (by simp), bindings_queryTree (by simp)]
    split_ifs
    · exact .cons hsame .nil
    · exact .nil
  obtain ⟨-, htainted, hcall, htree⟩ := reports_of_reassociated s
  obtain ⟨hverdicts, hfindings⟩ := htree root root' rechained_queryTree
  refine ⟨rfl, rechained_queryTree, by decide +kernel, ?_, ?_, hverdicts ["query"] u', ?_⟩
  · exact htainted selectLeft selectRight reassociated_select.isConcat
      reassociated_select.isConcat' reassociated_select.operands
  · exact hcall ["query"] ⟨queryUnit, [root], 1⟩ ⟨u', [root'], 1⟩ (queryCall selectLeft)
      (queryCall selectRight) rfl rfl (.cons (.inl rfl) (.cons hsame .nil)) (.some hbindings)
  · exact hfindings e queryUnit .never .never rfl rfl hcomplete hcomplete'

end Engine

end TreeLint
