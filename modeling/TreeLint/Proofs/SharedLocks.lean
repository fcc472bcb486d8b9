import Mathlib.Logic.Equiv.Basic
import TreeLint.Proofs.Reach
import TreeLint.Proofs.RuleFindings

/-!
# Methods that share a lock

A synchronized method of a class is reported when it shares no field with another critical section
of the class. The rule collects two lists of names, those of the fields that the method touches and
those of the fields that the critical sections of the other members touch, and asks whether they
meet.

**Theorem (`locks_of_isComplete`).** Two synchronized methods of a class that touch a common field
are both left alone; they may even be equal, since a method is told apart from the other members by
its position. And the order of the members does not matter: if the members of a class are permuted,
each method of the class is reported as before, with the same message.

Of the two lists, the first one goes into the message, and the other one is only asked for members.
The first one is filtered from the names in the method, in their order, so the order of the fields
in the class does not show in it (`touchedFields_congr`). The other one comes from all members but
one, and for the report it is enough to know which members these are (`mem_otherMembers_iff`).
-/

namespace TreeLint

namespace Rules.OverSynchronization

variable {fields fields' : List String} {owner owner' region m n : Node} {f : String}
  {s s' : Site}

/-! ## What a region touches -/

/-- The region uses the variable `f`: under its bare name, which no local or parameter of the region
has, or as a field of `this`. -/
inductive Touches (region : Node) (f : String) : Prop
  | bare {n : Node} (hn : n ∈ region.descendants) (hkind : n.kind = .identifier)
      (hname : n.name = some f)
      (hfree : ∀ d ∈ region.descendants, d.kind = .localVar ∨ d.kind = .parameter →
        d.name ≠ some f)
  | ofThis {n receiver : Node} (hn : n ∈ region.descendants) (hkind : n.kind = .fieldAccess)
      (hname : n.name = some f) (hreceiver : n.child? .receiver = some receiver)
      (hself : receiver.isSelf)

theorem mem_localNames_iff :
    f ∈ localNames region ↔
      ∃ d ∈ region.descendants, (d.kind = .localVar ∨ d.kind = .parameter) ∧ d.name = some f := by
  simp [localNames, and_assoc]

theorem touched?_eq_some_iff {hidden : List String} :
    touched? hidden n = some f ↔
      (n.kind = .identifier ∧ n.name = some f ∧ f ∉ hidden) ∨
        (n.kind = .fieldAccess ∧ n.name = some f ∧
          ∃ receiver, n.child? .receiver = some receiver ∧ receiver.isSelf) := by
  cases hkind : n.kind with
  | identifier => simp [touched?, hkind, Option.filter_eq_some_iff]
  | fieldAccess =>
    cases hreceiver : n.child? .receiver <;> simp [touched?, hkind, hreceiver, and_comm]
  | _ => simp [touched?, hkind]

theorem mem_touchedFields_iff :
    f ∈ touchedFields fields region ↔ f ∈ fields ∧ Touches region f := by
  rw [touchedFields, List.mem_filter, List.contains_iff_mem, and_comm]
  refine and_congr_right fun _ => ?_
  rw [List.mem_filterMap]
  constructor
  · rintro ⟨n, hn, htouched⟩
    rcases touched?_eq_some_iff.1 htouched with
      ⟨hkind, hname, hfree⟩ | ⟨hkind, hname, receiver, hreceiver, hself⟩
    · refine .bare hn hkind hname fun d hd hdeclares hdname => hfree ?_
      exact mem_localNames_iff.2 ⟨d, hd, hdeclares, hdname⟩
    · exact .ofThis hn hkind hname hreceiver hself
  · rintro (⟨hn, hkind, hname, hfree⟩ | ⟨hn, hkind, hname, hreceiver, hself⟩)
    · refine ⟨_, hn, touched?_eq_some_iff.2 (.inl ⟨hkind, hname, fun hlocal => ?_⟩)⟩
      obtain ⟨d, hd, hdeclares, hdname⟩ := mem_localNames_iff.1 hlocal
      exact hfree d hd hdeclares hdname
    · exact ⟨_, hn, touched?_eq_some_iff.2 (.inr ⟨hkind, hname, _, hreceiver, hself⟩)⟩

theorem touchedFields_congr (h : ∀ f, f ∈ fields' ↔ f ∈ fields) :
    touchedFields fields' = touchedFields fields := by
  funext region
  refine List.filter_congr fun f _ => ?_
  rw [Bool.eq_iff_iff, List.contains_iff_mem, List.contains_iff_mem, h]

theorem guardedFields_congr (h : ∀ f, f ∈ fields' ↔ f ∈ fields) :
    guardedFields fields' = guardedFields fields := by
  funext m
  rw [guardedFields, guardedFields, touchedFields_congr h]

/-! ## Members of a class -/

/-- The class has a field of the name. -/
def HasField (owner : Node) (f : String) : Prop :=
  ∃ (i : Nat) (d : Node), owner.children[i]? = some (.member, d) ∧ d.kind = .field ∧
    d.name = some f

theorem mem_fieldNames_iff : f ∈ fieldNames owner ↔ HasField owner f := by
  simp only [fieldNames, Node.childrenIn, HasField, List.mem_filterMap, List.mem_filter,
    List.mem_map, Prod.exists, beq_iff_eq]
  constructor
  · rintro ⟨d, ⟨⟨r, d, ⟨hmem, rfl⟩, rfl⟩, hkind⟩, hname⟩
    obtain ⟨i, hi⟩ := List.mem_iff_getElem?.1 hmem
    exact ⟨i, d, hi, hkind, hname⟩
  · rintro ⟨i, d, hi, hkind, hname⟩
    exact ⟨d, ⟨⟨.member, d, ⟨List.mem_of_getElem? hi, rfl⟩, rfl⟩, hkind⟩, hname⟩

/-- The members that the rule looks at besides the method: all, or all but the method itself if the
class is its parent. -/
theorem mem_otherMembers_iff :
    m ∈ otherMembers s owner ↔
      ∃ i, owner.children[i]? = some (.member, m) ∧
        ¬(s.parent?.map (·.kind) = some .classDecl ∧ i = s.index) := by
  simp only [otherMembers, List.mem_map, List.mem_filter, Bool.and_eq_true, beq_iff_eq,
    Bool.not_eq_true', ← Bool.not_eq_true]
  constructor
  · rintro ⟨⟨⟨r, d⟩, i⟩, ⟨hmem, rfl, hother⟩, rfl⟩
    exact ⟨i, List.mk_mem_zipIdx_iff_getElem?.1 hmem, hother⟩
  · rintro ⟨i, hi, hother⟩
    exact ⟨⟨⟨.member, m⟩, i⟩, ⟨List.mk_mem_zipIdx_iff_getElem?.2 hi, rfl, hother⟩, rfl⟩

/-! ## Reports -/

/-- No report, if another member guards a field that the method touches. -/
theorem report_of_guarded (hclass : s.class? = some owner)
    (hf : f ∈ touchedFields (fieldNames owner) n) (hm : m ∈ otherMembers s owner)
    (hguarded : f ∈ guardedFields (fieldNames owner) m) : report s n = [] := by
  have hany : (touchedFields (fieldNames owner) n).any
      (((otherMembers s owner).flatMap (guardedFields (fieldNames owner))).contains ·) := by
    refine List.any_eq_true.2 ⟨f, hf, List.contains_iff_mem.2 ?_⟩
    exact List.mem_flatMap.2 ⟨m, hm, hguarded⟩
  simp only [report, hclass, hany, if_true, ite_self]

/-- The report depends only on which fields the class has and on which members are the others. -/
theorem report_of_same_members (hfile : s'.file = s.file) (hclass : s.class? = some owner)
    (hclass' : s'.class? = some owner') (hfields : ∀ f, HasField owner' f ↔ HasField owner f)
    (hothers : ∀ m, m ∈ otherMembers s' owner' ↔ m ∈ otherMembers s owner) (n : Node) :
    report s' n = report s n := by
  have hnames : ∀ f, f ∈ fieldNames owner' ↔ f ∈ fieldNames owner := by
    intro f
    rw [mem_fieldNames_iff, mem_fieldNames_iff, hfields]
  have hmeet : ∀ f,
      ((otherMembers s' owner').flatMap (guardedFields (fieldNames owner))).contains f =
        ((otherMembers s owner).flatMap (guardedFields (fieldNames owner))).contains f := by
    intro f
    rw [Bool.eq_iff_iff]
    simp only [List.contains_iff_mem, List.mem_flatMap, hothers]
  simp only [report, hclass, hclass', touchedFields_congr hnames, guardedFields_congr hnames, hmeet,
    Site.finding, Site.findingAt, hfile]

end Rules.OverSynchronization

/-! ## Methods in their places -/

namespace Node

theorem size_le_of_at? {n m : Node} {path : List Nat} (h : n.at? path = some m) :
    m.size ≤ n.size := by
  induction path generalizing n with
  | nil => exact (congrArg size (Option.some.inj h)).ge
  | cons i path ih =>
    obtain ⟨r, c, hi, hc⟩ := at?_cons.1 h
    exact (ih hc).trans (size_lt_of_mem (List.mem_of_getElem? hi)).le

theorem size_le_of_mem_ancestorsAt {n a : Node} {path : List Nat} (h : a ∈ n.ancestorsAt path) :
    a.size ≤ n.size := by
  obtain ⟨j, -, hj⟩ := List.mem_filterMap.1 (List.mem_reverse.1 h)
  exact size_le_of_at? hj

end Node

namespace Visit

variable {root c : Node} {b v : Visit} {r : Role} {i : Nat} {q : List Nat}

theorem exists_child_of_path (hb : b ∈ root.visits) (hv : v ∈ root.visits)
    (hpath : v.path = b.path ++ i :: q) :
    ∃ r c, b.node.children[i]? = some (r, c) ∧ c.at? q = some v.node ∧
      v.ancestors = c.ancestorsAt q ++ b.node :: b.ancestors := by
  obtain ⟨hbat, hbanc⟩ := Node.mem_visits_iff.1 hb
  obtain ⟨hvat, hvanc⟩ := Node.mem_visits_iff.1 hv
  rw [hpath, Node.at?_append, hbat] at hvat
  obtain ⟨r, c, hi, hc⟩ := Node.at?_cons.1 hvat
  refine ⟨r, c, hi, hc, ?_⟩
  rw [hvanc, hpath, Node.ancestorsAt_append hbat, Node.ancestorsAt_cons hi, hbanc,
    List.append_assoc]
  rfl

/-- A class is the class of what is below it, but not of what is in a class in between. -/
theorem class?_eq_iff (hclass : b.node.kind = .classDecl)
    (hi : b.node.children[i]? = some (r, c))
    (hanc : v.ancestors = c.ancestorsAt q ++ b.node :: b.ancestors) (u : SourceUnit) :
    (v.site u).class? = some b.node ↔ ∀ a ∈ c.ancestorsAt q, a.kind ≠ .classDecl := by
  let isClass : Node → Bool := ([Kind.classDecl].contains ·.kind)
  have hisClass : ∀ a, isClass a ↔ a.kind = .classDecl := by simp [isClass]
  have hfind : (v.site u).class? = (c.ancestorsAt q ++ b.node :: b.ancestors).find? isClass := by
    rw [← hanc]
    rfl
  rw [hfind, List.find?_append]
  constructor
  · intro hsome a ha hkind
    obtain ⟨a', ha'⟩ := Option.isSome_iff_exists.1
      (List.find?_isSome.2 ⟨a, ha, (hisClass a).2 hkind⟩)
    -- The class in between would be equal to `b.node`, which is larger.
    rw [ha', Option.some_or] at hsome
    obtain rfl := Option.some.inj hsome
    have hle := Node.size_le_of_mem_ancestorsAt (List.mem_of_find?_eq_some ha')
    have hlt := Node.size_lt_of_mem (List.mem_of_getElem? hi)
    omega
  · intro hnone
    have hbetween : (c.ancestorsAt q).find? isClass = none :=
      List.find?_eq_none.2 fun a ha hkind => hnone a ha ((hisClass a).1 hkind)
    rw [hbetween, Option.none_or, List.find?_cons_of_pos ((hisClass _).2 hclass)]

end Visit

namespace Rules.OverSynchronization

variable {root m : Node} {b v : Visit} {i : Nat} {q : List Nat}

/-- What the rule looks at besides a method of the class `b`: all members, or all but the one at the
position of the method, if the method is a member itself. -/
theorem mem_otherMembers_site_iff (hb : b ∈ root.visits) (hclass : b.node.kind = .classDecl)
    (hv : v ∈ root.visits) (hpath : v.path = b.path ++ i :: q) {u : SourceUnit}
    (howner : (v.site u).class? = some b.node) :
    m ∈ otherMembers (v.site u) b.node ↔
      ∃ j, b.node.children[j]? = some (.member, m) ∧ ¬(q = [] ∧ j = i) := by
  obtain ⟨r, c, hi, hc, hanc⟩ := Visit.exists_child_of_path hb hv hpath
  have hbetween := (Visit.class?_eq_iff hclass hi hanc u).1 howner
  have hparent : (v.site u).parent? = v.ancestors.head? := rfl
  have hindex : (v.site u).index = v.path.getLastD 0 := rfl
  rw [mem_otherMembers_iff, hparent, hanc, hindex, hpath]
  cases q with
  | nil =>
    rw [Node.ancestorsAt_nil, List.nil_append, List.head?_cons, Option.map_some, hclass,
      List.getLastD_concat]
    simp
  | cons k q =>
    obtain ⟨a, rest, ha⟩ : ∃ a rest, c.ancestorsAt (k :: q) = a :: rest := by
      refine List.exists_cons_of_length_pos ?_
      rw [Node.length_ancestorsAt hc]
      exact Nat.succ_pos _
    have hkind : a.kind ≠ .classDecl := hbetween a (by rw [ha]; exact List.mem_cons_self)
    rw [ha]
    simp [hkind]

/-- A method of the class that is a critical section as a whole, at a position among the members. -/
structure IsLockedMember (owner : Node) (i : Nat) (m : Node) : Prop where
  member : owner.children[i]? = some (.member, m)
  isMethod : m.kind = .method
  locked : m.hasModifier "synchronized" ∨ m.hasModifier "lock"

theorem IsLockedMember.isSynchronized {owner : Node} (h : IsLockedMember owner i m) :
    isSynchronized m := by
  rcases h.locked with hlocked | hlocked <;> simp [OverSynchronization.isSynchronized, hlocked]

/-- A member that shares a field with a locked member at another position is not reported. -/
theorem report_of_shared (hb : b ∈ root.visits) (hclass : b.node.kind = .classDecl)
    (hv : v ∈ root.visits) (hpath : v.path = b.path ++ [i]) {j : Nat} (hij : j ≠ i)
    (hm : IsLockedMember b.node j m) {f : String} (hf : HasField b.node f)
    (hmine : Touches v.node f) (htheirs : Touches m f) (u : SourceUnit) :
    report (v.site u) v.node = [] := by
  obtain ⟨r, c, hi, -, hanc⟩ := Visit.exists_child_of_path hb hv hpath
  have howner : (v.site u).class? = some b.node :=
    (Visit.class?_eq_iff hclass hi hanc u).2 (by simp)
  have hother : m ∈ otherMembers (v.site u) b.node :=
    (mem_otherMembers_site_iff hb hclass hv hpath howner).2
      ⟨j, hm.member, fun h => hij h.2⟩
  have hfield := mem_fieldNames_iff.2 hf
  have hguarded : f ∈ guardedFields (fieldNames b.node) m := by
    rw [guardedFields, hm.isMethod, hm.isSynchronized]
    exact List.mem_append_left _ (mem_touchedFields_iff.2 ⟨hfield, htheirs⟩)
  exact report_of_guarded howner (mem_touchedFields_iff.2 ⟨hfield, hmine⟩) hother hguarded

section Permuted

variable {root' : Node} {b' v' : Visit} {σ : Equiv.Perm ℕ}

theorem hasField_congr {owner owner' : Node}
    (hσ : ∀ i, owner'.children[σ i]? = owner.children[i]?) (f : String) :
    HasField owner' f ↔ HasField owner f := by
  constructor
  · rintro ⟨i, d, hi, hd⟩
    refine ⟨σ.symm i, d, ?_, hd⟩
    rw [← hσ, Equiv.apply_symm_apply, hi]
  · rintro ⟨i, d, hi, hd⟩
    exact ⟨σ i, d, by rw [hσ, hi], hd⟩

/-- The same nodes stand below the children of two classes, one of which has the children of the
other one in another order. -/
theorem at?_permuted (hb : b ∈ root.visits) (hb' : b' ∈ root'.visits)
    (hσ : ∀ i, b'.node.children[σ i]? = b.node.children[i]?) (i : Nat) (q : List Nat) :
    root'.at? (b'.path ++ σ i :: q) = root.at? (b.path ++ i :: q) := by
  rw [Node.at?_append, Node.at?_append, (Node.mem_visits_iff.1 hb).1, (Node.mem_visits_iff.1 hb').1]
  show b'.node.at? (σ i :: q) = b.node.at? (i :: q)
  rw [Node.at?, Node.at?, hσ]

/-- A node that a class and the permuted class have at corresponding positions belongs to both
classes or to none of them. -/
theorem class?_permuted (hb : b ∈ root.visits) (hb' : b' ∈ root'.visits)
    (hclass : b.node.kind = .classDecl) (hclass' : b'.node.kind = .classDecl)
    (hσ : ∀ i, b'.node.children[σ i]? = b.node.children[i]?) (hv : v ∈ root.visits)
    (hv' : v' ∈ root'.visits) (hpath : v.path = b.path ++ i :: q)
    (hpath' : v'.path = b'.path ++ σ i :: q) (u u' : SourceUnit) :
    (v'.site u').class? = some b'.node ↔ (v.site u).class? = some b.node := by
  obtain ⟨r, c, hi, -, hanc⟩ := Visit.exists_child_of_path hb hv hpath
  obtain ⟨r', c', hi', -, hanc'⟩ := Visit.exists_child_of_path hb' hv' hpath'
  rw [Visit.class?_eq_iff hclass hi hanc, Visit.class?_eq_iff hclass' hi' hanc']
  rw [hσ, hi] at hi'
  obtain ⟨-, rfl⟩ := Prod.mk.inj (Option.some.inj hi')
  rfl

/-- A node of a class has the report that it has in the permuted class. -/
theorem report_permuted (hb : b ∈ root.visits) (hb' : b' ∈ root'.visits)
    (hclass : b.node.kind = .classDecl) (hclass' : b'.node.kind = .classDecl)
    (hσ : ∀ i, b'.node.children[σ i]? = b.node.children[i]?) (hv : v ∈ root.visits)
    (hv' : v' ∈ root'.visits) (hpath : v.path = b.path ++ i :: q)
    (hpath' : v'.path = b'.path ++ σ i :: q) {u u' : SourceUnit} (hfile : u'.path = u.path)
    (howner : (v.site u).class? = some b.node) (n : Node) :
    report (v'.site u') n = report (v.site u) n := by
  have howner' : (v'.site u').class? = some b'.node :=
    (class?_permuted hb hb' hclass hclass' hσ hv hv' hpath hpath' u u').2 howner
  have hfile' : (v'.site u').file = (v.site u).file := hfile
  refine report_of_same_members hfile' howner howner' (hasField_congr hσ) (fun m => ?_) n
  rw [mem_otherMembers_site_iff hb hclass hv hpath howner,
    mem_otherMembers_site_iff hb' hclass' hv' hpath' howner']
  constructor
  · rintro ⟨j, hj, hother⟩
    refine ⟨σ.symm j, by rw [← hσ, Equiv.apply_symm_apply, hj], fun h => hother ⟨h.1, ?_⟩⟩
    rw [← h.2, Equiv.apply_symm_apply]
  · rintro ⟨j, hj, hother⟩
    exact ⟨σ j, by rw [hσ, hj], fun h => hother ⟨h.1, σ.injective h.2⟩⟩

end Permuted

end Rules.OverSynchronization

namespace Engine

open Rules.OverSynchronization

/-- **The lock rule is symmetric and does not look at the order of members.** In a tree that is
walked to its end, the findings of the rule come visit by visit. Of two locked methods at different
positions of a class that touch a common field of the class, neither is reported. If in another tree
of the file a class has the members of `b` in another order, then the nodes below the two classes
are the same at corresponding positions and belong to the two classes alike, and each node that
belongs to them is reported alike. -/
theorem locks_of_isComplete (s : Settings) {e : Engine}
    (he : Registry.ofSettings s = .ok e.registry) {u : SourceUnit} {root : Node}
    (hu : u.tree = .ok root) {t : Interrupts} (ht : (e.analyze u t).isComplete) {b : Visit}
    (hb : b ∈ root.visits) (hclass : b.node.kind = .classDecl) :
    (e.analyze u t).findings.filter (·.ruleId == rule.id) =
      root.visits.flatMap (e.ruleFindingsAt rule.id u) ∧
    (∀ v ∈ root.visits, ∀ w ∈ root.visits, ∀ i j, v.path = b.path ++ [i] → w.path = b.path ++ [j] →
      i ≠ j → IsLockedMember b.node i v.node → IsLockedMember b.node j w.node →
      ∀ f, HasField b.node f → Touches v.node f → Touches w.node f →
      e.ruleFindingsAt rule.id u v = [] ∧ e.ruleFindingsAt rule.id u w = []) ∧
    ∀ (root' : Node), ∀ b' ∈ root'.visits, ∀ σ : Equiv.Perm ℕ, b'.node.kind = .classDecl →
      (∀ i, b'.node.children[σ i]? = b.node.children[i]?) →
      let u' : SourceUnit := { u with tree := .ok root' }
      (∀ i q, root'.at? (b'.path ++ σ i :: q) = root.at? (b.path ++ i :: q)) ∧
      ∀ v ∈ root.visits, ∀ v' ∈ root'.visits, ∀ i q, v.path = b.path ++ i :: q →
        v'.path = b'.path ++ σ i :: q →
        v'.node = v.node ∧
        ((v'.site u').class? = some b'.node ↔ (v.site u).class? = some b.node) ∧
        ((v.site u).class? = some b.node →
          e.ruleFindingsAt rule.id u' v' = e.ruleFindingsAt rule.id u v) := by
  have hmem : ∀ c, .reporting rule [.method] report ∈ Registry.detectorsWith s.rules c := by
    simp [Registry.detectorsWith, detector]
  have hfound := ruleFindingsAt_eq he hmem (by decide)
  refine ⟨filter_findings_of_isComplete hu ht rule.id, ?_, ?_⟩
  · intro v hv w hw i j hi hj hij hvm hwm f hf hvf hwf
    rw [hfound, hfound, report_of_shared hb hclass hv hi hij.symm hwm hf hvf hwf,
      report_of_shared hb hclass hw hj hij hvm hf hwf hvf]
    simp
  · intro root' b' hb' σ hclass' hσ u'
    refine ⟨at?_permuted hb hb' hσ, ?_⟩
    intro v hv v' hv' i q hpath hpath'
    have hnode : v'.node = v.node := by
      have hat := at?_permuted hb hb' hσ i q
      rw [← hpath, ← hpath', (Node.mem_visits_iff.1 hv).1, (Node.mem_visits_iff.1 hv').1] at hat
      exact Option.some.inj hat
    refine ⟨hnode, class?_permuted hb hb' hclass hclass' hσ hv hv' hpath hpath' u u', ?_⟩
    intro howner
    have hreport : report (v'.site u') v.node = report (v.site u) v.node :=
      report_permuted hb hb' hclass hclass' hσ hv hv' hpath hpath' rfl howner v.node
    rw [hfound, hfound, hnode, hreport]
    rfl

/-- The expression `this.<field>`. -/
def ofThis (field : String) : Node :=
  ({ kind := .fieldAccess, span := ⟨2, 1, 2, 9⟩, name := some field } : Node).push .receiver
    (.ident "this" ⟨2, 1, 2, 5⟩)

/-- A synchronized method that uses a field of `this`. -/
def lockedUse (name field : String) : Node :=
  ({ kind := .method, span := ⟨2, 1, 2, 9⟩, name := some name, modifiers := ["synchronized"] } :
    Node).push .body (ofThis field)

def fieldOf (name : String) : Node := { kind := .field, span := ⟨1, 1, 1, 9⟩, name := some name }

/-- A class of the members, in their order. -/
def classOf (members : List Node) : Node :=
  (Node.leaf .classDecl ⟨1, 1, 2, 9⟩).pushAll .member members

/-- Two equal methods use `count`, and one method uses `label`. -/
def counterClass : Node :=
  classOf [fieldOf "count", lockedUse "next" "count", lockedUse "next" "count", fieldOf "label",
    lockedUse "rename" "label"]

/-- The class with the last method before the others. -/
def permutedClass : Node :=
  classOf [fieldOf "count", lockedUse "rename" "label", lockedUse "next" "count", fieldOf "label",
    lockedUse "next" "count"]

def counterUnit : SourceUnit := .parsed "Counter.java" "fields 12\nmethods 2" counterClass

theorem touches_lockedUse (name field : String) : Touches (lockedUse name field) field := by
  have hmem : ofThis field ∈ (lockedUse name field).descendants := by
    rw [Node.descendants, Walk.drain_eq_flatMap]
    exact List.mem_cons_self
  have hreceiver : (ofThis field).child? .receiver = some (.ident "this" ⟨2, 1, 2, 5⟩) := rfl
  exact .ofThis hmem rfl rfl hreceiver (by decide)

theorem permutedClass_children (i : Nat) :
    permutedClass.children[Equiv.swap 1 4 i]? = counterClass.children[i]? := by
  match i with
  | 0 | 1 | 2 | 3 | 4 => rfl
  | i + 5 =>
    rw [Equiv.swap_apply_of_ne_of_ne (by omega) (by omega)]
    rfl

/-- The two equal methods are left alone, and the third one is reported wherever it stands. -/
theorem locks_of_isComplete_counter :
    let s : Settings := { rules := Registry.plainRules }
    let e : Engine := ⟨.plain, true⟩
    let u' : SourceUnit := { counterUnit with tree := .ok permutedClass }
    Registry.ofSettings s = .ok e.registry ∧
    e.ruleFindingsAt rule.id counterUnit ⟨[1], [counterClass], lockedUse "next" "count"⟩ = [] ∧
    e.ruleFindingsAt rule.id counterUnit ⟨[2], [counterClass], lockedUse "next" "count"⟩ = [] ∧
    (e.ruleFindingsAt rule.id u' ⟨[1], [permutedClass], lockedUse "rename" "label"⟩).map
      (·.message) =
        ["Method 'rename' locks the whole body but its fields (label) are not guarded by any " ++
          "other synchronized region"] := by
  intro s e u'
  have hcomplete : (e.analyze counterUnit .never).isComplete := by
    rw [e.analyze_never (u := counterUnit) rfl]
    rfl
  have hroot : ∀ n : Node, ⟨[], [], n⟩ ∈ n.visits := fun n => Node.mem_visits_iff.2 ⟨rfl, rfl⟩
  have hfirst : ⟨[1], [counterClass], lockedUse "next" "count"⟩ ∈ counterClass.visits :=
    Node.mem_visits_iff.2 ⟨rfl, rfl⟩
  have hsecond : ⟨[2], [counterClass], lockedUse "next" "count"⟩ ∈ counterClass.visits :=
    Node.mem_visits_iff.2 ⟨rfl, rfl⟩
  have hthird : ⟨[4], [counterClass], lockedUse "rename" "label"⟩ ∈ counterClass.visits :=
    Node.mem_visits_iff.2 ⟨rfl, rfl⟩
  have hmoved : ⟨[1], [permutedClass], lockedUse "rename" "label"⟩ ∈ permutedClass.visits :=
    Node.mem_visits_iff.2 ⟨rfl, rfl⟩
  obtain ⟨-, hshared, hpermuted⟩ := locks_of_isComplete s (e := e) (u := counterUnit) rfl rfl
    hcomplete (hroot counterClass) rfl
  obtain ⟨hv, hw⟩ := hshared _ hfirst _ hsecond 1 2 rfl rfl (by decide)
    ⟨rfl, rfl, .inl (by decide)⟩ ⟨rfl, rfl, .inl (by decide)⟩ "count" ⟨0, _, rfl, rfl, rfl⟩
    (touches_lockedUse _ _) (touches_lockedUse _ _)
  obtain ⟨-, hsame⟩ := hpermuted permutedClass _ (hroot permutedClass) (Equiv.swap 1 4) rfl
    permutedClass_children
  obtain ⟨-, -, hreported⟩ := hsame _ hthird _ hmoved 4 [] rfl rfl
  refine ⟨rfl, hv, hw, ?_⟩
  rw [hreported rfl]
  decide +kernel

end Engine

end TreeLint
