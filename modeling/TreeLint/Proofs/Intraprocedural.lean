import TreeLint.Proofs.Ownership
import TreeLint.Proofs.Replacement

/-!
# Rules look no further than a callable

A detector is given the ancestors of a node, and with them the whole tree. The built-in detectors
look at less. When a method, constructor or function is replaced in a tree, nothing changes in what
is found outside it, except for the two rules that compare the members of a class with each other.

The sites outside are *alike* in both trees: the ancestors are equal or differ in members of a
program or class that are no fields. What the detectors ask a site is the same for sites that are
alike:

* the callable around the node, and the loops and declarations in its scope, are no containers, so
  they are equal;
* of the class around the node they read the fields, which are equal;
* the statements after the node they read in a block, which is no container.

So each detector gives the same answer at alike sites (`isIntraprocedural_of_mem`). The containers
on the way to the replaced callable do differ, but no built-in detector is asked about them.
-/

namespace TreeLint

/-! ## Searches among ancestors -/

section Searches

variable {p : Node → Bool} {ns ns' : List Node}

theorem filter_eq_of_alike (hp : ∀ n : Node, n.IsContainer → p n = false)
    (h : List.Forall₂ Node.Alike ns ns') : ns'.filter p = ns.filter p := by
  induction h with
  | nil => rfl
  | @cons n n' ns ns' hn _ ih =>
    rcases hn.eq_or_isContainer with rfl | ⟨hc, hc'⟩
    · rw [List.filter_cons, List.filter_cons, ih]
    · rw [List.filter_cons_of_neg (by simp [hp n' hc']),
        List.filter_cons_of_neg (by simp [hp n hc]), ih]

theorem any_eq_of_alike (hp : ∀ n : Node, n.IsContainer → p n = false)
    (h : List.Forall₂ Node.Alike ns ns') : ns'.any p = ns.any p := by
  have hany : ∀ l : List Node, l.any p = (l.filter p).any p := by
    intro l
    simp [List.any_filter]
  rw [hany ns', hany ns, filter_eq_of_alike hp h]

theorem rel_find?_kind (k : Kind → Bool) (h : List.Forall₂ Node.Alike ns ns') :
    Option.Rel Node.Alike (ns.find? (k ·.kind)) (ns'.find? (k ·.kind)) := by
  induction h with
  | nil => exact .none
  | cons hn _ ih =>
    rw [List.find?_cons, List.find?_cons, hn.kind_eq]
    split
    · exact .some hn
    · exact ih

theorem forall₂_takeWhile_kind (k : Kind → Bool) (h : List.Forall₂ Node.Alike ns ns') :
    List.Forall₂ Node.Alike (ns.takeWhile (k ·.kind)) (ns'.takeWhile (k ·.kind)) := by
  induction h with
  | nil => exact .nil
  | cons hn _ ih =>
    rw [List.takeWhile_cons, List.takeWhile_cons, hn.kind_eq]
    split
    · exact .cons hn ih
    · exact .nil

end Searches

/-! ## Sites that are alike -/

namespace Site

/-- Sites in two trees of one file, at one position, under ancestors that are alike. -/
structure Alike (s s' : Site) : Prop where
  path : s'.unit.path = s.unit.path
  index : s'.index = s.index
  ancestors : List.Forall₂ Node.Alike s.ancestors s'.ancestors

namespace Alike

variable {s s' : Site}

theorem language?_eq (h : Alike s s') : s'.language? = s.language? := by
  rw [language?, language?, SourceUnit.language?, SourceUnit.language?, h.path]

theorem findingAt_eq (h : Alike s s') (rule : Rule) (span : Span) (message : String) :
    s'.findingAt rule span message = s.findingAt rule span message := by
  rw [findingAt, findingAt, file, file, h.path]

theorem finding_eq (h : Alike s s') (rule : Rule) (n : Node) (message : String) :
    s'.finding rule n message = s.finding rule n message :=
  h.findingAt_eq rule n.span message

theorem callable?_eq (h : Alike s s') : s'.callable? = s.callable? := by
  have hcallable : ∀ n : Node, n.IsContainer → n.kind.isCallable = false := by
    rintro n (hk | hk) <;> simp [hk, Kind.isCallable]
  rw [callable?, callable?, ← List.head?_filter, ← List.head?_filter,
    filter_eq_of_alike hcallable h.ancestors]

theorem ancestorsInScope (h : Alike s s') :
    List.Forall₂ Node.Alike s.ancestorsInScope s'.ancestorsInScope :=
  forall₂_takeWhile_kind (!·.isScopeBoundary) h.ancestors

theorem declaredType?_eq (h : Alike s s') (scope : Option Node) (x : String) :
    Node.declaredType? scope s'.class? x = Node.declaredType? scope s.class? x := by
  have hfield : ∀ c : Node,
      ((c.childrenIn .member).find? fun m => m.kind == .field && m.nameText == x) =
        c.fields.find? (·.nameText == x) := by
    intro c
    simp only [Node.fields, List.find?_filter, Bool.decide_and, Bool.decide_eq_true]
  have hclass : Option.Rel Node.Alike s.class? s'.class? :=
    rel_find?_kind ([Kind.classDecl].contains ·) h.ancestors
  unfold Node.declaredType?
  simp only [hfield]
  generalize s.class? = c at hclass
  generalize s'.class? = c' at hclass
  cases hclass with
  | none => rfl
  | some hc => simp only [Option.bind_some, hc.fields_eq]

/-- The parents are equal, or neither is a block. -/
theorem parent?_cases (h : Alike s s') :
    s'.parent? = s.parent? ∨
      ∃ q q', s.parent? = some q ∧ s'.parent? = some q' ∧ q.kind ≠ .block ∧ q'.kind ≠ .block := by
  have hblock : ∀ n : Node, n.IsContainer → n.kind ≠ .block := by
    rintro n (hk | hk) <;> simp [hk]
  have hancestors := h.ancestors
  unfold parent?
  generalize s.ancestors = ns, s'.ancestors = ns' at hancestors
  cases hancestors with
  | nil => exact .inl rfl
  | @cons q q' ns ns' hq _ =>
    rcases hq.eq_or_isContainer with rfl | ⟨hc, hc'⟩
    · exact .inl rfl
    · exact .inr ⟨q, q', rfl, rfl, hblock q hc, hblock q' hc'⟩

theorem role?_eq (h : Alike s s') (hparent : s'.parent? = s.parent?) : s'.role? = s.role? := by
  rw [role?, role?, hparent, h.index]

theorem later_eq (h : Alike s s') (hparent : s'.parent? = s.parent?) : s'.later = s.later := by
  rw [later, later, hparent, h.role?_eq hparent, h.index]

end Alike

end Site

theorem Visit.Alike.site {v v' : Visit} (h : Visit.Alike v v') {u u' : SourceUnit}
    (hpath : u'.path = u.path) : Site.Alike (v.site u) (v'.site u') where
  path := hpath
  index := by rw [Visit.site, Visit.site, Visit.index, Visit.index, h.path]
  ancestors := h.ancestors

/-! ## Rule by rule -/

namespace Rules

variable {s s' : Site} (h : Site.Alike s s') (n : Node)

include h

theorem SqlInjection.report_congr (sinks : List String) : report sinks s' n = report sinks s n := by
  simp only [report, h.callable?_eq, h.finding_eq]

theorem InsecureDeserialization.report_congr (sinks : List String) :
    report sinks s' n = report sinks s n := by
  simp only [report, h.callable?_eq, h.finding_eq]

theorem HardcodedCredential.slotFinding?_congr (c : Setup) (callee : String) :
    slotFinding? c s' callee = slotFinding? c s callee := by
  funext arg
  simp only [slotFinding?, h.callable?_eq, h.finding_eq]

theorem HardcodedCredential.report_congr (c : Setup) : report c s' n = report c s n := by
  simp only [report, reportBinding, reportSlots, h.finding_eq, slotFinding?_congr h]

theorem DangerousEval.report_congr : report s' n = report s n := by
  simp only [report, h.finding_eq]

theorem ResourceLeak.evaluate_congr (c : Setup) : evaluate c s' n = evaluate c s n := by
  rcases h.parent?_cases with hparent | ⟨q, q', hq, hq', hblock, hblock'⟩
  · simp only [evaluate, hparent, h.role?_eq hparent, h.later_eq hparent, h.finding_eq]
  · unfold evaluate
    rw [hq, hq']
    cases (n.child? .value).bind c.acquisition? <;> simp [hblock, hblock']

theorem StringConcatInLoop.report_congr (r : RuleSettings) : report r s' n = report r s n := by
  have hloop : ∀ n : Node, n.IsContainer → n.kind.isLoop = false := by
    rintro n (hk | hk) <;> simp [hk, Kind.isLoop]
  have hstring : isString r.stringTypeNames s' = isString r.stringTypeNames s := by
    funext x operands
    simp only [isString, h.callable?_eq, h.declaredType?_eq]
  simp only [report, filter_eq_of_alike hloop h.ancestorsInScope, hstring, h.finding_eq]

theorem QuadraticCandidate.report_congr : report s' n = report s n := by
  have hloop : ∀ (collection : String) (n : Node), n.IsContainer →
      isLoopOver collection n = false := by
    rintro collection n (hk | hk) <;> simp [isLoopOver, hk, Kind.isLoop]
  simp only [report, any_eq_of_alike (hloop _) h.ancestorsInScope, h.finding_eq]

theorem TooManyParameters.report_congr (limit : Nat) : report limit s' n = report limit s n := by
  have hcount : parameterCount s' n = parameterCount s n := by
    simp only [parameterCount, isImplicitReceiver, h.language?_eq]
  rw [report, report, hcount]
  simp only [h.finding_eq]

theorem CyclomaticComplexity.report_congr (limit : Nat) :
    report limit s' n = report limit s n := by
  simp only [report, h.finding_eq]

theorem FunctionTooLong.report_congr (limit : Nat) : report limit s' n = report limit s n := by
  simp only [report, h.finding_eq]

theorem UnusedBinding.report_congr (ignoreSideEffects : Bool) :
    report ignoreSideEffects s' n = report ignoreSideEffects s n := by
  rcases h.parent?_cases with hparent | ⟨q, q', hq, hq', hblock, hblock'⟩
  · rw [report, report, hparent, Site.laterStatements, Site.laterStatements, h.later_eq hparent]
    simp only [h.finding_eq]
  · simp [report, hq, hq', hblock, hblock']

/-- The node around a number and its sign may be a container, but then it is no operator. -/
theorem MagicNumber.signed_congr (x : Float) :
    (signed s' n x).1 = (signed s n x).1 ∧ (signed s' n x).2.1 = (signed s n x).2.1 ∧
      (signed s' n x).2.2.filter (·.kind == .binary) =
        (signed s n x).2.2.filter (·.kind == .binary) := by
  have hbinary : ∀ n : Node, n.IsContainer → n.kind ≠ .binary := by
    rintro n (hk | hk) <;> simp [hk]
  have hunary : ∀ n : Node, n.IsContainer → isNegation n = false := by
    rintro n (hk | hk) <;> simp [isNegation, hk]
  have hancestors := h.ancestors
  unfold signed
  generalize s.ancestors = ns, s'.ancestors = ns' at hancestors
  cases hancestors with
  | nil => exact ⟨rfl, rfl, rfl⟩
  | @cons q q' ns ns' hq hns =>
    rcases hq.eq_or_isContainer with rfl | ⟨hc, hc'⟩
    · by_cases hneg : isNegation q'
      · simp only [hneg, if_true, true_and]
        cases hns with
        | nil => rfl
        | @cons a a' _ _ ha _ =>
          rcases ha.eq_or_isContainer with rfl | ⟨hc, hc'⟩
          · rfl
          · simp [Option.filter, hbinary a hc, hbinary a' hc']
      · simp only [hneg]
        exact ⟨rfl, rfl, rfl⟩
    · simp [hunary q hc, hunary q' hc', Option.filter, hbinary q hc, hbinary q' hc']

theorem MagicNumber.report_congr (allowed : List Float) :
    report allowed s' n = report allowed s n := by
  have hconstant : ∀ n : Node, n.IsContainer → declaresConstant n = false := by
    rintro n (hk | hk) <;> simp [declaresConstant, hk]
  unfold report
  cases n.numberValue? with
  | none => rfl
  | some x =>
    obtain ⟨hx, hspan, haround⟩ := signed_congr h n x
    dsimp only
    rw [hx, hspan, haround]
    simp only [any_eq_of_alike hconstant h.ancestorsInScope, h.findingAt_eq]

theorem BroadExceptionCatch.report_congr (extra : List String) :
    report extra s' n = report extra s n := by
  simp only [report, broadType?, h.language?_eq, h.finding_eq]

theorem DebugOutput.report_congr : report s' n = report s n := by
  simp only [report, output?, h.language?_eq, h.finding_eq]

end Rules

/-! ## The built-in detectors -/

namespace Detector

/-- The detector gives the same answer at sites that are alike. -/
def IsIntraprocedural (d : Detector) : Prop :=
  ∀ ⦃s s' : Site⦄, Site.Alike s s' → ∀ n, d.evaluate s' n = d.evaluate s n

theorem IsIntraprocedural.reporting {rule : Rule} {kinds : List Kind}
    {report : Site → Node → List Finding}
    (h : ∀ ⦃s s' : Site⦄, Site.Alike s s' → ∀ n, report s' n = report s n) :
    (Detector.reporting rule kinds report).IsIntraprocedural :=
  fun _ _ hs n => congrArg Outcome.found (h hs n)

theorem findings_eq_of_alike {d : Detector} {s s' : Site} (hs : Site.Alike s s') (n : Node)
    (o : Outcome) : d.findings s' n o = d.findings s n o := by
  cases o <;> simp only [findings, faultFinding, hs.finding_eq]

end Detector

namespace Registry

/-- The rules that compare the members of a class with each other. -/
def classWideIds : List String :=
  [Rules.OverSynchronization.rule.id, Rules.UnboundedCacheGrowth.rule.id]

/-- Each built-in detector but the two looks no further than a callable. -/
theorem isIntraprocedural_of_mem {r : RuleSettings} {ds : List Detector}
    (h : standardDetectors r = .ok ds) {d : Detector} (hd : d ∈ ds) (hid : d.id ∉ classWideIds) :
    d.IsIntraprocedural := by
  obtain ⟨c, rfl⟩ := standardDetectors_eq_ok h
  simp only [detectorsWith, List.mem_cons, List.not_mem_nil, or_false] at hd
  rcases hd with rfl | rfl | rfl | rfl | rfl | rfl | rfl | rfl | rfl | rfl | rfl | rfl | rfl |
    rfl | rfl | rfl
  · exact .reporting fun _ _ hs n => Rules.SqlInjection.report_congr hs n _
  · exact .reporting fun _ _ hs n => Rules.InsecureDeserialization.report_congr hs n _
  · exact .reporting fun _ _ hs n => Rules.HardcodedCredential.report_congr hs n _
  · exact .reporting fun _ _ hs n => Rules.DangerousEval.report_congr hs n
  · exact fun _ _ hs n => Rules.ResourceLeak.evaluate_congr hs n _
  · exact .reporting fun _ _ hs n => Rules.StringConcatInLoop.report_congr hs n _
  · exact .reporting fun _ _ hs n => Rules.QuadraticCandidate.report_congr hs n
  · exact absurd (List.mem_cons_self ..) hid
  · exact absurd (List.mem_cons_of_mem _ (List.mem_cons_self ..)) hid
  · exact .reporting fun _ _ hs n => Rules.TooManyParameters.report_congr hs n _
  · exact .reporting fun _ _ hs n => Rules.CyclomaticComplexity.report_congr hs n _
  · exact .reporting fun _ _ hs n => Rules.FunctionTooLong.report_congr hs n _
  · exact .reporting fun _ _ hs n => Rules.UnusedBinding.report_congr hs n _
  · exact .reporting fun _ _ hs n => Rules.MagicNumber.report_congr hs n _
  · exact .reporting fun _ _ hs n => Rules.BroadExceptionCatch.report_congr hs n _
  · exact .reporting fun _ _ hs n => Rules.DebugOutput.report_congr hs n

/-- Whether the finding is of one of these rules. -/
def isClassWide (f : Finding) : Bool := classWideIds.contains f.ruleId

/-- At sites that are alike, a built-in detector gives the same findings, those of the two rules
left out. -/
theorem IsStandard.filter_findings_eq {g : Registry} (hg : g.IsStandard) {d : Detector}
    (hd : d ∈ g.detectors) {s s' : Site} (hs : Site.Alike s s') (n : Node) :
    (d.findings s' n (d.evaluate s' n)).filter (!isClassWide ·) =
      (d.findings s n (d.evaluate s n)).filter (!isClassWide ·) := by
  obtain ⟨r, ds, hds, hmem⟩ := hg.exists_mem hd
  by_cases hid : d.id ∈ classWideIds
  · -- Nothing is left of what a detector of the two rules finds, and neither of them can fail.
    have hleak : Rules.ResourceLeak.rule.id ∉ classWideIds := by decide
    have hnone : ∀ s : Site, (d.findings s n (d.evaluate s n)).filter (!isClassWide ·) = [] := by
      intro s
      refine List.filter_eq_nil_iff.2 fun f hf => ?_
      obtain ⟨-, hown | ⟨-, rfl⟩⟩ := (isBuiltIn_of_mem hds hmem).own_findings s n hf
      · simp [isClassWide, hown, hid]
      · exact absurd hid hleak
    rw [hnone s, hnone s']
  · rw [isIntraprocedural_of_mem hds hmem hid hs n, Detector.findings_eq_of_alike hs]

/-- No built-in detector is asked about programs and classes. -/
theorem IsStandard.detectorsFor_container {g : Registry} (hg : g.IsStandard) {n : Node}
    (hn : n.IsContainer) : g.detectorsFor n.kind = [] := by
  rw [detectorsFor_eq]
  refine List.filter_eq_nil_iff.2 fun d hd => ?_
  obtain ⟨r, ds, hds, hmem⟩ := hg.exists_mem hd
  have hall : ds.all fun d => !d.kinds.contains .program && !d.kinds.contains .classDecl := by
    obtain ⟨c, rfl⟩ := standardDetectors_eq_ok hds
    rfl
  have hkinds := List.all_eq_true.1 hall d hmem
  simp only [Bool.and_eq_true, Bool.not_eq_true'] at hkinds
  rcases hn with hk | hk
  · rw [hk, hkinds.1]
    exact Bool.false_ne_true
  · rw [hk, hkinds.2]
    exact Bool.false_ne_true

end Registry

/-! ## The analysis -/

namespace Engine

/-- Of a unit, only its text goes into the last touch of a finding. -/
theorem finalize_congr (e : Engine) {u u' : SourceUnit} (htext : u'.text = u.text) :
    e.finalize u' = e.finalize u := by
  obtain ⟨path, text, tree⟩ := u
  obtain ⟨path', text', tree'⟩ := u'
  obtain rfl : text' = text := htext
  rfl

theorem filter_map_finalize (e : Engine) (u : SourceUnit) (fs : List Finding) :
    (fs.map (e.finalize u)).filter (!Registry.isClassWide ·) =
      (fs.filter (!Registry.isClassWide ·)).map (e.finalize u) := by
  rw [List.filter_map]
  simp only [Function.comp_def, Registry.isClassWide, ruleId_finalize]

/-- At visits that are alike, the same is found, the two rules left out. -/
theorem filter_findingsAt_eq {e : Engine} (he : e.registry.IsStandard) {u u' : SourceUnit}
    (hpath : u'.path = u.path) (htext : u'.text = u.text) {v v' : Visit} (hv : Visit.Alike v v') :
    (e.findingsAt (v'.site u') v'.node).filter (!Registry.isClassWide ·) =
      (e.findingsAt (v.site u) v.node).filter (!Registry.isClassWide ·) := by
  -- A node that is not the same in both trees is a container, about which nobody is asked.
  rcases hv.node.eq_or_isContainer with hnode | ⟨hc, hc'⟩
  · rw [findingsAt, findingsAt, hnode, List.filter_flatMap, List.filter_flatMap]
    refine List.flatMap_congr fun d hd => ?_
    rw [filter_map_finalize, filter_map_finalize,
      he.filter_findings_eq (Registry.mem_detectorsFor_iff.1 hd).1 (hv.site hpath)]
    exact congrArg (List.map · _) (e.finalize_congr htext)
  · rw [findingsAt, findingsAt, he.detectorsFor_container hc, he.detectorsFor_container hc']
    rfl

/-- The findings at the nodes that are neither at a position nor below it. -/
def findingsOutside (e : Engine) (u : SourceUnit) (root : Node) (path : List Nat) : List Finding :=
  (root.visits.filter (·.isOutside path)).flatMap fun v => e.findingsAt (v.site u) v.node

theorem findings_of_isComplete (e : Engine) {u : SourceUnit} {root : Node} (hu : u.tree = .ok root)
    {t : Interrupts} (h : (e.analyze u t).isComplete) :
    (e.analyze u t).findings = root.visits.flatMap fun v => e.findingsAt (v.site u) v.node := by
  rw [e.analyze_of_isComplete hu h, reportOn]

/-- **The built-in rules look no further than a callable.** Let a method, constructor or function
with only programs and classes above it be replaced by another one in the tree of a file. Both
analyses report the findings of all nodes of their tree. Those at the nodes outside, without the
findings of the two rules that look at a whole class, are the same in both, in the same order. -/
theorem analyze_intraprocedural {e : Engine} (he : e.registry.IsStandard) {u u' : SourceUnit}
    (hpath : u'.path = u.path) (htext : u'.text = u.text) {root m m' : Node} {path : List Nat}
    (hu : u.tree = .ok root) (hu' : u'.tree = .ok (root.replaceAt path m'))
    (hat : root.at? path = some m) (hm : m.isMeasured) (hm' : m'.isMeasured)
    (habove : ∀ a ∈ root.ancestorsAt path, a.IsContainer) {t t' : Interrupts}
    (ht : (e.analyze u t).isComplete) (ht' : (e.analyze u' t').isComplete) :
    let root' := root.replaceAt path m'
    (e.analyze u t).findings = root.visits.flatMap (fun v => e.findingsAt (v.site u) v.node) ∧
    (e.analyze u' t').findings = root'.visits.flatMap (fun v => e.findingsAt (v.site u') v.node) ∧
    (e.findingsOutside u' root' path).filter (!Registry.isClassWide ·) =
      (e.findingsOutside u root path).filter (!Registry.isClassWide ·) := by
  intro root'
  refine ⟨e.findings_of_isComplete hu ht, e.findings_of_isComplete hu' ht', ?_⟩
  rw [findingsOutside, findingsOutside, List.filter_flatMap, List.filter_flatMap]
  have hvisits := Node.Exchange.forall₂_visits_outside ⟨hat, hm, hm', habove⟩
  rw [eq_comm, ← List.forall₂_eq_eq_eq]
  refine List.rel_flatMap hvisits fun v v' hv => ?_
  rw [filter_findingsAt_eq he hpath htext hv]
  exact List.forall₂_same.2 fun _ _ => rfl

/-- A class with a text and two methods: `join`, which appends to the text in a loop, and one that
is left open. -/
def textClass (other : Node) : Node :=
  let append : Node :=
    { kind := .assignment, span := ⟨4, 1, 4, 2⟩, value := some "+="
      children := [(.target, .ident "text" ⟨4, 1, 4, 2⟩), (.value, .ident "part" ⟨4, 1, 4, 2⟩)] }
  let loop : Node :=
    { kind := .whileLoop, span := ⟨3, 1, 4, 2⟩, children := [(.body, append)] }
  let join : Node :=
    { kind := .method, span := ⟨3, 1, 4, 2⟩, name := some "join", modifiers := ["synchronized"]
      children := [(.body, loop)] }
  { kind := .program, span := ⟨1, 1, 6, 2⟩
    children :=
      [(.statement,
        { kind := .classDecl, span := ⟨1, 1, 6, 2⟩
          children :=
            [(.member, { kind := .field, span := ⟨2, 1, 2, 2⟩, name := some "text"
                         typeName := some "String" }),
              (.member, join), (.member, other)] })] }

/-- A method that shares the text with `join` and locks it too. -/
def sharingMethod : Node :=
  { kind := .method, span := ⟨5, 1, 5, 2⟩, modifiers := ["synchronized"]
    children := [(.body, .ident "text" ⟨5, 1, 5, 2⟩)] }

/-- A constructor with a parameter of the name of the text, but of another type. -/
def hidingConstructor : Node :=
  { kind := .constructor, span := ⟨5, 1, 5, 2⟩
    children := [(.param, { kind := .parameter, name := some "text", typeName := some "int" }),
      (.body, .callOf "eval" ⟨5, 1, 5, 2⟩)] }

def textUnit (other : Node) : SourceUnit := .parsed "a.java" "a\nb\nc\nd\ne\nf" (textClass other)

/-- What `join` does to the text is found with both, by the type of the field. That it locks alone
is found only with the second, by a rule that is left out. -/
theorem analyze_intraprocedural_class :
    let e : Engine := ⟨.plain, true⟩
    let u := textUnit sharingMethod
    let u' := textUnit hidingConstructor
    let root := textClass sharingMethod
    let root' := root.replaceAt [0, 2] hidingConstructor
    e.registry.IsStandard ∧ u'.path = u.path ∧ u'.text = u.text ∧ u.tree = .ok root ∧
    u'.tree = .ok root' ∧ root.at? [0, 2] = some sharingMethod ∧ sharingMethod.isMeasured ∧
    hidingConstructor.isMeasured ∧ (∀ a ∈ root.ancestorsAt [0, 2], a.IsContainer) ∧
    (e.analyze u .never).isComplete ∧ (e.analyze u' .never).isComplete ∧
    (e.findingsOutside u root [0, 2]).map (·.ruleId) = ["performance/string-concat-in-loop"] ∧
    (e.findingsOutside u' root' [0, 2]).map (·.ruleId) =
      ["performance/over-synchronization", "performance/string-concat-in-loop"] ∧
    (e.findingsOutside u' root' [0, 2]).filter (!Registry.isClassWide ·) =
      e.findingsOutside u root [0, 2] := by
  intro e u u' root root'
  have he : e.registry.IsStandard := Registry.isStandard_plain
  have habove : ∀ a ∈ root.ancestorsAt [0, 2], a.IsContainer := by decide +kernel
  have ht : (e.analyze u .never).isComplete := by decide +kernel
  have ht' : (e.analyze u' .never).isComplete := by decide +kernel
  have hpath : u'.path = u.path := rfl
  have hu' : u'.tree = .ok (root.replaceAt [0, 2] hidingConstructor) := rfl
  obtain ⟨-, -, hsame⟩ := analyze_intraprocedural he hpath rfl rfl hu' rfl rfl rfl habove ht ht'
  refine ⟨he, hpath, rfl, rfl, hu', rfl, rfl, rfl, habove, ht, ht', by decide +kernel,
    by decide +kernel, ?_⟩
  rw [hsame, List.filter_eq_self]
  decide +kernel

end Engine

end TreeLint
