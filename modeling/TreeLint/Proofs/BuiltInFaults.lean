import TreeLint.Proofs.Faults
import TreeLint.Proofs.Reach
import TreeLint.Proofs.RuleFindings

/-!
# When a built-in detector fails

A detector may fail on a node, and the failure goes into the report as a finding. Of the built-in
detectors one can fail, that of resource leaks, and it does so for one reason: a local acquires a
resource as a statement of a block and has no name by which the resource could be followed.

**Theorem (`faults_of_isComplete`).** In a tree that is walked to its end, the failures are one for
each such local, in the order of the tree, unless the rule is switched off. Everywhere else each
built-in detector gives an answer, whatever the nodes lack.

The detector asks for the acquisition first, then for the block and for the name last. So a local
without a name is passed over in silence if it acquires nothing, or if it stands in the head of a
try statement. `Fails` has all the answers that lead to the failure, and there are only two things
to prove about them: with these answers the detector fails, and with any others it does not.
-/

namespace TreeLint

/-! ## Locals without a name -/

namespace Rules.ResourceLeak

variable {c : Setup} {s : Site} {n init : Node}

/-- The expression acquires a resource: it calls an acquirer, or it constructs a value of a type
that is by its simple name one of resources. -/
def Setup.IsAcquisition (c : Setup) (init : Node) : Prop :=
  (init.kind = .call ∧ init.nameText ∈ c.acquirers) ∨
    (init.kind = .newExpr ∧ ∃ t ∈ init.typeName, simpleType t ∈ c.types)

instance (c : Setup) (init : Node) : Decidable (c.IsAcquisition init) :=
  inferInstanceAs (Decidable (_ ∨ _))

theorem isSome_acquisition?_iff : (c.acquisition? init).isSome ↔ c.IsAcquisition init := by
  unfold Setup.acquisition? Setup.IsAcquisition
  cases hkind : init.kind with
  | call => simp
  | newExpr =>
    cases init.typeName with
    | none => simp
    | some t => by_cases ht : simpleType t ∈ c.types <;> simp [ht]
  | _ => simp

/-- A local acquires a resource as a statement of a block, and has no name. -/
structure IsNameless (c : Setup) (v : Visit) : Prop where
  isLocal : v.node.kind = .localVar
  isStatement : ∃ block ∈ v.ancestors.head?, block.kind = .block ∧
    block.children[v.index]? = some (.statement, v.node)
  nameless : v.node.name = none ∨ v.node.name = some ""
  acquires : ∃ init ∈ v.node.child? .value, c.IsAcquisition init

instance (c : Setup) (v : Visit) : Decidable (IsNameless c v) :=
  decidable_of_iff
    (v.node.kind = .localVar ∧
      (∃ block ∈ v.ancestors.head?, block.kind = .block ∧
        block.children[v.index]? = some (.statement, v.node)) ∧
      (v.node.name = none ∨ v.node.name = some "") ∧
      ∃ init ∈ v.node.child? .value, c.IsAcquisition init)
    ⟨fun ⟨hlocal, hstatement, hname, hacquires⟩ => ⟨hlocal, hstatement, hname, hacquires⟩,
      fun ⟨hlocal, hstatement, hname, hacquires⟩ => ⟨hlocal, hstatement, hname, hacquires⟩⟩

/-- The failure on a local without a name. -/
def namelessError : DetectionError := .fault rule.id "resource binding without a name"

/-- The site of a local asks for a failure. -/
structure Fails (c : Setup) (s : Site) (n : Node) : Prop where
  acquires : ((n.child? .value).bind c.acquisition?).isSome
  block : ∃ p, s.parent? = some p ∧ p.kind = .block
  role : s.role? = some .statement
  nameless : n.nameText = ""

theorem evaluate_of_fails (h : Fails c s n) : evaluate c s n = .failed namelessError := by
  obtain ⟨hacquires, ⟨p, hp, hblock⟩, hrole, hname⟩ := h
  obtain ⟨source, hsource⟩ := Option.isSome_iff_exists.1 hacquires
  simp [evaluate, hsource, hp, hblock, hrole, hname, namelessError]

/-- Where it does not fail it answers, if only that there is nothing to be found. -/
theorem exists_found_of_not_fails (h : ¬Fails c s n) : ∃ fs, evaluate c s n = .found fs := by
  unfold evaluate
  split
  next source p hsource hp =>
    split_ifs with hstatement hname
    · obtain ⟨hblock, hrole⟩ : p.kind = .block ∧ s.role? = some .statement := by
        simpa using hstatement
      exact absurd ⟨by simp [hsource], ⟨p, hp, hblock⟩, hrole, by simpa using hname⟩ h
    · split <;> exact ⟨_, rfl⟩
    · exact ⟨_, rfl⟩
  next => exact ⟨_, rfl⟩

/-- In a tree, the sites of failures are those of the locals without a name. -/
theorem isNameless_iff {root : Node} {v : Visit} (hv : v ∈ root.visits) (c : Setup)
    (u : SourceUnit) :
    IsNameless c v ↔ v.node.kind = .localVar ∧ Fails c (v.site u) v.node := by
  have hname : v.node.nameText = "" ↔ v.node.name = none ∨ v.node.name = some "" := by
    rw [Node.nameText]
    cases v.node.name <;> simp
  have hacquires : ((v.node.child? .value).bind c.acquisition?).isSome ↔
      ∃ init ∈ v.node.child? .value, c.IsAcquisition init := by
    cases v.node.child? .value with
    | none => simp
    | some init => simp [isSome_acquisition?_iff]
  constructor
  · rintro ⟨hlocal, ⟨block, hhead, hkind, hchild⟩, hnameless, hinit⟩
    refine ⟨hlocal, hacquires.2 hinit, ⟨block, hhead, hkind⟩, ?_, hname.2 hnameless⟩
    have hparent : (v.site u).parent? = some block := hhead
    rw [Site.role?, hparent]
    exact congrArg (Option.map (·.1)) hchild
  · rintro ⟨hlocal, hinit, ⟨block, hparent, hkind⟩, hrole, hnameless⟩
    refine ⟨hlocal, ⟨block, hparent, hkind, ?_⟩, hname.1 hnameless, hacquires.1 hinit⟩
    obtain ⟨above, habove⟩ : ∃ above, v.ancestors = block :: above := by
      obtain ⟨above, h⟩ := List.head?_eq_some_iff.1 hparent
      exact ⟨above, h⟩
    obtain ⟨r, hchild⟩ := Visit.exists_role_of_ancestors hv habove
    rw [Site.role?, hparent] at hrole
    obtain rfl : r = .statement := by
      have hr : block.roleAt? v.index = some .statement := hrole
      rw [Node.roleAt?, hchild] at hr
      exact Option.some.inj hr
    exact hchild

end Rules.ResourceLeak

/-! ## Failures of the built-in detectors -/

open Rules.ResourceLeak

namespace Registry

variable {r : RuleSettings} {ds : List Detector} {d : Detector} {root : Node} {v : Visit}

theorem length_standardDetectors (h : standardDetectors r = .ok ds) : ds.length = 16 := by
  obtain ⟨c, rfl⟩ := standardDetectors_eq_ok h
  rfl

theorem leak_mem_detectorsWith (r : RuleSettings) (c : Rules.HardcodedCredential.Setup) :
    detector r ∈ detectorsWith r c := by
  simp [detectorsWith]

theorem evaluate_of_mem (h : standardDetectors r = .ok ds) (hd : d ∈ ds) (hv : v ∈ root.visits)
    (hkind : v.node.kind ∈ d.kinds) (u : SourceUnit) :
    if d.id = rule.id ∧ IsNameless (.ofSettings r) v then
      d.evaluate (v.site u) v.node = .failed namelessError
    else ∃ fs, d.evaluate (v.site u) v.node = .found fs := by
  by_cases hid : d.id = rule.id
  · obtain rfl : d = detector r := by
      have hleak : detector r ∈ ds := by
        obtain ⟨c, rfl⟩ := standardDetectors_eq_ok h
        exact leak_mem_detectorsWith r c
      have hmem : d ∈ ds.filter (·.id == (detector r).id) :=
        List.mem_filter.2 ⟨hd, beq_iff_eq.2 hid⟩
      rw [filter_standardDetectors h hleak] at hmem
      exact List.mem_singleton.1 hmem
    have hlocal : v.node.kind = .localVar := List.mem_singleton.1 hkind
    have hiff := isNameless_iff hv (.ofSettings r) u
    split_ifs with hnameless
    · exact evaluate_of_fails (hiff.1 hnameless.2).2
    · refine exists_found_of_not_fails fun hfails => ?_
      exact hnameless ⟨hid, hiff.2 ⟨hlocal, hfails⟩⟩
  · rw [if_neg fun hboth => hid hboth.1]
    cases isBuiltIn_of_mem h hd with
    | reporting => exact ⟨_, rfl⟩
    | leak => exact absurd rfl hid

end Registry

theorem flatMap_ite_singleton {α β : Type*} (p : α → Prop) [DecidablePred p] (f : α → β)
    (xs : List α) :
    (xs.flatMap fun x => if p x then [f x] else []) = (xs.filter fun x => p x).map f := by
  induction xs with
  | nil => rfl
  | cons x xs ih =>
    rw [List.flatMap_cons, ih]
    by_cases hx : p x <;> simp [hx]

namespace Engine

variable {e : Engine} {s : Settings}

/-- The finding for the failure at a local without a name. -/
def namelessFault (e : Engine) (r : RuleSettings) (u : SourceUnit) (v : Visit) : Finding :=
  e.finalize u ((detector r).faultFinding (v.site u) v.node namelessError)

/-- A finding of a built-in detector for a failure comes from the rule of resource leaks. -/
theorem faultsAt_eq_flatMap (he : Registry.ofSettings s = .ok e.registry) (u : SourceUnit)
    (v : Visit) :
    e.ruleFindingsAt Detector.faultRule.id u v =
      ((e.registry.detectorsFor v.node.kind).filter (·.id == rule.id)).flatMap fun d =>
        (e.contribution u v d).filter (·.ruleId == Detector.faultRule.id) := by
  have hagree : ∀ d ∈ e.registry.detectorsFor v.node.kind,
      ∀ f ∈ (e.contribution u v d).filter (·.ruleId == Detector.faultRule.id),
        true = (d.id == rule.id) := by
    intro d hd f hf
    obtain ⟨hmem, hfault⟩ := List.mem_filter.1 hf
    obtain ⟨raw, hraw, rfl⟩ := List.mem_map.1 hmem
    have hfault' : raw.ruleId = Detector.faultRule.id := by simpa [ruleId_finalize] using hfault
    have hd' := (Registry.mem_detectorsFor_iff.1 hd).1
    obtain ⟨r, hbuiltIn⟩ := Registry.IsStandard.isBuiltIn ⟨s, he⟩ hd'
    obtain ⟨-, hown | ⟨-, rfl⟩⟩ := hbuiltIn.own_findings (v.site u) v.node hraw
    · obtain ⟨ds, hds, -, hg⟩ := Registry.ofSettings_eq_ok_iff.1 he
      have hmem : d ∈ ds := List.mem_of_mem_filter (hg ▸ hd')
      have hid := Registry.id_mem_standardIds hds hmem
      rw [← hown, hfault'] at hid
      exact absurd hid Registry.faultRule_notMem_standardIds
    · rfl
  rw [flatMap_filter_of_agree (q := fun _ => true) hagree, List.filter_true, ← List.filter_flatMap]
  rfl

/-- What that detector adds in failures, at a local. -/
theorem filter_contribution_detector (e : Engine) (r : RuleSettings) {root : Node} {v : Visit}
    (hv : v ∈ root.visits) (hlocal : v.node.kind = .localVar) (u : SourceUnit) :
    (e.contribution u v (detector r)).filter (·.ruleId == Detector.faultRule.id) =
      if IsNameless (.ofSettings r) v then [e.namelessFault r u v] else [] := by
  have hiff := isNameless_iff hv (.ofSettings r) u
  split_ifs with hnameless
  · have hfailed : (detector r).evaluate (v.site u) v.node = .failed namelessError :=
      evaluate_of_fails (hiff.1 hnameless).2
    have herror : (detector r).errorAt? (v.site u) v.node = some namelessError := by
      rw [Detector.errorAt?, hfailed]
      rfl
    have hid : (e.namelessFault r u v).ruleId = Detector.faultRule.id := ruleId_finalize ..
    rw [e.contribution_of_errorAt herror]
    exact List.filter_eq_self.2 fun f hf => by simp [List.mem_singleton.1 hf, ← hid, namelessFault]
  · have hnot : ¬Fails (.ofSettings r) (v.site u) v.node := fun hfails =>
      hnameless (hiff.2 ⟨hlocal, hfails⟩)
    obtain ⟨fs, hfound⟩ := exists_found_of_not_fails hnot
    have hcontribution : e.contribution u v (detector r) = fs.map (e.finalize u) := by
      rw [contribution]
      exact congrArg (fun o => ((detector r).findings _ _ o).map (e.finalize u)) hfound
    have hne : rule.id ≠ Detector.faultRule.id := by decide
    rw [hcontribution]
    refine List.filter_eq_nil_iff.2 fun f hf => ?_
    obtain ⟨raw, hraw, rfl⟩ := List.mem_map.1 hf
    obtain ⟨hown, -⟩ := evaluate_own hfound raw hraw
    simp [ruleId_finalize, hown, hne]

theorem faultsAt_eq (he : Registry.ofSettings s = .ok e.registry) {root : Node} {v : Visit}
    (hv : v ∈ root.visits) (u : SourceUnit) :
    e.ruleFindingsAt Detector.faultRule.id u v =
      if s.analysis.disabledRules.contains rule.id then []
      else if IsNameless (.ofSettings s.rules) v then [e.namelessFault s.rules u v] else [] := by
  have hregistered := Registry.filter_id_of_ofSettings (d := detector s.rules) he
    (Registry.leak_mem_detectorsWith s.rules)
  have hid : (detector s.rules).id = rule.id := rfl
  rw [hid] at hregistered
  rw [faultsAt_eq_flatMap he, Registry.detectorsFor_eq, List.filter_comm, hregistered]
  by_cases hoff : s.analysis.disabledRules.contains rule.id
  · rw [if_pos hoff, if_pos hoff]
    rfl
  · have hkinds : (detector s.rules).kinds = [.localVar] := rfl
    rw [if_neg hoff, if_neg hoff, List.filter_singleton, hkinds]
    by_cases hlocal : v.node.kind = .localVar
    · have hasked : [Kind.localVar].contains v.node.kind = true := by simp [hlocal]
      rw [hasked]
      exact (List.flatMap_singleton _ _).trans
        (filter_contribution_detector e s.rules hv hlocal u)
    · have hasked : [Kind.localVar].contains v.node.kind = false := by simp [hlocal]
      have hnot : ¬IsNameless (.ofSettings s.rules) v := fun h => hlocal h.isLocal
      rw [hasked, if_neg hnot]
      rfl

/-- **The built-in detectors fail on locals without a name and nowhere else.** In a tree that is
walked to its end, the findings for failures are one for each local that acquires a resource as a
statement of a block and has no name, in the order of the tree, at the place of the local; with the
rule of resource leaks switched off there are none. There are sixteen built-in detectors. Asked
about a node, the one of this rule fails if the node is such a local, and in all other cases they
answer. -/
theorem faults_of_isComplete (he : Registry.ofSettings s = .ok e.registry) {u : SourceUnit}
    {root : Node} (hu : u.tree = .ok root) {t : Interrupts} (ht : (e.analyze u t).isComplete) :
    let c := Setup.ofSettings s.rules
    (e.analyze u t).findings.filter (·.ruleId == Detector.faultRule.id) =
      (if s.analysis.disabledRules.contains rule.id then []
      else (root.visits.filter fun v => IsNameless c v).map (e.namelessFault s.rules u)) ∧
    (∀ v, (e.namelessFault s.rules u v).IsFault u v.node
      ((detector s.rules).faultMessage v.node namelessError)) ∧
    ∃ ds, Registry.standardDetectors s.rules = .ok ds ∧ ds.length = 16 ∧
      ∀ d ∈ ds, ∀ v ∈ root.visits, v.node.kind ∈ d.kinds →
        if d.id = rule.id ∧ IsNameless c v then
          d.evaluate (v.site u) v.node = .failed namelessError
        else ∃ fs, d.evaluate (v.site u) v.node = .found fs := by
  intro c
  refine ⟨?_, fun v => ?_, ?_⟩
  · rw [filter_findings_of_isComplete hu ht, List.flatMap_congr fun v hv => faultsAt_eq he hv u]
    by_cases hoff : s.analysis.disabledRules.contains rule.id
    · simp only [if_pos hoff]
      exact List.flatMap_eq_nil_iff.2 fun _ _ => rfl
    · simp only [if_neg hoff]
      exact flatMap_ite_singleton _ _ _
  · exact e.isFault_finalize u (detector s.rules) v namelessError
  · obtain ⟨ds, hds, -, -⟩ := Registry.ofSettings_eq_ok_iff.1 he
    exact ⟨ds, hds, Registry.length_standardDetectors hds,
      fun d hd v hv hkind => Registry.evaluate_of_mem hds hd hv hkind u⟩

/-- A local that is set to a call. -/
def localOf (name : Option String) (callee : String) (line : UInt32) : Node :=
  ({ kind := .localVar, span := ⟨line, 1, line, 9⟩, name } : Node).push .value
    (.callOf callee ⟨line, 5, line, 9⟩)

/-- Two locals without a name that acquire a stream, one that acquires nothing, and one in the head
of a try statement. -/
def namelessTree : Node :=
  (Node.leaf .block ⟨1, 1, 4, 9⟩).pushAll .statement
    [localOf none "openStream" 1, localOf none "parse" 2, localOf (some "") "openStream" 3,
      (Node.leaf .tryStmt ⟨4, 1, 4, 9⟩).push .resource (localOf none "openStream" 4)]

def namelessUnit : SourceUnit :=
  .parsed "streams.java" "open(url)\nparse(in)\nopen(url)\ntry(open)" namelessTree

/-- The detector fails twice. -/
theorem faults_of_isComplete_nameless :
    let s : Settings := { rules := Registry.plainRules }
    let e : Engine := ⟨.plain, true⟩
    Registry.ofSettings s = .ok e.registry ∧ namelessUnit.tree = .ok namelessTree ∧
      (e.analyze namelessUnit .never).isComplete ∧
      ((e.analyze namelessUnit .never).findings.filter
        (·.ruleId == Detector.faultRule.id)).map (·.span) = [⟨1, 1, 1, 9⟩, ⟨3, 1, 3, 9⟩] := by
  intro s e
  have hcomplete : (e.analyze namelessUnit .never).isComplete := by
    rw [e.analyze_never (u := namelessUnit) rfl]
    rfl
  obtain ⟨hfaults, -⟩ := faults_of_isComplete (e := e) (s := s) rfl (u := namelessUnit) rfl
    hcomplete
  refine ⟨rfl, rfl, hcomplete, ?_⟩
  rw [hfaults]
  decide +kernel

end Engine

end TreeLint
