import Mathlib.Tactic.SplitIfs
import TreeLint.Proofs.Bounds
import TreeLint.Proofs.KindIndex
import TreeLint.Proofs.Walk

/-!
# Whose findings they are

A detector may answer whatever it likes; the registry and the engine do not look at the rule or at
the file of a finding. The built-in detectors keep to their own: what each of them finds is a
finding of its own rule, in the file that it was asked about. All of them always answer, but for
the detector of resource leaks, which fails on some nodes.

`isBuiltIn_of_mem` says this once, detector by detector. What a whole analysis reports follows:
every finding of a registry of built-in detectors is in the file of the unit
(`file_of_mem_findings`), and what one detector adds is of its own rule or stands for its failure
(`own_findings`).
-/

namespace TreeLint

/-! ## Findings of a rule -/

/-- The findings are of the rule, and in the file of the site. -/
def OwnFindings (rule : Rule) (s : Site) (fs : List Finding) : Prop :=
  ∀ f ∈ fs, f.ruleId = rule.id ∧ f.file = s.file

section Own

variable {rule : Rule} {s : Site} {fs gs : List Finding}

@[simp] theorem ownFindings_nil : OwnFindings rule s [] := fun _ h => nomatch h

@[simp] theorem ownFindings_singleton {f : Finding} :
    OwnFindings rule s [f] ↔ f.ruleId = rule.id ∧ f.file = s.file := by
  simp [OwnFindings]

theorem OwnFindings.append (hfs : OwnFindings rule s fs) (hgs : OwnFindings rule s gs) :
    OwnFindings rule s (fs ++ gs) := by
  intro f hf
  rcases List.mem_append.1 hf with hf | hf
  · exact hfs f hf
  · exact hgs f hf

@[simp] theorem Site.ruleId_findingAt (s : Site) (rule : Rule) (span : Span) (m : String) :
    (s.findingAt rule span m).ruleId = rule.id := rfl

@[simp] theorem Site.file_findingAt (s : Site) (rule : Rule) (span : Span) (m : String) :
    (s.findingAt rule span m).file = s.file := rfl

@[simp] theorem Site.ruleId_finding (s : Site) (rule : Rule) (n : Node) (m : String) :
    (s.finding rule n m).ruleId = rule.id := rfl

@[simp] theorem Site.file_finding (s : Site) (rule : Rule) (n : Node) (m : String) :
    (s.finding rule n m).file = s.file := rfl

@[simp] theorem Finding.ruleId_withHint (f : Finding) (hint : String) :
    (f.withHint hint).ruleId = f.ruleId := rfl

@[simp] theorem Finding.file_withHint (f : Finding) (hint : String) :
    (f.withHint hint).file = f.file := rfl

@[simp] theorem Finding.ruleId_withSeverity (f : Finding) (severity : Severity) :
    (f.withSeverity severity).ruleId = f.ruleId := rfl

@[simp] theorem Finding.file_withSeverity (f : Finding) (severity : Severity) :
    (f.withSeverity severity).file = f.file := rfl

end Own

/-! ## Rule by rule -/

namespace Rules

variable (s : Site) (n : Node)

theorem SqlInjection.report_own (sinks : List String) :
    OwnFindings rule s (report sinks s n) := by
  unfold report
  split_ifs
  · split <;> simp
  · simp

theorem InsecureDeserialization.report_own (sinks : List String) :
    OwnFindings rule s (report sinks s n) := by
  unfold report
  split_ifs
  · split
    · split_ifs <;> simp
    · simp
  · simp

theorem HardcodedCredential.reportBinding_own (c : Setup) :
    OwnFindings rule s (reportBinding c s n) := by
  unfold reportBinding
  split
  · split_ifs <;> simp
  · simp

theorem HardcodedCredential.slotFinding_own {c : Setup} {s : Site} {callee : String} {arg : Node}
    {f : Finding} (h : slotFinding? c s callee arg = some f) :
    f.ruleId = rule.id ∧ f.file = s.file := by
  unfold slotFinding? at h
  split_ifs at h
  · obtain rfl := Option.some.inj h
    simp
  · split at h
    · split_ifs at h
      obtain rfl := Option.some.inj h
      simp
    · cases h

theorem HardcodedCredential.reportSlots_own (c : Setup) :
    OwnFindings rule s (reportSlots c s n) := by
  unfold reportSlots
  split
  · split
    · intro f hf
      obtain ⟨arg, -, harg⟩ := List.mem_filterMap.1 hf
      exact slotFinding_own harg
    · simp
  · simp

theorem HardcodedCredential.report_own (c : Setup) : OwnFindings rule s (report c s n) :=
  (reportBinding_own s n c).append (reportSlots_own s n c)

theorem DangerousEval.report_own : OwnFindings rule s (report s n) := by
  unfold report
  split_ifs <;> simp

theorem StringConcatInLoop.report_own (r : RuleSettings) :
    OwnFindings rule s (report r s n) := by
  unfold report
  dsimp only
  split_ifs
  · simp
  · split
    · split_ifs <;> simp
    · simp

theorem QuadraticCandidate.report_own : OwnFindings rule s (report s n) := by
  unfold report
  split
  · split_ifs
    · simp
    · split <;> simp
  · simp

theorem OverSynchronization.report_own : OwnFindings rule s (report s n) := by
  unfold report
  split_ifs
  · split
    · dsimp only
      split_ifs <;> simp
    · simp
  · simp

theorem UnboundedCacheGrowth.report_own : OwnFindings rule s (report s n) := by
  unfold report
  split_ifs
  · simp
  · split
    · dsimp only
      split_ifs <;> simp
    · simp

theorem TooManyParameters.report_own (limit : Nat) :
    OwnFindings rule s (report limit s n) := by
  unfold report
  dsimp only
  split_ifs <;> simp

theorem CyclomaticComplexity.report_own (limit : Nat) :
    OwnFindings rule s (report limit s n) := by
  unfold report
  dsimp only
  split_ifs <;> simp

theorem FunctionTooLong.report_own (limit : Nat) :
    OwnFindings rule s (report limit s n) := by
  unfold report
  dsimp only
  split_ifs <;> simp

theorem UnusedBinding.report_own (ignoreSideEffects : Bool) :
    OwnFindings rule s (report ignoreSideEffects s n) := by
  unfold report
  dsimp only
  split_ifs <;> simp

theorem MagicNumber.report_own (allowed : List Float) :
    OwnFindings rule s (report allowed s n) := by
  unfold report
  split
  · dsimp only
    split
    · split_ifs <;> simp
    · simp
  · simp

theorem BroadExceptionCatch.report_own (extra : List String) :
    OwnFindings rule s (report extra s n) := by
  unfold report
  split <;> simp

theorem DebugOutput.report_own : OwnFindings rule s (report s n) := by
  unfold report
  split <;> simp

/-- What the detector of resource leaks finds, unless it fails. -/
theorem ResourceLeak.evaluate_own {c : Setup} {s : Site} {n : Node} {fs : List Finding}
    (h : evaluate c s n = .found fs) : OwnFindings rule s fs := by
  unfold evaluate at h
  split at h
  · split_ifs at h
    · split at h
      · obtain rfl := Outcome.found.inj h
        simp
      · obtain rfl := Outcome.found.inj h
        simp
    · obtain rfl := Outcome.found.inj h
      simp
  · obtain rfl := Outcome.found.inj h
    simp

end Rules

/-! ## The built-in detectors -/

/-- What a built-in detector is like: it always answers, with findings of its own rule, or it is the
detector of resource leaks. -/
inductive Detector.IsBuiltIn (r : RuleSettings) : Detector → Prop
  | reporting {rule : Rule} {kinds : List Kind} {report : Site → Node → List Finding}
      (own : ∀ s n, OwnFindings rule s (report s n)) : IsBuiltIn r (.reporting rule kinds report)
  | leak : IsBuiltIn r (Rules.ResourceLeak.detector r)

namespace Registry

/-- The built-in detectors, with the setup of the one for credentials. -/
def detectorsWith (r : RuleSettings) (c : Rules.HardcodedCredential.Setup) : List Detector :=
  [Rules.SqlInjection.detector r, Rules.InsecureDeserialization.detector r,
    .reporting Rules.HardcodedCredential.rule Rules.HardcodedCredential.kinds
      (Rules.HardcodedCredential.report c),
    Rules.DangerousEval.detector, Rules.ResourceLeak.detector r,
    Rules.StringConcatInLoop.detector r, Rules.QuadraticCandidate.detector,
    Rules.OverSynchronization.detector, Rules.UnboundedCacheGrowth.detector,
    Rules.TooManyParameters.detector r, Rules.CyclomaticComplexity.detector r,
    Rules.FunctionTooLong.detector r, Rules.UnusedBinding.detector r,
    Rules.MagicNumber.detector r, Rules.BroadExceptionCatch.detector r,
    Rules.DebugOutput.detector]

/-- The built-in detectors are fixed but for the patterns of credential names, which may not be
patterns. -/
theorem standardDetectors_eq_ok {r : RuleSettings} {ds : List Detector}
    (h : standardDetectors r = .ok ds) : ∃ c, ds = detectorsWith r c := by
  unfold standardDetectors Rules.HardcodedCredential.detector at h
  cases hc : Rules.HardcodedCredential.setup? r with
  | error e => simp [hc, Except.map] at h
  | ok c => exact ⟨c, by simpa [hc, Except.map, detectorsWith] using h.symm⟩

theorem isBuiltIn_of_mem {r : RuleSettings} {ds : List Detector}
    (h : standardDetectors r = .ok ds) {d : Detector} (hd : d ∈ ds) : d.IsBuiltIn r := by
  obtain ⟨c, rfl⟩ := standardDetectors_eq_ok h
  simp only [detectorsWith, List.mem_cons, List.not_mem_nil, or_false] at hd
  rcases hd with rfl | rfl | rfl | rfl | rfl | rfl | rfl | rfl | rfl | rfl | rfl | rfl | rfl |
    rfl | rfl | rfl
  · exact .reporting fun s n => Rules.SqlInjection.report_own s n _
  · exact .reporting fun s n => Rules.InsecureDeserialization.report_own s n _
  · exact .reporting fun s n => Rules.HardcodedCredential.report_own s n _
  · exact .reporting Rules.DangerousEval.report_own
  · exact .leak
  · exact .reporting fun s n => Rules.StringConcatInLoop.report_own s n _
  · exact .reporting Rules.QuadraticCandidate.report_own
  · exact .reporting Rules.OverSynchronization.report_own
  · exact .reporting Rules.UnboundedCacheGrowth.report_own
  · exact .reporting fun s n => Rules.TooManyParameters.report_own s n _
  · exact .reporting fun s n => Rules.CyclomaticComplexity.report_own s n _
  · exact .reporting fun s n => Rules.FunctionTooLong.report_own s n _
  · exact .reporting fun s n => Rules.UnusedBinding.report_own s n _
  · exact .reporting fun s n => Rules.MagicNumber.report_own s n _
  · exact .reporting fun s n => Rules.BroadExceptionCatch.report_own s n _
  · exact .reporting Rules.DebugOutput.report_own

/-- The registry of settings exists if the built-in detectors can be set up and fit together; then
it holds those that are not switched off. -/
theorem ofSettings_eq_ok_iff {s : Settings} {g : Registry} :
    ofSettings s = .ok g ↔
      ∃ ds, standardDetectors s.rules = .ok ds ∧ check [] ds = .ok () ∧
        g = ⟨ds.filter fun d => !s.analysis.disabledRules.contains d.id⟩ := by
  unfold ofSettings
  cases standardDetectors s.rules with
  | error e => simp [Except.bind]
  | ok ds =>
    cases hcheck : check [] ds with
    | error e => simp [Except.bind, build, hcheck]
    | ok _ => simp [Except.bind, build, hcheck, eq_comm]

theorem standard_eq_ofSettings (r : RuleSettings) : standard r = ofSettings { rules := r } := rfl

/-- A registry is standard if it is that of some settings. -/
def IsStandard (g : Registry) : Prop := ∃ s : Settings, ofSettings s = .ok g

/-- Rules for which no name is suspicious. -/
def plainRules : RuleSettings := { credentialPatterns := some [] }

/-- A standard registry. -/
def plain : Registry := ⟨(standardDetectors plainRules).toOption.getD []⟩

theorem standard_plainRules : standard plainRules = .ok plain := rfl

theorem isStandard_plain : plain.IsStandard := ⟨{ rules := plainRules }, rfl⟩

theorem IsStandard.exists_mem {g : Registry} (hg : g.IsStandard) {d : Detector}
    (hd : d ∈ g.detectors) : ∃ r ds, standardDetectors r = .ok ds ∧ d ∈ ds := by
  obtain ⟨s, hs⟩ := hg
  obtain ⟨ds, hds, -, rfl⟩ := ofSettings_eq_ok_iff.1 hs
  exact ⟨s.rules, ds, hds, List.mem_of_mem_filter hd⟩

theorem IsStandard.isBuiltIn {g : Registry} (hg : g.IsStandard) {d : Detector}
    (hd : d ∈ g.detectors) : ∃ r, d.IsBuiltIn r := by
  obtain ⟨r, ds, hds, hmem⟩ := hg.exists_mem hd
  exact ⟨r, isBuiltIn_of_mem hds hmem⟩

end Registry

/-! ## What comes of an analysis -/

/-- What a built-in detector adds to a report is in the file, and of its own rule unless it stands
for a failure. -/
theorem Detector.IsBuiltIn.own_findings {r : RuleSettings} {d : Detector} (hd : d.IsBuiltIn r)
    (s : Site) (n : Node) {f : Finding} (hf : f ∈ d.findings s n (d.evaluate s n)) :
    f.file = s.file ∧
      (f.ruleId = d.id ∨ f.ruleId = faultRule.id ∧ d = Rules.ResourceLeak.detector r) := by
  cases hd with
  | reporting own =>
    obtain ⟨hrule, hfile⟩ := own s n f hf
    exact ⟨hfile, .inl hrule⟩
  | leak =>
    cases ho : (Rules.ResourceLeak.detector r).evaluate s n with
    | found fs =>
      rw [ho] at hf
      obtain ⟨hrule, hfile⟩ := Rules.ResourceLeak.evaluate_own ho f hf
      exact ⟨hfile, .inl hrule⟩
    | failed e =>
      rw [ho] at hf
      obtain rfl := List.mem_singleton.1 hf
      exact ⟨rfl, .inr ⟨rfl, rfl⟩⟩
    | crashed reason =>
      rw [ho] at hf
      obtain rfl := List.mem_singleton.1 hf
      exact ⟨rfl, .inr ⟨rfl, rfl⟩⟩

namespace Engine

@[simp] theorem ruleId_finalize (e : Engine) (u : SourceUnit) (f : Finding) :
    (e.finalize u f).ruleId = f.ruleId := by
  obtain ⟨snippet, h⟩ := e.finalize_eq u f
  rw [h]

@[simp] theorem file_finalize (e : Engine) (u : SourceUnit) (f : Finding) :
    (e.finalize u f).file = f.file := by
  obtain ⟨snippet, h⟩ := e.finalize_eq u f
  rw [h]

/-- With a standard registry, the findings of a unit are in its file. -/
theorem file_of_mem_findings {e : Engine} (he : e.registry.IsStandard) {u : SourceUnit}
    {t : Interrupts} {f : Finding} (hf : f ∈ (e.analyze u t).findings) : f.file = u.path := by
  cases hu : u.tree with
  | error err => simp [analyze, hu] at hf
  | ok root =>
    obtain ⟨truncated, hreport⟩ := e.analyze_eq_counted hu t
    rw [hreport] at hf
    obtain ⟨v, -, hf⟩ := List.mem_flatMap.1 hf
    obtain ⟨d, hd, hf⟩ := List.mem_flatMap.1 hf
    obtain ⟨g, hg, rfl⟩ := List.mem_map.1 hf
    obtain ⟨r, hbuiltIn⟩ := he.isBuiltIn (Registry.mem_detectorsFor_iff.1 hd).1
    rw [file_finalize]
    exact (hbuiltIn.own_findings (v.site u) v.node hg).1

end Engine

end TreeLint
