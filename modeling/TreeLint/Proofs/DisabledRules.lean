import TreeLint.Proofs.Ownership

/-!
# Rules that are switched off

The settings may switch off rules by their ids. The detectors of these rules are checked like the
others and then left out of the registry, so they are never asked.

**Theorem.** The report with some rules switched off is the report with all rules, from which
exactly the findings of these rules are taken out, and the failures of the detector of resource
leaks if its rule is one of them. The other findings keep their order, and nothing else of the
report changes. Ids that are no id of a built-in rule have no effect.

Each finding of a report comes from one detector, and whether it is taken out is whether that
detector is left out (`silences_of_mem`). This needs that built-in detectors report only findings
of their own rule, and that only one of them can fail: all failures have the same rule id, which
does not tell the detectors apart.
-/

namespace TreeLint

namespace Registry

/-- The built-in rules, in the order of registration. -/
def standardRules : List Rule :=
  [Rules.SqlInjection.rule, Rules.InsecureDeserialization.rule, Rules.HardcodedCredential.rule,
    Rules.DangerousEval.rule, Rules.ResourceLeak.rule, Rules.StringConcatInLoop.rule,
    Rules.QuadraticCandidate.rule, Rules.OverSynchronization.rule, Rules.UnboundedCacheGrowth.rule,
    Rules.TooManyParameters.rule, Rules.CyclomaticComplexity.rule, Rules.FunctionTooLong.rule,
    Rules.UnusedBinding.rule, Rules.MagicNumber.rule, Rules.BroadExceptionCatch.rule,
    Rules.DebugOutput.rule]

/-- The ids of the built-in rules. -/
def standardIds : List String := standardRules.map (·.id)

/-- Whether a finding goes away when rules are switched off: it is a finding of a built-in rule
among them, or it stands for a failure and the only detector that can fail is switched off. -/
def silences (disabled : List String) (f : Finding) : Bool :=
  (standardIds.contains f.ruleId && disabled.contains f.ruleId) ||
    (f.ruleId == Detector.faultRule.id && disabled.contains Rules.ResourceLeak.rule.id)

/-! ## The registries -/

variable {r : RuleSettings} {ds : List Detector} {d : Detector} {g : Registry}

theorem map_id_standardDetectors (h : standardDetectors r = .ok ds) :
    ds.map (·.id) = standardIds := by
  obtain ⟨c, rfl⟩ := standardDetectors_eq_ok h
  rfl

theorem id_mem_standardIds (h : standardDetectors r = .ok ds) (hd : d ∈ ds) :
    d.id ∈ standardIds :=
  map_id_standardDetectors h ▸ List.mem_map_of_mem hd

/-- A built-in detector is the only one with its id. -/
theorem filter_standardDetectors (h : standardDetectors r = .ok ds) (hd : d ∈ ds) :
    ds.filter (·.id == d.id) = [d] := by
  have hnodup : (ds.map (·.id)).Nodup := by
    rw [map_id_standardDetectors h]
    decide +kernel
  obtain ⟨before, after, rfl⟩ := List.append_of_mem hd
  simp only [List.map_append, List.map_cons, List.nodup_middle, List.nodup_cons, List.mem_append,
    List.mem_map, not_or, not_exists, not_and] at hnodup
  obtain ⟨⟨hbefore, hafter⟩, -⟩ := hnodup
  have hnone : before.filter (·.id == d.id) = [] ∧ after.filter (·.id == d.id) = [] :=
    ⟨List.filter_eq_nil_iff.2 fun x hx => by simpa using hbefore x hx,
      List.filter_eq_nil_iff.2 fun x hx => by simpa using hafter x hx⟩
  simp [hnone]

theorem faultRule_notMem_standardIds : Detector.faultRule.id ∉ standardIds := by
  decide +kernel

theorem standard_eq_ok (h : standard r = .ok g) :
    standardDetectors r = .ok g.detectors ∧ check [] g.detectors = .ok () := by
  rw [standard_eq_ofSettings] at h
  obtain ⟨ds, hds, hcheck, rfl⟩ := ofSettings_eq_ok_iff.1 h
  have hall : (ds.filter fun d => !([] : List String).contains d.id) = ds :=
    List.filter_eq_self.2 fun _ _ => rfl
  exact ⟨hds.trans (congrArg _ hall.symm), (congrArg _ hall).trans hcheck⟩

theorem ofSettings_eq_ok {s : Settings} (h : standard s.rules = .ok g) :
    ofSettings s =
      .ok ⟨g.detectors.filter fun d => !s.analysis.disabledRules.contains d.id⟩ := by
  obtain ⟨hds, hcheck⟩ := standard_eq_ok h
  exact ofSettings_eq_ok_iff.2 ⟨g.detectors, hds, hcheck, rfl⟩

/-- Only the ids of built-in rules count. -/
theorem filter_disabled_congr (h : standardDetectors r = .ok ds) {disabled disabled' : List String}
    (hsame : ∀ id ∈ standardIds, (id ∈ disabled' ↔ id ∈ disabled)) :
    (ds.filter fun d => !disabled'.contains d.id) =
      ds.filter fun d => !disabled.contains d.id := by
  refine List.filter_congr fun d hd => ?_
  have hid := hsame d.id (id_mem_standardIds h hd)
  rw [Bool.eq_iff_iff]
  simp [hid]

/-! ## The findings -/

/-- A finding goes away iff the detector that made it is left out. -/
theorem silences_of_mem (h : standardDetectors r = .ok ds) (hd : d ∈ ds) {s : Site} {n : Node}
    {f : Finding} (hf : f ∈ d.findings s n (d.evaluate s n)) (disabled : List String) :
    silences disabled f = disabled.contains d.id := by
  have hid := id_mem_standardIds h hd
  obtain ⟨-, hown | ⟨hfault, rfl⟩⟩ := (isBuiltIn_of_mem h hd).own_findings s n hf
  · have hne : d.id ≠ Detector.faultRule.id := by
      intro heq
      exact faultRule_notMem_standardIds (heq ▸ hid)
    rw [silences, hown]
    simp [hid, hne]
  · have hleak : (Rules.ResourceLeak.detector r).id = Rules.ResourceLeak.rule.id := rfl
    rw [silences, hfault, hleak]
    simp [faultRule_notMem_standardIds]

end Registry

theorem flatMap_filter_of_agree {α β : Type*} {p : α → Bool} {q : β → Bool} {f : α → List β}
    {xs : List α} (h : ∀ x ∈ xs, ∀ y ∈ f x, q y = p x) :
    (xs.filter p).flatMap f = (xs.flatMap f).filter q := by
  induction xs with
  | nil => rfl
  | cons x xs ih =>
    have hx : ∀ y ∈ f x, q y = p x := h x List.mem_cons_self
    have hxs := ih fun y hy => h y (List.mem_cons_of_mem x hy)
    rw [List.flatMap_cons, List.filter_append, ← hxs]
    by_cases hp : p x
    · have hall : (f x).filter q = f x := List.filter_eq_self.2 fun y hy => (hx y hy).trans hp
      rw [List.filter_cons_of_pos hp, List.flatMap_cons, hall]
    · have hnone : (f x).filter q = [] := List.filter_eq_nil_iff.2 fun y hy => hx y hy ▸ hp
      rw [List.filter_cons_of_neg hp, hnone, List.nil_append]

namespace Engine

variable {r : RuleSettings} {ds : List Detector}

theorem findingsAt_disabled (h : Registry.standardDetectors r = .ok ds) (disabled : List String)
    (snippets : Bool) (s : Site) (n : Node) :
    findingsAt ⟨⟨ds.filter fun d => !disabled.contains d.id⟩, snippets⟩ s n =
      (findingsAt ⟨⟨ds⟩, snippets⟩ s n).filter fun f => !Registry.silences disabled f := by
  have hcomm : Registry.detectorsFor ⟨ds.filter fun d => !disabled.contains d.id⟩ n.kind =
      (Registry.detectorsFor ⟨ds⟩ n.kind).filter fun d => !disabled.contains d.id := by
    simp only [Registry.detectorsFor_eq, List.filter_filter, Bool.and_comm]
  rw [findingsAt, findingsAt, hcomm]
  refine flatMap_filter_of_agree fun d hd f hf => ?_
  obtain ⟨raw, hraw, rfl⟩ := List.mem_map.1 hf
  have hsilences := Registry.silences_of_mem h (Registry.mem_detectorsFor_iff.1 hd).1 hraw disabled
  rw [← hsilences, Registry.silences, ruleId_finalize]
  rfl

theorem analyze_filter_disabled (h : Registry.standardDetectors r = .ok ds) (disabled : List String)
    (snippets : Bool) (u : SourceUnit) (t : Interrupts) :
    let whole := analyze ⟨⟨ds⟩, snippets⟩ u t
    analyze ⟨⟨ds.filter fun d => !disabled.contains d.id⟩, snippets⟩ u t =
      { whole with findings := whole.findings.filter fun f => !Registry.silences disabled f } := by
  intro whole
  cases hu : u.tree with
  | error err => simp only [whole, analyze, hu, List.filter_nil]
  | ok root =>
    -- Both walks stop at the same node: the answers do not depend on the registry.
    obtain ⟨k, -, hno, hyes⟩ := t.exists_first_stop root.size
    simp only [whole, analyze_eq_take _ hu hno hyes, reportOn, List.filter_flatMap,
      findingsAt_disabled h]

/-- **Switching rules off is exact.** If the registry with all built-in detectors can be built, so
can the registry of the settings. Its report on a unit is the report of all detectors without the
findings that the disabled rules silence, and otherwise the same. Of the disabled ids only those of
built-in rules count, and the id of failures is none. -/
theorem analyze_disabled (s : Settings) {g : Registry} (hg : Registry.standard s.rules = .ok g) :
    (∃ g', Registry.ofSettings s = .ok g' ∧
      ∀ (snippets : Bool) (u : SourceUnit) (t : Interrupts),
        let whole := analyze ⟨g, snippets⟩ u t
        analyze ⟨g', snippets⟩ u t =
          { whole with
            findings := whole.findings.filter fun f =>
              !Registry.silences s.analysis.disabledRules f }) ∧
    (∀ s' : Settings, s'.rules = s.rules →
      (∀ id ∈ Registry.standardIds,
        (id ∈ s'.analysis.disabledRules ↔ id ∈ s.analysis.disabledRules)) →
      Registry.ofSettings s' = Registry.ofSettings s) ∧
    g.rules = Registry.standardRules ∧ Detector.faultRule.id ∉ Registry.standardIds := by
  obtain ⟨hds, -⟩ := Registry.standard_eq_ok hg
  refine ⟨⟨_, Registry.ofSettings_eq_ok hg, fun snippets u t => ?_⟩, fun s' hrules hsame => ?_, ?_,
    Registry.faultRule_notMem_standardIds⟩
  · exact analyze_filter_disabled hds s.analysis.disabledRules snippets u t
  · rw [Registry.ofSettings_eq_ok hg, Registry.ofSettings_eq_ok (hrules ▸ hg),
      Registry.filter_disabled_congr hds hsame]
  · obtain ⟨c, hc⟩ := Registry.standardDetectors_eq_ok hds
    rw [Registry.rules, hc]
    rfl

/-- A reader that is opened without a name, one that is never closed, and an evaluation. -/
def leakyTree : Node :=
  { kind := .block, span := ⟨1, 1, 3, 8⟩
    children :=
      [(.statement,
        { kind := .localVar, span := ⟨1, 1, 1, 5⟩
          children := [(.value,
            { kind := .newExpr, span := ⟨1, 1, 1, 5⟩, typeName := some "FileReader" })] }),
        (.statement,
          { kind := .localVar, span := ⟨2, 1, 2, 5⟩, name := some "in"
            children := [(.value,
              { kind := .newExpr, span := ⟨2, 1, 2, 5⟩, typeName := some "FileReader" })] }),
        (.statement, .callOf "eval" ⟨3, 1, 3, 7⟩)] }

def leakyUnit : SourceUnit := .parsed "leak.js" "open()\nopen()\neval()" leakyTree

/-- Settings that switch off resource leaks, and two ids that are not those of rules. -/
def leaklessSettings : Settings :=
  { analysis :=
      { disabledRules := ["no/such-rule", "performance/resource-leak", "internal/detector-fault"] }
    rules := Registry.plainRules }

/-- The leak and the failure go, the others stay. -/
theorem analyze_disabled_leaky :
    Registry.standard leaklessSettings.rules = .ok .plain ∧
    (analyze ⟨.plain, true⟩ leakyUnit .never).findings.map (·.ruleId) =
      ["internal/detector-fault", "performance/resource-leak", "quality/unused-binding",
        "security/dangerous-eval"] ∧
    ∃ g, Registry.ofSettings leaklessSettings = .ok g ∧
      (analyze ⟨g, true⟩ leakyUnit .never).findings.map (·.ruleId) =
        ["quality/unused-binding", "security/dangerous-eval"] := by
  obtain ⟨⟨g, hg, hanalyze⟩, -⟩ := analyze_disabled leaklessSettings Registry.standard_plainRules
  refine ⟨Registry.standard_plainRules, by decide +kernel, g, hg, ?_⟩
  rw [hanalyze]
  decide +kernel

end Engine

end TreeLint
