import TreeLint.Proofs.DisabledRules

/-!
# The findings of one rule

A report lists the findings of all detectors together. With a standard registry the rule ids tell
them apart again: a built-in detector reports under the id of its rule, no two of them have one id,
and the failures of the one that can fail go under an id that is none of theirs.

So the findings of a rule other than that of resource leaks are what its detector reports, node by
node: `ruleFindingsAt_eq` says it for one visit, and `filter_findings_of_isComplete` puts the visits
together.
-/

namespace TreeLint

namespace Registry

variable {s : Settings} {g : Registry} {d : Detector}

/-- A built-in detector is registered, once, unless its id is switched off. -/
theorem filter_id_of_ofSettings (h : ofSettings s = .ok g)
    (hd : ∀ c, d ∈ detectorsWith s.rules c) :
    g.detectors.filter (·.id == d.id) =
      if s.analysis.disabledRules.contains d.id then [] else [d] := by
  obtain ⟨ds, hds, -, rfl⟩ := ofSettings_eq_ok_iff.1 h
  have hmem : d ∈ ds := by
    obtain ⟨c, rfl⟩ := standardDetectors_eq_ok hds
    exact hd c
  rw [List.filter_comm, filter_standardDetectors hds hmem, List.filter_singleton]
  cases s.analysis.disabledRules.contains d.id <;> rfl

/-- A finding of a built-in detector is of a rule iff the detector is. -/
theorem IsStandard.ruleId_beq (hg : g.IsStandard) {id : String} (hid : id ∈ standardIds)
    (hleak : id ≠ Rules.ResourceLeak.rule.id) (hd : d ∈ g.detectors) {s : Site} {n : Node}
    {f : Finding} (hf : f ∈ d.findings s n (d.evaluate s n)) :
    (f.ruleId == id) = (d.id == id) := by
  obtain ⟨r, hbuiltIn⟩ := hg.isBuiltIn hd
  obtain ⟨-, hown | ⟨hfault, rfl⟩⟩ := hbuiltIn.own_findings s n hf
  · rw [hown]
  · -- A failure has neither the id of the rule nor comes from its detector.
    have hne : Detector.faultRule.id ≠ id := by
      intro heq
      exact faultRule_notMem_standardIds (heq ▸ hid)
    have hleak' : (Rules.ResourceLeak.detector r).id ≠ id := fun heq => hleak heq.symm
    rw [hfault, beq_eq_false_iff_ne.2 hne, beq_eq_false_iff_ne.2 hleak']

end Registry

namespace Engine

/-- The findings of a rule at a visit. -/
def ruleFindingsAt (e : Engine) (id : String) (u : SourceUnit) (v : Visit) : List Finding :=
  (e.findingsAt (v.site u) v.node).filter (·.ruleId == id)

theorem filter_findings_of_isComplete {e : Engine} {u : SourceUnit} {root : Node}
    (hu : u.tree = .ok root) {t : Interrupts} (ht : (e.analyze u t).isComplete) (id : String) :
    (e.analyze u t).findings.filter (·.ruleId == id) =
      root.visits.flatMap (e.ruleFindingsAt id u) := by
  rw [e.analyze_of_isComplete hu ht, reportOn, List.filter_flatMap]
  rfl

/-- They are what the detector of the rule reports, unless the rule is switched off. -/
theorem ruleFindingsAt_eq {e : Engine} {s : Settings}
    (he : Registry.ofSettings s = .ok e.registry) {rule : Rule} {kinds : List Kind}
    {report : Site → Node → List Finding}
    (hd : ∀ c, .reporting rule kinds report ∈ Registry.detectorsWith s.rules c)
    (hleak : rule.id ≠ Rules.ResourceLeak.rule.id) (u : SourceUnit) (v : Visit) :
    e.ruleFindingsAt rule.id u v =
      if s.analysis.disabledRules.contains rule.id then []
      else if kinds.contains v.node.kind then (report (v.site u) v.node).map (e.finalize u)
      else [] := by
  have hid : rule.id ∈ Registry.standardIds := by
    obtain ⟨ds, hds, -, -⟩ := Registry.ofSettings_eq_ok_iff.1 he
    obtain ⟨c, rfl⟩ := Registry.standardDetectors_eq_ok hds
    exact Registry.id_mem_standardIds hds (hd c)
  have hagree : ∀ d ∈ e.registry.detectorsFor v.node.kind,
      ∀ f ∈ (d.findings (v.site u) v.node (d.evaluate (v.site u) v.node)).map (e.finalize u),
        (f.ruleId == rule.id) = (d.id == rule.id) := by
    intro d hreg f hf
    obtain ⟨raw, hraw, rfl⟩ := List.mem_map.1 hf
    rw [ruleId_finalize]
    exact Registry.IsStandard.ruleId_beq ⟨s, he⟩ hid hleak (Registry.mem_detectorsFor_iff.1 hreg).1
      hraw
  have hfilter := flatMap_filter_of_agree hagree
  have hregistered := Registry.filter_id_of_ofSettings (d := .reporting rule kinds report) he hd
  rw [Registry.detectorsFor_eq, List.filter_comm] at hfilter
  rw [ruleFindingsAt, findingsAt, Registry.detectorsFor_eq]
  refine hfilter.symm.trans ?_
  have hdetector : (Detector.reporting rule kinds report).id = rule.id := rfl
  rw [hdetector] at hregistered
  rw [hregistered]
  by_cases hoff : s.analysis.disabledRules.contains rule.id
  · rw [if_pos hoff, if_pos hoff]
    rfl
  · have hkinds : (Detector.reporting rule kinds report).kinds = kinds := rfl
    rw [if_neg hoff, if_neg hoff, List.filter_singleton, hkinds]
    cases kinds.contains v.node.kind with
    | true => exact List.flatMap_singleton _ _
    | false => rfl

end Engine

end TreeLint
