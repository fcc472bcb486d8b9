import TreeLint.Proofs.FinalList

/-!
# The order of the raw findings

The final list does not depend on the order in which the findings were made, as far as its set of
keys goes: which keys there are, how many findings were suppressed and how many repeats were
dropped is the same for every order of the raw findings (`keys_perm`, `duplicatesRemoved_perm`).

The severity that is reported for a key does depend on it. Repeats are findings with the same key,
the first of them stays, and a key does not fix a severity or a category. So the order in which
repeats arrive may move a finding in the list, change the counts, and make the run fail or pass.

**Theorem.** The outcome is the same for all orders of the raw findings iff those that no
suppression covers agree on severity and category whenever they agree on the key.

If they agree, the two lists hold the same findings up to their texts, and the order of reports
does not look at texts (`map_bare_findings`). If two of them disagree, each can be brought to the
front, where it is the one that is kept and nothing else changes (`exists_front`), and then the
counts differ by one.
-/

namespace TreeLint

variable {raw raw' : List Finding} {suppressions : List Suppression} {key : Finding.Key}
  {f g : Finding}

/-- What two runs have in common that differ in nothing but the texts of their findings. -/
structure SameOutcome (a b : Aggregated) : Prop where
  keys : a.findings.map (·.key) = b.findings.map (·.key)
  bySeverity : a.metrics.bySeverity = b.metrics.bySeverity
  byCategory : a.metrics.byCategory = b.metrics.byCategory
  suppressed : a.metrics.suppressed = b.metrics.suppressed
  duplicatesRemoved : a.metrics.duplicatesRemoved = b.metrics.duplicatesRemoved
  status : ∀ (files : List FileSummary) (gate : Severity),
    RunSummary.status ⟨a.metrics, files, gate⟩ = RunSummary.status ⟨b.metrics, files, gate⟩

/-- Raw findings with the same key have the same severity and the same category, unless a
suppression covers them. -/
def RepeatsAgree (raw : List Finding) (suppressions : List Suppression) : Prop :=
  ∀ f ∈ raw, ∀ g ∈ raw, isSuppressed suppressions f = false →
    isSuppressed suppressions g = false → f.key = g.key →
    f.severity = g.severity ∧ f.category = g.category

/-! ## What no order changes -/

/-- Every order of the raw findings gives the same keys. -/
theorem keys_perm (h : raw'.Perm raw) (suppressions : List Suppression) :
    ((aggregate raw' suppressions).findings.map (·.key)).Perm
      ((aggregate raw suppressions).findings.map (·.key)) := by
  refine (List.perm_ext_iff_of_nodup (keys_nodup_findings _ _) (keys_nodup_findings _ _)).2
    fun key => ?_
  rw [mem_keys_findings_iff, mem_keys_findings_iff]
  simp only [h.mem_iff]

theorem suppressed_perm (h : raw'.Perm raw) (suppressions : List Suppression) :
    (aggregate raw' suppressions).metrics.suppressed =
      (aggregate raw suppressions).metrics.suppressed := by
  rw [suppressed_eq_countP, suppressed_eq_countP, h.countP_eq]

theorem total_perm (h : raw'.Perm raw) (suppressions : List Suppression) :
    (aggregate raw' suppressions).metrics.total = (aggregate raw suppressions).metrics.total := by
  have hkeys := (keys_perm h suppressions).length_eq
  rwa [List.length_map, List.length_map] at hkeys

theorem duplicatesRemoved_perm (h : raw'.Perm raw) (suppressions : List Suppression) :
    (aggregate raw' suppressions).metrics.duplicatesRemoved =
      (aggregate raw suppressions).metrics.duplicatesRemoved := by
  have hbalance' := metrics_balance raw' suppressions
  have hbalance := metrics_balance raw suppressions
  rw [suppressed_perm h, total_perm h, h.length_eq] at hbalance'
  omega

/-! ## Repeats that agree -/

/-- The finding without its texts. -/
def Finding.bare (f : Finding) : Finding :=
  { f with message := "", snippet := none, fixHint := none }

theorem Finding.bare_eq (hkey : f.key = g.key) (hseverity : f.severity = g.severity)
    (hcategory : f.category = g.category) : f.bare = g.bare := by
  simp only [key, Key.mk.injEq] at hkey
  obtain ⟨hrule, hfile, hspan⟩ := hkey
  simp only [bare, hrule, hfile, hspan, hseverity, hcategory]

theorem RepeatsAgree.perm (h : RepeatsAgree raw suppressions) (hperm : raw'.Perm raw) :
    RepeatsAgree raw' suppressions :=
  fun f hf g hg => h f (hperm.mem_iff.1 hf) g (hperm.mem_iff.1 hg)

theorem map_bare_subset (h : RepeatsAgree raw suppressions) (hperm : raw'.Perm raw) :
    (aggregate raw' suppressions).findings.map Finding.bare ⊆
      (aggregate raw suppressions).findings.map Finding.bare := by
  intro x hx
  obtain ⟨f, hf, rfl⟩ := List.mem_map.1 hx
  obtain ⟨hraw', hs⟩ := mem_of_keptOf (mem_findings_iff.1 hf)
  have hraw : f ∈ raw := hperm.mem_iff.1 hraw'
  -- The other order keeps some finding `g` of the same key.
  obtain ⟨g, hg⟩ := exists_keptOf hraw hs
  have hkey := key_of_keptOf hg
  obtain ⟨hgraw, hgs⟩ := mem_of_keptOf hg
  obtain ⟨hseverity, hcategory⟩ := h g hgraw f hraw hgs hs hkey
  exact List.mem_map.2 ⟨g, mem_findings_of_keptOf hg,
    Finding.bare_eq hkey hseverity hcategory⟩

/-- If repeats agree, the order of the raw findings decides about texts only. -/
theorem map_bare_findings (h : RepeatsAgree raw suppressions) (hperm : raw'.Perm raw) :
    (aggregate raw' suppressions).findings.map Finding.bare =
      (aggregate raw suppressions).findings.map Finding.bare := by
  have hordered : ∀ raw, ((aggregate raw suppressions).findings.map Finding.bare).Pairwise
      fun f g => f.order g = .lt :=
    fun raw => List.pairwise_map.2 (findings_ordered raw suppressions)
  exact Finding.eq_of_mem_iff (hordered raw') (hordered raw) fun f =>
    ⟨fun hf => map_bare_subset h hperm hf,
      fun hf => map_bare_subset (h.perm hperm) hperm.symm hf⟩

theorem SeverityCounts.ofFindings_map_bare (fs : List Finding) :
    ofFindings (fs.map Finding.bare) = ofFindings fs := by
  simp only [ofFindings, List.countP_map]
  rfl

theorem CategoryCounts.ofFindings_map_bare (fs : List Finding) :
    ofFindings (fs.map Finding.bare) = ofFindings fs := by
  simp only [ofFindings, List.countP_map]
  rfl

theorem RunSummary.status_congr {m m' : Metrics} (h : m.bySeverity = m'.bySeverity)
    (files : List FileSummary) (gate : Severity) :
    status ⟨m, files, gate⟩ = status ⟨m', files, gate⟩ := by
  have hgate : m.atOrAbove gate = m'.atOrAbove gate := by
    rw [Metrics.atOrAbove, Metrics.atOrAbove, h]
  simp only [status, hgate]

/-- If repeats agree, the order of the raw findings does not matter. -/
theorem sameOutcome_of_repeatsAgree (h : RepeatsAgree raw suppressions) (hperm : raw'.Perm raw) :
    SameOutcome (aggregate raw' suppressions) (aggregate raw suppressions) := by
  have hbare := map_bare_findings h hperm
  have hkeys := congrArg (List.map Finding.key) hbare
  have hseverity := congrArg SeverityCounts.ofFindings hbare
  have hcategory := congrArg CategoryCounts.ofFindings hbare
  rw [List.map_map, List.map_map] at hkeys
  rw [SeverityCounts.ofFindings_map_bare, SeverityCounts.ofFindings_map_bare] at hseverity
  rw [CategoryCounts.ofFindings_map_bare, CategoryCounts.ofFindings_map_bare] at hcategory
  exact ⟨hkeys, hseverity, hcategory, suppressed_perm hperm _, duplicatesRemoved_perm hperm _,
    RunSummary.status_congr hseverity⟩

/-! ## Repeats that disagree -/

/-- A finding that no suppression covers can be made the first. It is then kept of its key, and
nothing changes for the other keys. -/
theorem exists_front (hf : f ∈ raw) (hs : isSuppressed suppressions f = false) :
    ∃ raw', raw'.Perm raw ∧ keptOf raw' suppressions f.key = some f ∧
      ∀ key, key ≠ f.key → keptOf raw' suppressions key = keptOf raw suppressions key := by
  obtain ⟨before, after, rfl⟩ := List.append_of_mem hf
  refine ⟨f :: (before ++ after), List.perm_middle.symm, ?_, fun key hkey => ?_⟩
  · rw [keptOf_cons, if_pos ⟨hs, rfl⟩]
  · have hskip : ∀ raw, keptOf (f :: raw) suppressions key = keptOf raw suppressions key := by
      intro raw
      rw [keptOf_cons, if_neg fun h => hkey h.2.symm]
    rw [hskip, keptOf_append, keptOf_append, hskip]

theorem filter_key_ne_findings
    (h : ∀ k, k ≠ key → keptOf raw' suppressions k = keptOf raw suppressions k) :
    (aggregate raw' suppressions).findings.filter (fun f => !(f.key == key)) =
      (aggregate raw suppressions).findings.filter fun f => !(f.key == key) := by
  refine Finding.eq_of_mem_iff ((findings_ordered _ _).filter _) ((findings_ordered _ _).filter _)
    fun g => ?_
  rw [List.mem_filter, List.mem_filter, mem_findings_iff, mem_findings_iff]
  refine and_congr_left fun hg => ?_
  rw [h g.key (by simpa using hg)]

theorem countP_findings (h : keptOf raw suppressions key = some f) (p : Finding → Bool) :
    (aggregate raw suppressions).findings.countP p = (if p f then 1 else 0) +
      ((aggregate raw suppressions).findings.filter fun g => !(g.key == key)).countP p := by
  rw [List.countP_eq_countP_filter_add _ p (·.key == key), filter_key_findings, h,
    Option.toList_some, List.countP_singleton]

/-- If no order changes the counts of `p`, then `p` has on each finding the value that it has on the
one kept of the key. -/
theorem eq_of_countP_perm {β : Type*} [DecidableEq β] (p : Finding → β)
    (hcount : ∀ raw', raw'.Perm raw → ∀ b,
      (aggregate raw' suppressions).findings.countP (p · == b) =
        (aggregate raw suppressions).findings.countP (p · == b))
    (hf : f ∈ raw) (hs : isSuppressed suppressions f = false)
    (hg : keptOf raw suppressions f.key = some g) : p f = p g := by
  obtain ⟨raw', hperm, hfront, hother⟩ := exists_front hf hs
  have hsame := hcount raw' hperm (p f)
  rw [countP_findings hfront, countP_findings hg, filter_key_ne_findings hother,
    beq_self_eq_true, if_pos rfl] at hsame
  by_contra hne
  rw [beq_false_of_ne (Ne.symm hne)] at hsame
  simp at hsame

theorem repeatsAgree_of_sameOutcome
    (h : ∀ raw', raw'.Perm raw →
      SameOutcome (aggregate raw' suppressions) (aggregate raw suppressions)) :
    RepeatsAgree raw suppressions := by
  intro f hf g hg hfs hgs hkey
  have hseverity : ∀ raw', raw'.Perm raw → ∀ s,
      (aggregate raw' suppressions).findings.countP (·.severity == s) =
        (aggregate raw suppressions).findings.countP (·.severity == s) := by
    intro raw' hperm s
    rw [← SeverityCounts.get_ofFindings, ← SeverityCounts.get_ofFindings]
    exact congrArg (SeverityCounts.get · s) (h raw' hperm).bySeverity
  have hcategory : ∀ raw', raw'.Perm raw → ∀ c,
      (aggregate raw' suppressions).findings.countP (·.category == c) =
        (aggregate raw suppressions).findings.countP (·.category == c) := by
    intro raw' hperm c
    rw [← CategoryCounts.get_ofFindings, ← CategoryCounts.get_ofFindings]
    exact congrArg (CategoryCounts.get · c) (h raw' hperm).byCategory
  obtain ⟨kept, hkept⟩ := exists_keptOf hf hfs
  have hkept' : keptOf raw suppressions g.key = some kept := hkey ▸ hkept
  constructor
  · exact (eq_of_countP_perm _ hseverity hf hfs hkept).trans
      (eq_of_countP_perm _ hseverity hg hgs hkept').symm
  · exact (eq_of_countP_perm _ hcategory hf hfs hkept).trans
      (eq_of_countP_perm _ hcategory hg hgs hkept').symm

/-- **When the order of the raw findings does not matter.** In any order they have the same keys, as
many suppressed findings and as many repeats. All orders have the same outcome iff repeats agree
on severity and category. -/
theorem aggregate_perm_iff (raw : List Finding) (suppressions : List Suppression) :
    (∀ raw', raw'.Perm raw →
      ((aggregate raw' suppressions).findings.map (·.key)).Perm
        ((aggregate raw suppressions).findings.map (·.key)) ∧
      (aggregate raw' suppressions).metrics.total = (aggregate raw suppressions).metrics.total ∧
      (aggregate raw' suppressions).metrics.suppressed =
        (aggregate raw suppressions).metrics.suppressed ∧
      (aggregate raw' suppressions).metrics.duplicatesRemoved =
        (aggregate raw suppressions).metrics.duplicatesRemoved) ∧
    ((∀ raw', raw'.Perm raw →
      SameOutcome (aggregate raw' suppressions) (aggregate raw suppressions)) ↔
        RepeatsAgree raw suppressions) :=
  ⟨fun _ h => ⟨keys_perm h _, total_perm h _, suppressed_perm h _, duplicatesRemoved_perm h _⟩,
    repeatsAgree_of_sameOutcome, fun h _ hperm => sameOutcome_of_repeatsAgree h hperm⟩

/-- A finding at the only place of a file. -/
def sampleFinding (ruleId : String) (severity : Severity) (message : String) : Finding :=
  { ruleId, severity, category := .quality, file := "x.js", span := ⟨1, 1, 1, 2⟩, message,
    snippet := "x" }

/-- What two rules find in two versions of a file, of which the first is critical. -/
def hotFirst : List Finding :=
  [sampleFinding "sample/a" .critical "hot", sampleFinding "sample/b" .medium "saw hot",
    sampleFinding "sample/a" .low "saw cold", sampleFinding "sample/b" .medium "saw cold"]

/-- The same findings, those of the second version first. -/
def coldFirst : List Finding :=
  [sampleFinding "sample/a" .low "saw cold", sampleFinding "sample/b" .medium "saw cold",
    sampleFinding "sample/a" .critical "hot", sampleFinding "sample/b" .medium "saw hot"]

/-- The order of the raw findings decides about the order of the report, the counts, and whether
the run fails. -/
theorem outcome_depends_on_order :
    coldFirst.Perm hotFirst ∧
    (aggregate hotFirst []).findings.map (·.ruleId) = ["sample/a", "sample/b"] ∧
    (aggregate coldFirst []).findings.map (·.ruleId) = ["sample/b", "sample/a"] ∧
    (aggregate hotFirst []).metrics.bySeverity = ⟨0, 1, 0, 1⟩ ∧
    (aggregate coldFirst []).metrics.bySeverity = ⟨1, 1, 0, 0⟩ ∧
    RunSummary.status ⟨(aggregate hotFirst []).metrics, [], .high⟩ = .gateFailed ∧
    RunSummary.status ⟨(aggregate coldFirst []).metrics, [], .high⟩ = .clean := by
  have hhot : (aggregate hotFirst []).findings =
      [sampleFinding "sample/a" .critical "hot", sampleFinding "sample/b" .medium "saw hot"] :=
    findings_eq_of_perm (by decide +kernel) (by decide +kernel)
  have hcold : (aggregate coldFirst []).findings =
      [sampleFinding "sample/b" .medium "saw cold", sampleFinding "sample/a" .low "saw cold"] :=
    findings_eq_of_perm (by decide +kernel) (by decide +kernel)
  have hhotCounts : (aggregate hotFirst []).metrics.bySeverity = ⟨0, 1, 0, 1⟩ :=
    congrArg SeverityCounts.ofFindings hhot
  have hcoldCounts : (aggregate coldFirst []).metrics.bySeverity = ⟨1, 1, 0, 0⟩ :=
    congrArg SeverityCounts.ofFindings hcold
  refine ⟨by decide +kernel, by rw [hhot]; rfl, by rw [hcold]; rfl, hhotCounts, hcoldCounts,
    ?_, ?_⟩
  · simp only [RunSummary.status, Metrics.atOrAbove, hhotCounts]
    rfl
  · simp only [RunSummary.status, Metrics.atOrAbove, hcoldCounts]
    rfl

end TreeLint
