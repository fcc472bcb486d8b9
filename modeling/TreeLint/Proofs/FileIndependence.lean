import TreeLint.Proofs.Faults
import TreeLint.Proofs.InputOrder
import TreeLint.Proofs.Ownership
import TreeLint.Proofs.Reaggregation

/-!
# Files of a run do not see each other

A run puts the findings of all its files into one list, drops repeats there and sorts. Findings of
different files have different keys, so if each file reports only its own findings, and no two
files share a path, nothing of one file can hide or move something of another.

**Theorem.** With a standard registry and different paths, the order of the units does not matter
to the final list and its numbers. A further unit changes nothing in the findings of the others,
and a unit without tree changes no finding at all. Without a time limit it does not matter either
how long the walks take.

The argument is about reports on files (`keptOf_reports_congr`): what is kept of a key in the end
is decided by the report on the file of the key.
-/

namespace TreeLint

attribute [ext] Metrics Aggregated

theorem nodup_map_middle {α β : Type*} {f : α → β} {before after : List α} {x : α} :
    ((before ++ x :: after).map f).Nodup ↔
      f x ∉ (before ++ after).map f ∧ ((before ++ after).map f).Nodup := by
  simp only [List.map_append, List.map_cons, List.nodup_middle, List.nodup_cons]

/-! ## One file for each key -/

section Reports

variable {raw : List Finding} {reports reports' : List FileReport}
  {suppressions : List Suppression} {key : Finding.Key}

/-- The reports are on different files, and each is on findings of its own file. -/
structure Separate (reports : List FileReport) : Prop where
  own : ∀ r ∈ reports, ∀ f ∈ r.findings, f.file = r.file
  distinct : (reports.map (·.file)).Nodup

theorem keptOf_eq_none (h : ∀ f ∈ raw, f.file ≠ key.file) : keptOf raw suppressions key = none := by
  cases hkept : keptOf raw suppressions key with
  | none => rfl
  | some f =>
    have hfile : f.file = key.file := congrArg Finding.Key.file (key_of_keptOf hkept)
    exact absurd hfile (h f (mem_of_keptOf hkept).1)

namespace Separate

theorem keptOf_others (own : ∀ r ∈ reports, ∀ f ∈ r.findings, f.file = r.file)
    (h : ∀ r ∈ reports, r.file ≠ key.file) :
    keptOf (reports.flatMap (·.findings)) suppressions key = none := by
  refine keptOf_eq_none fun f hf => ?_
  obtain ⟨r, hr, hf⟩ := List.mem_flatMap.1 hf
  rw [own r hr f hf]
  exact h r hr

/-- What is kept of a key is what the report on its file keeps. -/
theorem keptOf_reports (h : Separate reports) {r : FileReport} (hr : r ∈ reports)
    (hkey : r.file = key.file) :
    keptOf (reports.flatMap (·.findings)) suppressions key =
      keptOf r.findings suppressions key := by
  obtain ⟨before, after, rfl⟩ := List.append_of_mem hr
  have hothers : ∀ x ∈ before ++ after, x.file ≠ key.file := fun x hx hfile =>
    (nodup_map_middle.1 h.distinct).1 (List.mem_map.2 ⟨x, hx, hfile.trans hkey.symm⟩)
  obtain ⟨hbefore, hafter⟩ := List.forall_mem_append.1 hothers
  rw [List.flatMap_append, List.flatMap_cons, keptOf_append, keptOf_append,
    keptOf_others (fun x hx => h.own x (by simp [hx])) hbefore,
    keptOf_others (fun x hx => h.own x (by simp [hx])) hafter]
  simp

/-- What is kept of a key depends on the report on its file alone. -/
theorem keptOf_reports_congr (h : Separate reports) (h' : Separate reports')
    (hmem : ∀ r : FileReport, r.file = key.file → (r ∈ reports' ↔ r ∈ reports)) :
    keptOf (reports'.flatMap (·.findings)) suppressions key =
      keptOf (reports.flatMap (·.findings)) suppressions key := by
  by_cases hex : ∃ r ∈ reports, r.file = key.file
  · obtain ⟨r, hr, hkey⟩ := hex
    rw [h.keptOf_reports hr hkey, h'.keptOf_reports ((hmem r hkey).2 hr) hkey]
  · rw [keptOf_others h.own fun r hr hkey => hex ⟨r, hr, hkey⟩,
      keptOf_others h'.own fun r hr hkey => hex ⟨r, (hmem r hkey).1 hr, hkey⟩]

theorem perm (h : Separate reports) (hperm : reports'.Perm reports) : Separate reports' where
  own r hr := h.own r (hperm.mem_iff.1 hr)
  distinct := (hperm.map _).nodup_iff.2 h.distinct

theorem aggregate_perm (h : Separate reports) (hperm : reports'.Perm reports)
    (suppressions : List Suppression) :
    aggregate (reports'.flatMap (·.findings)) suppressions =
      aggregate (reports.flatMap (·.findings)) suppressions := by
  have hraw : (reports'.flatMap (·.findings)).Perm (reports.flatMap (·.findings)) :=
    hperm.flatMap_right _
  have hkept : ∀ key, keptOf (reports'.flatMap (·.findings)) suppressions key =
      keptOf (reports.flatMap (·.findings)) suppressions key :=
    fun key => h.keptOf_reports_congr (h.perm hperm) fun r _ => hperm.mem_iff
  have hfindings := findings_congr hkept
  obtain ⟨htotal, hseverity, hcategory⟩ := counts_congr hfindings
  exact Aggregated.ext hfindings (Metrics.ext htotal hseverity hcategory
    (suppressed_perm hraw _) (duplicatesRemoved_perm hraw _))

end Separate

end Reports

/-! ## Runs -/

namespace Pipeline

/-- The reports of a run. -/
def reports (p : Pipeline) (jobs : List Job) : List FileReport := jobs.map p.analyzeUnit

theorem run_eq_reports (p : Pipeline) (jobs : List Job) (suppressions : List Suppression) :
    p.run false jobs suppressions = .ok (.ofReports (p.reports jobs) suppressions p.gate) :=
  rfl

@[simp] theorem file_analyzeUnit (p : Pipeline) (j : Job) :
    (p.analyzeUnit j).file = j.unit.path := by
  rw [analyzeUnit, Engine.analyze]
  split <;> rfl

/-- A unit without tree has nothing to report but that. -/
theorem analyzeUnit_of_error (p : Pipeline) {j : Job} {err : ParseError}
    (hu : j.unit.tree = .error err) :
    p.analyzeUnit j =
      { file := j.unit.path, parseFailure := some err.message,
        metrics := { linesOfCode := j.unit.linesOfCode } } := by
  simp only [analyzeUnit, Engine.analyze, hu]

theorem separate_reports {p : Pipeline} (hp : p.registry.IsStandard) {jobs : List Job}
    (hpaths : (jobs.map (·.unit.path)).Nodup) : Separate (p.reports jobs) where
  own r hr f hf := by
    obtain ⟨j, -, rfl⟩ := List.mem_map.1 hr
    rw [file_analyzeUnit]
    exact Engine.file_of_mem_findings (e := p.engine) hp hf
  distinct := by
    rw [reports, List.map_map]
    simpa only [Function.comp_def, file_analyzeUnit] using hpaths

/-! ## Runs that nobody cancels -/

section Quiet

variable {p : Pipeline} {clock clock' : SourceUnit → Nat → Nat}

/-- A unit that nobody cancels, and how long its walk takes. -/
def quiet (clock : SourceUnit → Nat → Nat) (u : SourceUnit) : Job := ⟨u, fun _ => false, clock u⟩

/-- The summary of a unit that nobody cancels. -/
def summaryOf (p : Pipeline) (clock : SourceUnit → Nat → Nat) (u : SourceUnit) : FileSummary :=
  .ofReport (p.analyzeUnit (quiet clock u))

theorem files_quiet (p : Pipeline) (clock : SourceUnit → Nat → Nat) (units : List SourceUnit)
    (suppressions : List Suppression) :
    (RunReport.ofReports (p.reports (units.map (quiet clock))) suppressions p.gate).summary.files =
      units.map (p.summaryOf clock) := by
  simp only [RunReport.ofReports, reports, List.map_map]
  rfl

theorem map_path_quiet (clock : SourceUnit → Nat → Nat) (units : List SourceUnit) :
    (units.map (quiet clock)).map (·.unit.path) = units.map (·.path) :=
  List.map_map

/-- Without a time limit nobody looks at the clock. -/
theorem analyzeUnit_quiet (h : p.settings.analysis.fileTimeoutMs = none ∨ clock' = clock)
    (u : SourceUnit) : p.analyzeUnit (quiet clock' u) = p.analyzeUnit (quiet clock u) := by
  obtain ht | rfl := h
  · have hstops : ∀ c i, (p.interrupts (quiet c u)).stops i = false := fun c i =>
      Interrupts.stops_of_no_timeout ht i
    exact p.engine.analyze_congr u fun i => (hstops clock' i).trans (hstops clock i).symm
  · rfl

theorem run_quiet (h : p.settings.analysis.fileTimeoutMs = none ∨ clock' = clock)
    (units : List SourceUnit) (suppressions : List Suppression) :
    p.run false (units.map (quiet clock')) suppressions =
      p.run false (units.map (quiet clock)) suppressions := by
  have hreports : p.reports (units.map (quiet clock')) = p.reports (units.map (quiet clock)) := by
    simp only [reports, List.map_map]
    exact List.map_congr_left fun u _ => analyzeUnit_quiet h u
  rw [run_eq_reports, run_eq_reports, hreports]

/-- A further unit changes nothing in what is reported on the others. -/
theorem findings_insert (hp : p.registry.IsStandard) {before after : List SourceUnit}
    {u : SourceUnit} (hpaths : ((before ++ u :: after).map (·.path)).Nodup)
    (clock : SourceUnit → Nat → Nat) (suppressions : List Suppression) :
    let without := p.reports ((before ++ after).map (quiet clock))
    let within := p.reports ((before ++ u :: after).map (quiet clock))
    (aggregate (within.flatMap (·.findings)) suppressions).findings.filter
        (fun f => f.file != u.path) =
      (aggregate (without.flatMap (·.findings)) suppressions).findings := by
  intro without within
  have hnodup := nodup_map_middle.1 hpaths
  have hwithin : Separate within := separate_reports hp (by rwa [map_path_quiet])
  have hwithout : Separate without := separate_reports hp (by rw [map_path_quiet]; exact hnodup.2)
  -- Both lists of reports hold the same reports on other files.
  have hkept : ∀ f : Finding, f.file ≠ u.path →
      keptOf (within.flatMap (·.findings)) suppressions f.key =
        keptOf (without.flatMap (·.findings)) suppressions f.key := by
    intro f hfile
    refine hwithout.keptOf_reports_congr hwithin fun r hr => ?_
    have hne : r ≠ p.analyzeUnit (quiet clock u) := by
      rintro rfl
      exact hfile (hr.symm.trans (p.file_analyzeUnit _))
    simp [within, without, reports, hne]
  refine Finding.eq_of_mem_iff ((findings_ordered _ _).filter _) (findings_ordered _ _) fun f => ?_
  rw [List.mem_filter, mem_findings_iff, mem_findings_iff, bne_iff_ne]
  constructor
  · rintro ⟨hf, hfile⟩
    rwa [← hkept f hfile]
  · intro hf
    have hfile : f.file ≠ u.path := by
      obtain ⟨r, hr, hfr⟩ := List.mem_flatMap.1 (mem_of_keptOf hf).1
      obtain ⟨_, hjob, rfl⟩ := List.mem_map.1 hr
      obtain ⟨v, hv, rfl⟩ := List.mem_map.1 hjob
      have hown : f.file = v.path :=
        (hwithout.own _ hr f hfr).trans (p.file_analyzeUnit (quiet clock v))
      rintro hpath
      exact hnodup.1 (List.mem_map.2 ⟨v, hv, hown.symm.trans hpath⟩)
    exact ⟨(hkept f hfile).trans hf, hfile⟩

/-- **Files of a run do not see each other.** Take a run that nobody cancels, with a standard
registry and over units with different paths. In any other order of the units the findings and the
numbers are the same, and the summaries of the files are in the order of the units. A further unit,
put anywhere, leaves the findings in the other files as they are; one without tree leaves all
findings and all numbers as they are, and its summary says why. Without a time limit, all of this
is so however long the walks of either run take; with one, as long as each file takes its time in
both. -/
theorem run_separates_files (hp : p.registry.IsStandard) {units : List SourceUnit}
    (hpaths : (units.map (·.path)).Nodup) (clock : SourceUnit → Nat → Nat)
    (suppressions : List Suppression) :
    ∃ report, p.run false (units.map (quiet clock)) suppressions = .ok report ∧
      report.summary.files = units.map (p.summaryOf clock) ∧
      ∀ clock', p.settings.analysis.fileTimeoutMs = none ∨ clock' = clock →
        (∀ units' : List SourceUnit, units'.Perm units →
          ∃ report', p.run false (units'.map (quiet clock')) suppressions = .ok report' ∧
            report'.findings = report.findings ∧
            report'.summary.metrics = report.summary.metrics ∧
            report'.summary.files = units'.map (p.summaryOf clock)) ∧
        ∀ (before after : List SourceUnit) (u : SourceUnit), before ++ after = units →
          u.path ∉ units.map (·.path) →
          ∃ report', p.run false ((before ++ u :: after).map (quiet clock')) suppressions =
              .ok report' ∧
            report'.findings.filter (fun f => f.file != u.path) = report.findings ∧
            report'.summary.files =
              before.map (p.summaryOf clock) ++ p.summaryOf clock u ::
                after.map (p.summaryOf clock) ∧
            ∀ err, u.tree = .error err →
              report'.findings = report.findings ∧
              report'.summary.metrics = report.summary.metrics ∧
              p.summaryOf clock u =
                { file := u.path, truncated := false, parseFailure := some err.message,
                  linesOfCode := u.linesOfCode, cyclomaticComplexity := 0 } := by
  refine ⟨_, p.run_eq_reports _ _, p.files_quiet clock units suppressions,
    fun clock' hclock => ⟨?_, ?_⟩⟩
  · intro units' hperm
    have hseparate : Separate (p.reports (units.map (quiet clock))) :=
      separate_reports hp (by rwa [map_path_quiet])
    have hall := hseparate.aggregate_perm ((hperm.map (quiet clock)).map _) suppressions
    exact ⟨_, (run_quiet hclock units' suppressions).trans (p.run_eq_reports _ _),
      congrArg Aggregated.findings hall, congrArg Aggregated.metrics hall,
      p.files_quiet clock units' suppressions⟩
  · rintro before after u rfl hfresh
    have hnodup : ((before ++ u :: after).map (·.path)).Nodup :=
      nodup_map_middle.2 ⟨hfresh, hpaths⟩
    refine ⟨_, (run_quiet hclock _ suppressions).trans (p.run_eq_reports _ _),
      findings_insert hp hnodup clock suppressions, ?_, ?_⟩
    · rw [files_quiet, List.map_append, List.map_cons]
    · intro err hu
      have hreport := p.analyzeUnit_of_error (j := quiet clock u) hu
      have hraw : (p.reports ((before ++ u :: after).map (quiet clock))).flatMap (·.findings) =
          (p.reports ((before ++ after).map (quiet clock))).flatMap (·.findings) := by
        simp [reports, hreport]
      refine ⟨?_, ?_, ?_⟩
      · exact congrArg (fun raw => (aggregate raw suppressions).findings) hraw
      · exact congrArg (fun raw => (aggregate raw suppressions).metrics) hraw
      · rw [summaryOf, hreport]
        rfl

end Quiet

/-- A pipeline with all built-in detectors. -/
def plain : Pipeline := ⟨.plain, { rules := Registry.plainRules }, .high⟩

/-- A file that evaluates what it is given. -/
def evalUnit (path : String) : SourceUnit :=
  .parsed path "eval(x)"
    { Node.callOf "eval" ⟨1, 1, 1, 8⟩ with
      children := [(.argument, .ident "x" ⟨1, 6, 1, 7⟩)] }

/-- A file that is cut off. -/
def cutUnit : SourceUnit := .failed "b.js" "eval(" (.malformedTree "b.js" "cut off")

/-- A clock on which the walk over each file takes its time. -/
def steadyClock (u : SourceUnit) (i : Nat) : Nat := (u.path.length + 1) * i

/-- Two files in both orders, and with a third one between them that has no tree; in the further
run no time passes. -/
theorem run_separates_files_pair :
    plain.registry.IsStandard ∧
    ([evalUnit "a.js", evalUnit "c.js"].map (·.path)).Nodup ∧
    plain.settings.analysis.fileTimeoutMs = none ∧
    ∃ report swapped further,
      plain.run false (List.map (quiet steadyClock) [evalUnit "a.js", evalUnit "c.js"]) [] =
        .ok report ∧
      plain.run false (List.map (quiet steadyClock) [evalUnit "c.js", evalUnit "a.js"]) [] =
        .ok swapped ∧
      plain.run false
          (List.map (quiet fun _ _ => 0) [evalUnit "a.js", cutUnit, evalUnit "c.js"]) [] =
        .ok further ∧
      report.findings.map (fun f => (f.file, f.ruleId)) =
        [("a.js", "security/dangerous-eval"), ("c.js", "security/dangerous-eval")] ∧
      swapped.findings = report.findings ∧ further.findings = report.findings ∧
      further.summary.failedFiles = ["b.js"] := by
  have hpaths : ([evalUnit "a.js", evalUnit "c.js"].map (·.path)).Nodup := by decide +kernel
  have hp : plain.registry.IsStandard := Registry.isStandard_plain
  obtain ⟨report, hrun, -, hother⟩ := run_separates_files hp hpaths steadyClock []
  obtain ⟨swapped, hswapped, hsame, -⟩ :=
    (hother steadyClock (.inr rfl)).1 [evalUnit "c.js", evalUnit "a.js"] (List.Perm.swap _ _ _)
  obtain ⟨further, hfurther, -, hfiles, hfailed⟩ :=
    (hother (fun _ _ => 0) (.inl rfl)).2 [evalUnit "a.js"] [evalUnit "c.js"] cutUnit rfl
      (by decide +kernel)
  refine ⟨hp, hpaths, rfl, report, swapped, further, hrun, hswapped, hfurther, ?_, hsame,
    (hfailed _ rfl).1, ?_⟩
  · -- The raw findings are in order and without repeats already.
    obtain rfl := Except.ok.inj (hrun.symm.trans (plain.run_eq_reports _ _))
    have hraw : (aggregate (plain.rawFindings
          (List.map (quiet steadyClock) [evalUnit "a.js", evalUnit "c.js"])) []).findings =
        plain.rawFindings (List.map (quiet steadyClock) [evalUnit "a.js", evalUnit "c.js"]) :=
      findings_eq_of_perm (by decide +kernel) (by decide +kernel)
    refine (congrArg (List.map _) hraw).trans ?_
    decide +kernel
  · rw [RunSummary.failedFiles, hfiles]
    decide +kernel

end Pipeline

end TreeLint
