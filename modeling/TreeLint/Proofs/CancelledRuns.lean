import TreeLint.Proofs.FileIndependence

/-!
# Runs that are cancelled on the way

Cancelling a run stops the walks over its files, each wherever it happens to be. The files share
one token, but how far each of them has come by then is left to the schedule. So nothing is assumed
here about the answers that the walks hear: each walk has its own, and stops at the first yes.

**Theorem.** With a standard registry and different paths, the final list of a run that is cancelled
is a sublist of the final list of the whole run, for any answers. A cancelled run reports less, but
nothing else and in no other order.

A time limit stops walks too, also those of the whole run. With one, the whole run is compared with
at a pace at which no file comes to its nodes later than in the cancelled run.

The findings of each file are a prefix of those of the whole file (`findings_prefix`), and the
first finding with a key stays the first when the file goes on. As no two files compete for a key,
what a cancelled run keeps is kept by the whole run (`keptOf_whole`), and the order of reports
does the rest.
-/

namespace TreeLint

/-- The number of nodes of the tree; a unit without tree has none. -/
def SourceUnit.size (u : SourceUnit) : Nat := u.root?.elim 0 Node.size

/-- In the order of reports, a list is a sublist of another if all its findings are there. -/
theorem Finding.sublist_of_subset {fs gs : List Finding}
    (hfs : fs.Pairwise fun f g => f.order g = .lt) (hgs : gs.Pairwise fun f g => f.order g = .lt)
    (h : fs ⊆ gs) : fs.Sublist gs := by
  have hfilter : gs.filter (· ∈ fs) = fs := by
    refine eq_of_mem_iff (hgs.filter _) hfs fun f => ?_
    rw [List.mem_filter, decide_eq_true_eq]
    exact ⟨And.right, fun hf => ⟨h hf, hf⟩⟩
  rw [← hfilter]
  exact List.filter_sublist

namespace Pipeline

variable {p : Pipeline} {jobs : List Job} {clock : SourceUnit → Nat → Nat}
  {suppressions : List Suppression}

/-! ## One file -/

/-- Where the walk of a job stops: before the first node at which the answer is yes, or at the
end. -/
theorem exists_stop (p : Pipeline) (j : Job) :
    ∃ k ≤ j.unit.size, (p.analyzeUnit j).metrics.nodeCount = k ∧
      ((p.analyzeUnit j).truncated = true ↔ k < j.unit.size) ∧
      (∀ i < k, (p.interrupts j).stops i = false) ∧
      (k < j.unit.size → (p.interrupts j).stops k = true) := by
  cases hu : j.unit.tree with
  | error err =>
    have hsize : j.unit.size = 0 := by
      simp [SourceUnit.size, SourceUnit.root?, hu, Except.toOption]
    rw [analyzeUnit_of_error p hu, hsize]
    exact ⟨0, le_rfl, rfl, by simp, by simp, by simp⟩
  | ok root =>
    have hsize : j.unit.size = root.size := by
      simp [SourceUnit.size, SourceUnit.root?, hu, Except.toOption]
    obtain ⟨k, hk, hno, hyes⟩ := (p.interrupts j).exists_first_stop root.size
    have hreport : p.analyzeUnit j =
        p.engine.reportOn j.unit (root.visits.take k) (decide (k < root.size)) :=
      p.engine.analyze_eq_take hu hno hyes
    have hlength : (root.visits.take k).length = k :=
      List.length_take_of_le (by rwa [Node.length_visits])
    rw [hreport, hsize]
    exact ⟨k, hk, hlength, decide_eq_true_iff, hno, hyes⟩

/-- Without a time limit, a walk visits as many nodes as there are answers no before the first
yes. -/
theorem nodeCount_of_no_timeout (ht : p.settings.analysis.fileTimeoutMs = none) (j : Job) :
    ((p.analyzeUnit j).metrics.nodeCount : ℕ∞) = min (p.interrupts j).patience j.unit.size := by
  obtain ⟨k, hk, hcount, -, hno, hyes⟩ := p.exists_stop j
  have hstops : ∀ i, (p.interrupts j).stops i = (p.interrupts j).cancelled i :=
    Interrupts.stops_of_no_timeout ht
  simp only [hstops] at hno hyes
  have hle : (k : ℕ∞) ≤ (p.interrupts j).patience := Interrupts.le_patience_iff.2 hno
  rw [hcount]
  by_cases hlt : k < j.unit.size
  · have hpatience : (p.interrupts j).patience = k :=
      Interrupts.patience_eq_iff.2 ⟨hyes hlt, hno⟩
    rw [hpatience, min_eq_left (by exact_mod_cast hk)]
  · obtain rfl : k = j.unit.size := by omega
    rw [min_eq_right hle]

/-- Whatever the time limit stops when nobody cancels, it stops otherwise. -/
theorem stops_of_stops_quiet {j : Job}
    (hclock : p.settings.analysis.fileTimeoutMs = none ∨ ∀ i, clock j.unit i ≤ j.elapsedMs i)
    {i : Nat} (h : (p.interrupts (quiet clock j.unit)).stops i = true) :
    (p.interrupts j).stops i = true := by
  simp only [Interrupts.stops, interrupts, quiet, Bool.false_or, Bool.or_eq_true] at h ⊢
  obtain ht | hle := hclock
  · simp [ht] at h
  · rw [Option.any_eq_true] at h ⊢
    obtain ⟨limit, hlimit, hreached⟩ := h
    have hlate : limit ≤ clock j.unit i := of_decide_eq_true hreached
    exact .inr ⟨limit, hlimit, decide_eq_true (hlate.trans (hle i))⟩

/-- A walk that is stopped more often finds no more. -/
theorem findings_prefix {j : Job}
    (hclock : p.settings.analysis.fileTimeoutMs = none ∨ ∀ i, clock j.unit i ≤ j.elapsedMs i) :
    (p.analyzeUnit j).findings <+: (p.analyzeUnit (quiet clock j.unit)).findings := by
  cases hu : j.unit.tree with
  | error err =>
    rw [analyzeUnit_of_error p hu, analyzeUnit_of_error p (j := quiet clock j.unit) hu]
  | ok root =>
    obtain ⟨k, hk, hno, hyes⟩ := (p.interrupts j).exists_first_stop root.size
    obtain ⟨k', hk', hno', hyes'⟩ :=
      (p.interrupts (quiet clock j.unit)).exists_first_stop root.size
    have hle : k ≤ k' := by
      by_contra hlt
      have hstop := stops_of_stops_quiet hclock (hyes' (by omega))
      rw [hno k' (by omega)] at hstop
      exact Bool.false_ne_true hstop
    have htake : root.visits.take k = (root.visits.take k').take k := by
      rw [List.take_take, min_eq_left hle]
    rw [analyzeUnit, analyzeUnit, p.engine.analyze_eq_take hu hno hyes,
      p.engine.analyze_eq_take (u := (quiet clock j.unit).unit) hu hno' hyes', htake]
    exact p.engine.findings_take_prefix j.unit (root.visits.take k') k _ _

/-! ## The whole run -/

section Whole

variable (hp : p.registry.IsStandard) (hpaths : (jobs.map (·.unit.path)).Nodup)
  (hclock : p.settings.analysis.fileTimeoutMs = none ∨
    ∀ j ∈ jobs, ∀ i, clock j.unit i ≤ j.elapsedMs i)

include hclock in
theorem findings_prefix_of_mem {j : Job} (hj : j ∈ jobs) :
    (p.analyzeUnit j).findings <+: (p.analyzeUnit (quiet clock j.unit)).findings :=
  findings_prefix (hclock.imp_right fun h => h j hj)

include hp hpaths hclock in
/-- What a cancelled run keeps of a key, the whole run keeps too: the report on the file of the key
goes on, and its first finding with the key stays the first. -/
theorem keptOf_whole {key : Finding.Key} {f : Finding}
    (h : keptOf ((p.reports jobs).flatMap (·.findings)) suppressions key = some f) :
    keptOf ((p.reports (jobs.map fun j => quiet clock j.unit)).flatMap (·.findings)) suppressions
      key = some f := by
  have hcut := separate_reports hp hpaths
  have hwhole : Separate (p.reports (jobs.map fun j => quiet clock j.unit)) :=
    separate_reports hp (by rw [List.map_map]; exact hpaths)
  obtain ⟨r, hr, hf⟩ := List.mem_flatMap.1 (mem_of_keptOf h).1
  have hfile : r.file = key.file := by
    rw [← hcut.own r hr f hf, ← key_of_keptOf h]
    rfl
  rw [hcut.keptOf_reports hr hfile] at h
  obtain ⟨j, hj, rfl⟩ := List.mem_map.1 hr
  have hmem : p.analyzeUnit (quiet clock j.unit) ∈
      p.reports (jobs.map fun j => quiet clock j.unit) :=
    List.mem_map_of_mem (List.mem_map_of_mem hj)
  have hfile' : (p.analyzeUnit (quiet clock j.unit)).file = key.file := by
    rwa [file_analyzeUnit, quiet, ← p.file_analyzeUnit j]
  obtain ⟨rest, hrest⟩ := findings_prefix_of_mem hclock hj
  rw [hwhole.keptOf_reports hmem hfile', ← hrest, keptOf_append, h, Option.some_or]

include hclock in
theorem flatMap_findings_sublist :
    ((p.reports jobs).flatMap (·.findings)).Sublist
      ((p.reports (jobs.map fun j => quiet clock j.unit)).flatMap (·.findings)) := by
  induction jobs with
  | nil => exact List.Sublist.refl _
  | cons j jobs ih =>
    have hrest := ih (hclock.imp_right fun h j' hj' => h j' (List.mem_cons_of_mem j hj'))
    exact (findings_prefix_of_mem hclock List.mem_cons_self).sublist.append hrest

include hp hpaths hclock in
theorem findings_sublist :
    let whole := p.reports (jobs.map fun j => quiet clock j.unit)
    (aggregate ((p.reports jobs).flatMap (·.findings)) suppressions).findings.Sublist
      (aggregate (whole.flatMap (·.findings)) suppressions).findings := by
  intro whole
  refine Finding.sublist_of_subset (findings_ordered _ _) (findings_ordered _ _) fun f hf => ?_
  rw [mem_findings_iff] at hf ⊢
  exact keptOf_whole hp hpaths hclock hf

include hclock in
theorem suppressed_le (suppressions : List Suppression) :
    let whole := p.reports (jobs.map fun j => quiet clock j.unit)
    (aggregate ((p.reports jobs).flatMap (·.findings)) suppressions).metrics.suppressed ≤
      (aggregate (whole.flatMap (·.findings)) suppressions).metrics.suppressed := by
  intro whole
  rw [suppressed_eq_countP, suppressed_eq_countP]
  exact (flatMap_findings_sublist hclock).countP_le

end Whole

/-- **A cancelled run invents nothing.** Let the token be raised while a run with a standard
registry goes on, so that the walk over each file hears answers of its own. The final findings are
a sublist of those of the run that nobody cancels, and no more findings are suppressed. The summary
of a file says that it was cut off iff fewer nodes were visited than there are. Without a time
limit, the number of nodes visited is the number of answers no before the first yes.

Both runs have clocks, which only count where there is a time limit: then the run that nobody
cancels has to be at each node by the time at which the other run is there. -/
theorem run_cancelled_sublist (hp : p.registry.IsStandard)
    (hpaths : (jobs.map (·.unit.path)).Nodup) (clock : SourceUnit → Nat → Nat)
    (hclock : p.settings.analysis.fileTimeoutMs = none ∨
      ∀ j ∈ jobs, ∀ i, clock j.unit i ≤ j.elapsedMs i)
    (suppressions : List Suppression) :
    ∃ cut whole, p.run false jobs suppressions = .ok cut ∧
      p.run false (jobs.map fun j => quiet clock j.unit) suppressions = .ok whole ∧
      cut.findings.Sublist whole.findings ∧
      cut.summary.metrics.suppressed ≤ whole.summary.metrics.suppressed ∧
      cut.summary.files.length = jobs.length ∧
      ∀ (n : ℕ) (j : Job), jobs[n]? = some j →
        ∃ (file : FileSummary) (k : ℕ), cut.summary.files[n]? = some file ∧
          file.file = j.unit.path ∧
          (p.analyzeUnit j).metrics.nodeCount = k ∧
          (file.truncated = true ↔ k < j.unit.size) ∧
          (p.settings.analysis.fileTimeoutMs = none →
            (k : ℕ∞) = min (p.interrupts j).patience j.unit.size) := by
  refine ⟨_, _, p.run_eq_reports _ _, p.run_eq_reports _ _, ?_, ?_, ?_, ?_⟩
  · exact findings_sublist hp hpaths hclock
  · exact suppressed_le hclock suppressions
  · simp [RunReport.ofReports, reports]
  · intro n j hjob
    obtain ⟨k, -, hcount, htruncated, -, -⟩ := p.exists_stop j
    refine ⟨.ofReport (p.analyzeUnit j), k, ?_, p.file_analyzeUnit j, hcount, htruncated,
      fun ht => ?_⟩
    · simp [RunReport.ofReports, reports, hjob]
    · rw [← hcount]
      exact nodeCount_of_no_timeout ht j

/-- Of two files, one is stopped after its first node and one before; the run that nobody cancels
goes on at another pace. -/
theorem run_cancelled_sublist_pair :
    let jobs : List Job :=
      [⟨evalUnit "a.js", fun i => decide (1 ≤ i), fun i => 40 * i⟩,
        ⟨evalUnit "c.js", fun _ => true, fun _ => 0⟩]
    plain.registry.IsStandard ∧ (jobs.map (·.unit.path)).Nodup ∧
    plain.settings.analysis.fileTimeoutMs = none ∧
    ∃ cut whole, plain.run false jobs [] = .ok cut ∧
      plain.run false [quiet steadyClock (evalUnit "a.js"), quiet steadyClock (evalUnit "c.js")]
        [] = .ok whole ∧
      cut.findings.Sublist whole.findings ∧
      cut.findings.map (·.file) = ["a.js"] ∧
      cut.summary.truncatedFiles = ["a.js", "c.js"] := by
  intro jobs
  have hpaths : (jobs.map (·.unit.path)).Nodup := by decide +kernel
  have hp : plain.registry.IsStandard := Registry.isStandard_plain
  have ht : plain.settings.analysis.fileTimeoutMs = none := rfl
  obtain ⟨cut, whole, hcut, hwhole, hsublist, -⟩ :=
    run_cancelled_sublist hp hpaths steadyClock (.inl ht) []
  refine ⟨hp, hpaths, ht, cut, whole, hcut, hwhole, hsublist, ?_, ?_⟩
  · obtain rfl := Except.ok.inj (hcut.symm.trans (plain.run_eq_reports _ _))
    have hraw : (aggregate ((plain.reports jobs).flatMap (·.findings)) []).findings =
        (plain.reports jobs).flatMap (·.findings) :=
      findings_eq_of_perm (by decide +kernel) (by decide +kernel)
    refine (congrArg (List.map _) hraw).trans ?_
    decide +kernel
  · obtain rfl := Except.ok.inj (hcut.symm.trans (plain.run_eq_reports _ _))
    decide +kernel

end Pipeline

end TreeLint
