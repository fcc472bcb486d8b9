import Mathlib.Data.List.Count
import TreeLint.Proofs.Aggregate
import TreeLint.Proofs.ReportOrder
import TreeLint.Report.Run

/-!
# The final list and its numbers

Aggregation leaves out what is suppressed, drops repeats and sorts. Seen from one key, all of this
is one question: which finding, if any, stands for the key in the final list? The answer is
`keptOf`, the first raw finding with the key that no suppression covers, and it decides the list:

* `mem_findings_iff`: a finding is in the list iff it is the one kept of its key, and
* `findings_congr`: inputs that keep the same finding of every key have the same final list.

Suppressions look at nothing but the key (`keptOf_eq`), so a suppression hides either all repeats
of a finding or none.

**The list and its numbers.** The final list is strictly increasing and without repeats, has
exactly the keys that some raw finding has outside of all suppressions, and holds the first such
finding of each. Its metrics are the exact counts, and a run fails iff the list holds a finding at
or above the gate.
-/

namespace TreeLint

variable {raw raw' : List Finding} {suppressions suppressions' : List Suppression}
  {key : Finding.Key} {f : Finding}

/-! ## The finding kept of a key -/

/-- The finding kept of a key: the first raw finding with the key that no suppression covers. -/
def keptOf (raw : List Finding) (suppressions : List Suppression) (key : Finding.Key) :
    Option Finding :=
  (raw.filter fun f => !isSuppressed suppressions f).find? (·.key == key)

/-- The final list holds what is kept of its keys. -/
theorem mem_findings_iff :
    f ∈ (aggregate raw suppressions).findings ↔ keptOf raw suppressions f.key = some f :=
  mem_aggregate_iff

/-- A condition on keys leaves all findings with a key or none, and so the first one in place. -/
theorem find?_filter_key (p : Finding.Key → Bool) (raw : List Finding) (key : Finding.Key) :
    (raw.filter fun f => p f.key).find? (·.key == key) =
      if p key then raw.find? (·.key == key) else none := by
  have hkey : ∀ f : Finding, decide (p f.key = true ∧ (f.key == key) = true) =
      (p key && f.key == key) := by
    intro f
    by_cases h : f.key = key <;> simp [h]
  simp only [List.find?_filter, hkey]
  split_ifs with h <;> simp [h]

/-- Suppressions cover all findings with a key or none. -/
theorem keptOf_eq (raw : List Finding) (suppressions : List Suppression) (key : Finding.Key) :
    keptOf raw suppressions key =
      if suppressions.any (·.coversKey key) then none else raw.find? (·.key == key) := by
  refine (find?_filter_key (fun k => !suppressions.any (·.coversKey k)) raw key).trans ?_
  cases suppressions.any (·.coversKey key) <;> rfl

theorem keptOf_cons (f : Finding) (raw : List Finding) (suppressions : List Suppression)
    (key : Finding.Key) :
    keptOf (f :: raw) suppressions key =
      if isSuppressed suppressions f = false ∧ f.key = key then some f
      else keptOf raw suppressions key := by
  rw [keptOf, keptOf, List.filter_cons]
  cases isSuppressed suppressions f with
  | true => simp
  | false => by_cases h : f.key = key <;> simp [h]

theorem keptOf_append (a b : List Finding) (suppressions : List Suppression) (key : Finding.Key) :
    keptOf (a ++ b) suppressions key =
      (keptOf a suppressions key).or (keptOf b suppressions key) := by
  rw [keptOf, List.filter_append, List.find?_append, keptOf, keptOf]

theorem key_of_keptOf (h : keptOf raw suppressions key = some f) : f.key = key := by
  simpa using List.find?_some h

theorem mem_of_keptOf (h : keptOf raw suppressions key = some f) :
    f ∈ raw ∧ isSuppressed suppressions f = false := by
  simpa using List.mem_filter.1 (List.mem_of_find?_eq_some h)

theorem mem_findings_of_keptOf (h : keptOf raw suppressions key = some f) :
    f ∈ (aggregate raw suppressions).findings := by
  rw [mem_findings_iff, key_of_keptOf h, h]

theorem exists_keptOf (hf : f ∈ raw) (hs : isSuppressed suppressions f = false) :
    ∃ g, keptOf raw suppressions f.key = some g := by
  have hmem : f ∈ raw.filter fun g => !isSuppressed suppressions g :=
    List.mem_filter.2 ⟨hf, by rw [hs]; rfl⟩
  exact Option.isSome_iff_exists.1 (List.find?_isSome.2 ⟨f, hmem, beq_self_eq_true f.key⟩)

/-! ## The list -/

theorem keys_nodup_firsts (seen : List Finding.Key) (fs : List Finding) :
    ((firsts seen fs).map (·.key)).Nodup := by
  induction fs generalizing seen with
  | nil => simp [firsts]
  | cons g fs ih =>
    rw [firsts]
    split_ifs with h
    · exact ih seen
    · -- Behind `g` its key counts as seen.
      refine List.nodup_cons.2 ⟨fun hg => ?_, ih (g.key :: seen)⟩
      obtain ⟨f, hf, hkey⟩ := List.mem_map.1 hg
      exact (mem_firsts_iff.1 hf).1 (hkey ▸ List.mem_cons_self)

theorem firsts_sublist (seen : List Finding.Key) (fs : List Finding) :
    (firsts seen fs).Sublist fs := by
  induction fs generalizing seen with
  | nil => simp [firsts]
  | cons g fs ih =>
    rw [firsts]
    split_ifs with h
    · exact (ih seen).cons g
    · exact (ih (g.key :: seen)).cons_cons g

theorem keys_nodup_findings (raw : List Finding) (suppressions : List Suppression) :
    ((aggregate raw suppressions).findings.map (·.key)).Nodup :=
  ((List.mergeSort_perm _ _).map _).nodup_iff.2 (keys_nodup_firsts _ _)

/-- The final list is strictly increasing: sorting leaves ties only between repeats. -/
theorem findings_ordered (raw : List Finding) (suppressions : List Suppression) :
    (aggregate raw suppressions).findings.Pairwise fun f g => f.order g = .lt := by
  have hsorted : (aggregate raw suppressions).findings.Pairwise fun f g => f.ble g = true :=
    List.pairwise_mergeSort Finding.ble_trans Finding.ble_total _
  have hkeys := List.pairwise_map.1 (keys_nodup_findings raw suppressions)
  exact hsorted.imp₂ (fun _ _ => Finding.order_lt_of_ble) hkeys

/-- The final list depends only on what is kept of each key. -/
theorem findings_congr
    (h : ∀ key, keptOf raw suppressions key = keptOf raw' suppressions' key) :
    (aggregate raw suppressions).findings = (aggregate raw' suppressions').findings := by
  refine Finding.eq_of_mem_iff (findings_ordered _ _) (findings_ordered _ _) fun f => ?_
  rw [mem_findings_iff, mem_findings_iff, h]

/-- A list in the order of reports is the final list if it holds the same findings. -/
theorem findings_eq_of_perm {fs : List Finding} (hfs : fs.Pairwise fun f g => f.order g = .lt)
    (h : fs.Perm (firsts [] (raw.filter fun f => !isSuppressed suppressions f))) :
    (aggregate raw suppressions).findings = fs := by
  refine Finding.eq_of_mem_iff (findings_ordered _ _) hfs fun f => ?_
  rw [aggregate, List.mem_mergeSort, h.mem_iff]

theorem filter_key_findings (raw : List Finding) (suppressions : List Suppression)
    (key : Finding.Key) :
    (aggregate raw suppressions).findings.filter (·.key == key) =
      (keptOf raw suppressions key).toList := by
  have hordered : (keptOf raw suppressions key).toList.Pairwise fun f g => f.order g = .lt := by
    cases keptOf raw suppressions key <;> simp
  refine Finding.eq_of_mem_iff ((findings_ordered _ _).filter _) hordered fun f => ?_
  rw [List.mem_filter, mem_findings_iff, beq_iff_eq, Option.mem_toList]
  constructor
  · rintro ⟨hf, rfl⟩
    exact hf
  · intro hf
    have hkey := key_of_keptOf hf
    exact ⟨hkey ▸ hf, hkey⟩

theorem find?_findings (raw : List Finding) (suppressions : List Suppression)
    (key : Finding.Key) :
    (aggregate raw suppressions).findings.find? (·.key == key) = keptOf raw suppressions key := by
  rw [← List.head?_filter, filter_key_findings]
  cases keptOf raw suppressions key <;> rfl

/-- What the final list of some raw findings is, without mention of how it is made. -/
structure IsFinal (raw : List Finding) (suppressions : List Suppression) (fs : List Finding) :
    Prop where
  /-- The list strictly increases in the order of reports. -/
  ordered : fs.Pairwise fun f g => f.order g = .lt
  /-- No two findings of the list are repeats of each other. -/
  distinct : (fs.map (·.key)).Nodup
  /-- A key is in the list iff some raw finding with it is covered by no suppression. -/
  keys : ∀ key, key ∈ fs.map (·.key) ↔
    ∃ f ∈ raw, f.key = key ∧ ∀ s ∈ suppressions, s.covers f = false
  /-- Each finding of the list is the first with its key that no suppression covers. -/
  first : ∀ f ∈ fs, (∀ s ∈ suppressions, s.covers f = false) ∧
    ∃ before after, raw = before ++ f :: after ∧
      ∀ g ∈ before, g.key = f.key → ∃ s ∈ suppressions, s.covers g = true

theorem isSuppressed_eq_false_iff :
    isSuppressed suppressions f = false ↔ ∀ s ∈ suppressions, s.covers f = false := by
  simp [isSuppressed]

theorem mem_keys_findings_iff :
    key ∈ (aggregate raw suppressions).findings.map (·.key) ↔
      ∃ f ∈ raw, f.key = key ∧ ∀ s ∈ suppressions, s.covers f = false := by
  constructor
  · intro hkey
    obtain ⟨f, hf, rfl⟩ := List.mem_map.1 hkey
    obtain ⟨hraw, hs⟩ := mem_of_keptOf (mem_findings_iff.1 hf)
    exact ⟨f, hraw, rfl, isSuppressed_eq_false_iff.1 hs⟩
  · rintro ⟨f, hf, rfl, hs⟩
    obtain ⟨g, hg⟩ := exists_keptOf hf (isSuppressed_eq_false_iff.2 hs)
    exact List.mem_map.2 ⟨g, mem_findings_of_keptOf hg, key_of_keptOf hg⟩

/-- What is kept of a key stands before all other candidates. -/
theorem keptOf_first (h : keptOf raw suppressions key = some f) :
    ∃ before after, raw = before ++ f :: after ∧
      ∀ g ∈ before, g.key = key → ∃ s ∈ suppressions, s.covers g = true := by
  rw [keptOf, List.find?_filter] at h
  obtain ⟨-, before, after, rfl, hbefore⟩ := List.find?_eq_some_iff_append.1 h
  refine ⟨before, after, rfl, fun g hg hkey => ?_⟩
  have hs : isSuppressed suppressions g = true := by simpa [hkey] using hbefore g hg
  simpa [isSuppressed] using hs

theorem isFinal_findings (raw : List Finding) (suppressions : List Suppression) :
    IsFinal raw suppressions (aggregate raw suppressions).findings where
  ordered := findings_ordered raw suppressions
  distinct := keys_nodup_findings raw suppressions
  keys _ := mem_keys_findings_iff
  first _ hf :=
    have hkept := mem_findings_iff.1 hf
    ⟨isSuppressed_eq_false_iff.1 (mem_of_keptOf hkept).2, keptOf_first hkept⟩

/-! ## The numbers -/

@[simp] theorem SeverityCounts.get_ofFindings (fs : List Finding) (s : Severity) :
    (SeverityCounts.ofFindings fs).get s = fs.countP (·.severity == s) := by
  cases s <;> rfl

@[simp] theorem CategoryCounts.get_ofFindings (fs : List Finding) (c : Category) :
    (CategoryCounts.ofFindings fs).get c = fs.countP (·.category == c) := by
  cases c <;> rfl

theorem Severity.all_nodup : Severity.all.Nodup := by decide

theorem Severity.mem_all (s : Severity) : s ∈ Severity.all := by cases s <;> decide

theorem Category.all_nodup : Category.all.Nodup := by decide

theorem Category.mem_all (c : Category) : c ∈ Category.all := by cases c <;> decide

theorem sum_countP {α β : Type*} [DecidableEq β] (p : α → β) {bs : List β} (hbs : bs.Nodup)
    (xs : List α) :
    bs.foldr (fun b n => xs.countP (p · == b) + n) 0 = xs.countP fun x => decide (p x ∈ bs) := by
  induction bs with
  | nil => simp
  | cons b bs ih =>
    obtain ⟨hb, hbs⟩ := List.nodup_cons.1 hbs
    rw [List.foldr_cons, ih hbs,
      List.countP_eq_countP_filter_add xs (fun x => decide (p x ∈ b :: bs)) (p · == b),
      List.countP_filter, List.countP_filter]
    congr 1
    · refine List.countP_congr fun x _ => ?_
      by_cases h : p x = b <;> simp [h]
    · refine List.countP_congr fun x _ => ?_
      by_cases h : p x = b <;> simp [h, hb]

theorem sum_countP_eq_length {α β : Type*} [DecidableEq β] (p : α → β) {bs : List β}
    (hbs : bs.Nodup) (hall : ∀ b, b ∈ bs) (xs : List α) :
    bs.foldr (fun b n => xs.countP (p · == b) + n) 0 = xs.length := by
  rw [sum_countP p hbs, List.countP_eq_length]
  exact fun x _ => decide_eq_true (hall (p x))

theorem SeverityCounts.sum_ofFindings (fs : List Finding) :
    Severity.all.foldr (fun s n => (SeverityCounts.ofFindings fs).get s + n) 0 = fs.length := by
  rw [← sum_countP_eq_length Finding.severity Severity.all_nodup Severity.mem_all fs]
  simp only [get_ofFindings]

theorem CategoryCounts.sum_ofFindings (fs : List Finding) :
    Category.all.foldr (fun c n => (CategoryCounts.ofFindings fs).get c + n) 0 = fs.length := by
  rw [← sum_countP_eq_length Finding.category Category.all_nodup Category.mem_all fs]
  simp only [get_ofFindings]

theorem Metrics.atOrAbove_eq {m : Metrics} {fs : List Finding} (h : m.bySeverity = .ofFindings fs)
    (gate : Severity) : m.atOrAbove gate = fs.countP fun f => gate.rank ≤ f.severity.rank := by
  have hall : (Severity.all.filter fun s => gate.rank ≤ s.rank).Nodup :=
    List.filter_sublist.nodup Severity.all_nodup
  have hsum := sum_countP Finding.severity hall fs
  simp only [List.mem_filter, Severity.mem_all, true_and, decide_eq_true_eq] at hsum
  rw [← hsum, atOrAbove]
  simp only [h, SeverityCounts.get_ofFindings]

/-- A run fails iff it holds a finding at or above the gate. -/
theorem RunSummary.status_eq_gateFailed_iff {s : RunSummary} {fs : List Finding}
    (h : s.metrics.bySeverity = .ofFindings fs) :
    s.status = .gateFailed ↔ ∃ f ∈ fs, s.gate.rank ≤ f.severity.rank := by
  have hpos : 0 < s.metrics.atOrAbove s.gate ↔ ∃ f ∈ fs, s.gate.rank ≤ f.severity.rank := by
    rw [Metrics.atOrAbove_eq h, List.countP_pos_iff]
    simp only [decide_eq_true_eq]
  rw [← hpos, status]
  split_ifs with hgate <;> simp [hgate]

/-- The numbers of a final list `fs` that is made from `raw`. -/
structure Metrics.IsCountOf (m : Metrics) (raw : List Finding) (suppressions : List Suppression)
    (fs : List Finding) : Prop where
  total : m.total = fs.length
  /-- A raw finding is reported, a repeat or suppressed. -/
  balance : m.total + m.duplicatesRemoved + m.suppressed = raw.length
  suppressed : m.suppressed = raw.countP fun f => suppressions.any (·.covers f)
  bySeverity : ∀ s, m.bySeverity.get s = fs.countP (·.severity == s)
  sum_bySeverity : Severity.all.foldr (fun s n => m.bySeverity.get s + n) 0 = m.total
  byCategory : ∀ c, m.byCategory.get c = fs.countP (·.category == c)
  sum_byCategory : Category.all.foldr (fun c n => m.byCategory.get c + n) 0 = m.total
  atOrAbove : ∀ gate, m.atOrAbove gate = fs.countP fun f => gate.rank ≤ f.severity.rank

theorem length_filter_unsuppressed (raw : List Finding) (suppressions : List Suppression) :
    raw.countP (isSuppressed suppressions) +
      (raw.filter fun f => !isSuppressed suppressions f).length = raw.length := by
  rw [← List.countP_eq_length_filter, List.length_eq_countP_add_countP (isSuppressed suppressions)]
  simp only [Bool.not_eq_true, Bool.decide_eq_false]

theorem suppressed_eq_countP (raw : List Finding) (suppressions : List Suppression) :
    (aggregate raw suppressions).metrics.suppressed = raw.countP (isSuppressed suppressions) := by
  have hlength := length_filter_unsuppressed raw suppressions
  simp only [aggregate]
  omega

theorem metrics_balance (raw : List Finding) (suppressions : List Suppression) :
    (aggregate raw suppressions).metrics.total +
      (aggregate raw suppressions).metrics.duplicatesRemoved +
      (aggregate raw suppressions).metrics.suppressed = raw.length := by
  have hlength := length_filter_unsuppressed raw suppressions
  have hfirsts := (firsts_sublist [] (raw.filter fun f => !isSuppressed suppressions f)).length_le
  simp only [aggregate, List.length_mergeSort]
  omega

theorem isCountOf_metrics (raw : List Finding) (suppressions : List Suppression) :
    (aggregate raw suppressions).metrics.IsCountOf raw suppressions
      (aggregate raw suppressions).findings where
  total := rfl
  balance := metrics_balance raw suppressions
  suppressed := suppressed_eq_countP raw suppressions
  bySeverity s := SeverityCounts.get_ofFindings _ s
  sum_bySeverity := SeverityCounts.sum_ofFindings _
  byCategory c := CategoryCounts.get_ofFindings _ c
  sum_byCategory := CategoryCounts.sum_ofFindings _
  atOrAbove := Metrics.atOrAbove_eq rfl

/-- **The final list and its numbers.** The final list of any raw findings under any suppressions
is as `IsFinal` says, its metrics are its exact counts, and a run with these metrics fails iff the
list holds a finding at or above the gate. -/
theorem aggregate_isFinal (raw : List Finding) (suppressions : List Suppression) :
    IsFinal raw suppressions (aggregate raw suppressions).findings ∧
    (aggregate raw suppressions).metrics.IsCountOf raw suppressions
      (aggregate raw suppressions).findings ∧
    ∀ (files : List FileSummary) (gate : Severity),
      RunSummary.status ⟨(aggregate raw suppressions).metrics, files, gate⟩ = .gateFailed ↔
        ∃ f ∈ (aggregate raw suppressions).findings, gate.rank ≤ f.severity.rank :=
  ⟨isFinal_findings raw suppressions, isCountOf_metrics raw suppressions, fun _ _ =>
    RunSummary.status_eq_gateFailed_iff rfl⟩

end TreeLint
