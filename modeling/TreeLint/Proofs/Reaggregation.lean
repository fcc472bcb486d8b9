import TreeLint.Proofs.FinalList

/-!
# Aggregating in parts

Aggregation can be done in parts: some of the raw findings first, or some of the suppressions
first. Both laws are about the final list as a whole, with every field of its findings.

**Parts of the input.** The final list of a part may stand for the part when the whole is
aggregated, on either side. The part is then sorted and no longer in the order in which it was
found, which does not matter: of each key it still offers the same finding (`keptOf_findings`).

**Parts of the suppressions.** Further suppressions take the findings that they cover out of the
final list and change nothing else. Only which suppressions there are counts, not their order or
how often they are listed, so to remove one is to bring back what it alone has hidden.
-/

namespace TreeLint

variable {raw raw' : List Finding} {suppressions suppressions' : List Suppression}

/-! ## Parts of the input -/

/-- A final list keeps of each key what its raw findings keep. -/
@[simp] theorem keptOf_findings (raw : List Finding) (suppressions : List Suppression)
    (key : Finding.Key) :
    keptOf (aggregate raw suppressions).findings suppressions key =
      keptOf raw suppressions key := by
  rw [keptOf_eq, find?_findings, keptOf_eq]
  split_ifs <;> rfl

theorem counts_congr
    (h : (aggregate raw suppressions).findings = (aggregate raw' suppressions').findings) :
    (aggregate raw suppressions).metrics.total = (aggregate raw' suppressions').metrics.total ∧
    (aggregate raw suppressions).metrics.bySeverity =
      (aggregate raw' suppressions').metrics.bySeverity ∧
    (aggregate raw suppressions).metrics.byCategory =
      (aggregate raw' suppressions').metrics.byCategory :=
  ⟨congrArg List.length h, congrArg SeverityCounts.ofFindings h,
    congrArg CategoryCounts.ofFindings h⟩

theorem suppressed_findings (raw : List Finding) (suppressions : List Suppression) :
    (aggregate (aggregate raw suppressions).findings suppressions).metrics.suppressed = 0 := by
  rw [suppressed_eq_countP, List.countP_eq_zero]
  intro f hf
  rw [(mem_of_keptOf (mem_findings_iff.1 hf)).2]
  exact Bool.false_ne_true

/-- **Aggregation is incremental and idempotent.** A part of the raw findings may be replaced by its
final list, in front or at the end. In particular the final list is its own final list, and
nothing is suppressed or dropped on the way. -/
theorem aggregate_append (a b : List Finding) (suppressions : List Suppression) :
    let whole := aggregate (a ++ b) suppressions
    let front := aggregate ((aggregate a suppressions).findings ++ b) suppressions
    let back := aggregate (a ++ (aggregate b suppressions).findings) suppressions
    let once := aggregate a suppressions
    let twice := aggregate once.findings suppressions
    (front.findings = whole.findings ∧ front.metrics.total = whole.metrics.total ∧
      front.metrics.bySeverity = whole.metrics.bySeverity ∧
      front.metrics.byCategory = whole.metrics.byCategory) ∧
    (back.findings = whole.findings ∧ back.metrics.total = whole.metrics.total ∧
      back.metrics.bySeverity = whole.metrics.bySeverity ∧
      back.metrics.byCategory = whole.metrics.byCategory) ∧
    twice.findings = once.findings ∧ twice.metrics.suppressed = 0 ∧
      twice.metrics.duplicatesRemoved = 0 := by
  intro whole front back once twice
  have hfront : front.findings = whole.findings :=
    findings_congr fun key => by rw [keptOf_append, keptOf_append, keptOf_findings]
  have hback : back.findings = whole.findings :=
    findings_congr fun key => by rw [keptOf_append, keptOf_append, keptOf_findings]
  have htwice : twice.findings = once.findings :=
    findings_congr fun key => keptOf_findings a suppressions key
  have hsuppressed : twice.metrics.suppressed = 0 := suppressed_findings a suppressions
  refine ⟨⟨hfront, counts_congr hfront⟩, ⟨hback, counts_congr hback⟩, htwice, hsuppressed, ?_⟩
  -- As many findings go in as come out, and none of them is suppressed.
  have hbalance : twice.metrics.total + twice.metrics.duplicatesRemoved +
      twice.metrics.suppressed = once.findings.length := metrics_balance _ _
  have htotal : twice.metrics.total = once.findings.length := congrArg List.length htwice
  omega

/-- A finding on one line of a file. -/
def lineFinding (line : UInt32) (message : String) : Finding :=
  { ruleId := "sample/a", severity := .low, category := .quality, file := "a.js",
    span := ⟨line, 1, line, 5⟩, message }

-- A part is sorted before a repeat comes in, which is dropped all the same.
example :
    let part := aggregate [lineFinding 2 "late", lineFinding 1 "early"] []
    let front := aggregate (part.findings ++ [lineFinding 2 "again"]) []
    (part.findings.map (·.message), front.findings.map (·.message),
        front.metrics.duplicatesRemoved) =
      (["early", "late"], ["early", "late"], 1) := by
  cbv

/-! ## Parts of the suppressions -/

theorem isSuppressed_append (s t : List Suppression) (f : Finding) :
    isSuppressed (s ++ t) f = (isSuppressed s f || isSuppressed t f) :=
  List.any_append

/-- What is kept under two lists of suppressions is kept under the first and not covered by the
second. -/
theorem keptOf_append_suppressions {s t : List Suppression} {f : Finding} :
    keptOf raw (s ++ t) f.key = some f ↔
      keptOf raw s f.key = some f ∧ isSuppressed t f = false := by
  have hkey : isSuppressed t f = t.any (·.coversKey f.key) := rfl
  rw [keptOf_eq, keptOf_eq, List.any_append, hkey]
  cases s.any (·.coversKey f.key) <;> cases t.any (·.coversKey f.key) <;> simp

/-- Of the suppressions only their membership counts. -/
theorem aggregate_congr_suppressions (h : ∀ s, s ∈ suppressions ↔ s ∈ suppressions') :
    aggregate raw suppressions = aggregate raw suppressions' := by
  have hsame : isSuppressed suppressions = isSuppressed suppressions' := by
    funext f
    rw [Bool.eq_iff_iff]
    simp only [isSuppressed, List.any_eq_true, h]
  rw [aggregate, aggregate, hsame]

theorem findings_append_suppressions (raw : List Finding) (s t : List Suppression) :
    (aggregate raw (s ++ t)).findings =
      (aggregate raw s).findings.filter fun f => !isSuppressed t f := by
  refine Finding.eq_of_mem_iff (findings_ordered _ _) ((findings_ordered _ _).filter _)
    fun f => ?_
  rw [mem_findings_iff, keptOf_append_suppressions, List.mem_filter, mem_findings_iff,
    Bool.not_eq_true']

/-- What is kept of the raw findings that `t` covers and `s` does not. -/
theorem keptOf_hidden {s t : List Suppression} {f : Finding} :
    keptOf (raw.filter fun g => isSuppressed t g && !isSuppressed s g) [] f.key = some f ↔
      keptOf raw s f.key = some f ∧ isSuppressed t f = true := by
  have hfind : (raw.filter fun g => isSuppressed t g && !isSuppressed s g).find?
        (·.key == f.key) =
      if isSuppressed t f && !isSuppressed s f then raw.find? (·.key == f.key) else none :=
    find?_filter_key (fun k => t.any (·.coversKey k) && !s.any (·.coversKey k)) raw f.key
  have hs : isSuppressed s f = s.any (·.coversKey f.key) := rfl
  rw [keptOf_eq, keptOf_eq, hfind, ← hs]
  cases isSuppressed s f <;> cases isSuppressed t f <;> simp

theorem suppressed_append_suppressions (raw : List Finding) (s t : List Suppression) :
    (aggregate raw (s ++ t)).metrics.suppressed = (aggregate raw s).metrics.suppressed +
      raw.countP fun f => isSuppressed t f && !isSuppressed s f := by
  rw [suppressed_eq_countP, suppressed_eq_countP,
    List.countP_eq_countP_filter_add raw (isSuppressed (s ++ t)) (isSuppressed s),
    List.countP_filter, List.countP_filter]
  congr 1
  all_goals
    refine List.countP_congr fun f _ => ?_
    rw [isSuppressed_append]
    cases isSuppressed s f <;> simp

/-- **Suppression commutes with aggregation.** Under further suppressions `t` the final list loses
exactly the findings that `t` covers, and the number of suppressed findings grows by those that
`t` covers and `s` does not. Order and repetition of suppressions do not matter. What comes back
when `t` is removed is the final list of what `t` alone has hidden. -/
theorem aggregate_append_suppressions (raw : List Finding) (s t : List Suppression) :
    (aggregate raw (s ++ t)).findings =
      (aggregate raw s).findings.filter (fun f => !isSuppressed t f) ∧
    (aggregate raw (s ++ t)).metrics.suppressed = (aggregate raw s).metrics.suppressed +
      raw.countP (fun f => isSuppressed t f && !isSuppressed s f) ∧
    (∀ u : List Suppression, (∀ x, x ∈ u ↔ x ∈ s ++ t) →
      aggregate raw u = aggregate raw (s ++ t)) ∧
    ∀ f, f ∈ (aggregate raw s).findings ∧ f ∉ (aggregate raw (s ++ t)).findings ↔
      f ∈ (aggregate (raw.filter fun g => isSuppressed t g && !isSuppressed s g) []).findings := by
  refine ⟨findings_append_suppressions raw s t, suppressed_append_suppressions raw s t,
    fun u hu => aggregate_congr_suppressions hu, fun f => ?_⟩
  rw [mem_findings_iff, mem_findings_iff, mem_findings_iff, keptOf_append_suppressions,
    keptOf_hidden]
  cases isSuppressed t f <;> simp

-- Of two findings one is hidden, with its repeat, and comes back from what is hidden alone.
example :
    let raw := [lineFinding 2 "late", lineFinding 1 "early", lineFinding 2 "again"]
    let t : List Suppression := [⟨"a.js", .any, .line 2⟩]
    let hidden := aggregate (raw.filter (isSuppressed t)) []
    ((aggregate raw []).findings.map (·.message), (aggregate raw t).findings.map (·.message),
        (aggregate raw t).metrics.suppressed, hidden.findings.map (·.message)) =
      (["early", "late"], ["early"], 2, ["late"]) := by
  cbv

end TreeLint
