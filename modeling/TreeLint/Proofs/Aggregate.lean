import TreeLint.Report.Aggregate

/-!
# What aggregation keeps

Aggregation keeps, of the findings that no suppression covers, the first of each key.
`mem_aggregate_iff` says so without mention of the order or of the keys seen so far, and
`mem_aggregate_key_iff` that there is no second one.
-/

namespace TreeLint

/-- A finding stays iff its key was not seen before, and it is the first one with its key. -/
theorem mem_firsts_iff {seen : List Finding.Key} {fs : List Finding} {f : Finding} :
    f ∈ firsts seen fs ↔ f.key ∉ seen ∧ fs.find? (·.key == f.key) = some f := by
  induction fs generalizing seen with
  | nil => simp [firsts]
  | cons g fs ih =>
    -- Whether `g` is kept hangs on the keys seen, whether it hides `f` on its own key.
    by_cases hseen : seen.contains g.key
    · rw [firsts, if_pos hseen, ih]
      by_cases hkey : g.key = f.key
      · have hmem : f.key ∈ seen := by simpa [hkey] using hseen
        simp [hmem]
      · rw [List.find?_cons_of_neg (by simpa using hkey)]
    · rw [firsts, if_neg hseen, List.mem_cons, ih]
      by_cases hkey : g.key = f.key
      · have hmem : f.key ∉ seen := by simpa [hkey] using hseen
        rw [List.find?_cons_of_pos (by simpa using hkey)]
        simp [hkey, hmem, eq_comm]
      · have hne : f ≠ g := by
          rintro rfl
          exact hkey rfl
        rw [List.find?_cons_of_neg (by simpa using hkey)]
        simp [hne, Ne.symm hkey]

/-- **What aggregation keeps.** A finding is in the final list iff it is the first of its key among
the raw findings that no suppression covers. -/
theorem mem_aggregate_iff {raw : List Finding} {suppressions : List Suppression} {f : Finding} :
    f ∈ (aggregate raw suppressions).findings ↔
      (raw.filter fun g => !isSuppressed suppressions g).find? (·.key == f.key) = some f := by
  rw [aggregate, List.mem_mergeSort, mem_firsts_iff]
  simp

/-- The final list holds one finding for each key: the first that no suppression covers. -/
theorem mem_aggregate_key_iff {raw : List Finding} {suppressions : List Suppression}
    {key : Finding.Key} {first : Finding}
    (hfirst : (raw.filter fun g => !isSuppressed suppressions g).find? (·.key == key) =
      some first) {f : Finding} :
    f ∈ (aggregate raw suppressions).findings ∧ f.key = key ↔ f = first := by
  rw [mem_aggregate_iff]
  constructor
  · rintro ⟨hf, rfl⟩
    rw [hfirst] at hf
    exact (Option.some.inj hf).symm
  · rintro rfl
    have hkey : f.key = key := by simpa using List.find?_some hfirst
    exact ⟨by rw [hkey, hfirst], hkey⟩

@[simp] theorem filter_isSuppressed_nil (raw : List Finding) :
    (raw.filter fun f => !isSuppressed [] f) = raw :=
  List.filter_eq_self.2 fun _ _ => rfl

end TreeLint
