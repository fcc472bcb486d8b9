import TreeLint.Proofs.PatternsInTurn
import TreeLint.Proofs.Startup

/-!
# Which names are suspicious

The patterns of credential names are read one after the other in one group, so a pattern is read
under the flags that those before it leave.

**Theorem** (`isCredentialName_iff`). Let each pattern be readable by itself, and let no used
pattern leave the verbose mode on or Unicode off at its end. If the detector can be set up, a name
is suspicious iff one of the used patterns matches in it, where the first one is read ignoring case
and each other one under the flags that the one before it leaves. So if every pattern but the last
leaves the flags as they are, each of them counts as by itself, in whatever order they stand.

A pattern that counts case to its end makes the next one count case too
(`case_counts_for_next_pattern`).
-/

namespace TreeLint.Rules.HardcodedCredential

open Regex (readUnder? flagsAfter? readInTurn? caseless follow opening keepsFlags)

variable {r : RuleSettings} {c : Setup}

theorem isCredentialName_iff_names (name : String) :
    c.isCredentialName name = true ↔
      name ≠ "" ∧ c.names.any (·.matchesIn name.toList) = true := by
  simp [Setup.isCredentialName]

/-- The detector looks for the joined pattern, which is read from the used ones. -/
theorem names_of_setup? (hsetup : setup? r = .ok c) :
    match r.usedPatterns with
    | [] => c.names = none
    | p :: ps => ∃ joined, Regex.read? (opening ++ (p ++ follow ps)) = some joined ∧
        c.names = some joined := by
  have htext := r.joined?_eq
  unfold setup? at hsetup
  cases hjoined : joined? r.credentialNames with
  | none =>
    simp only [hjoined, Except.ok.injEq] at hsetup
    cases hused : r.usedPatterns with
    | nil => simp [← hsetup]
    | cons p ps => simp [hjoined, hused] at htext
  | some text =>
    simp only [hjoined] at hsetup
    cases hused : r.usedPatterns with
    | nil => simp [hjoined, hused] at htext
    | cons p ps =>
      have hlist : text.toList = opening ++ (p ++ follow ps) := by
        simpa [hjoined, hused] using htext
      split at hsetup
      · next joined hread =>
        obtain rfl := Except.ok.inj hsetup
        refine ⟨joined, ?_, rfl⟩
        rw [← hlist]
        exact (Option.filter_eq_some_iff.1 hread).1
      · simp at hsetup

/-- A used pattern can be read, and keeps the flags that decide what can be read. -/
theorem selfContained_of_used (hread : ∀ p ∈ r.credentialNames, (Regex.ofString? p).isSome)
    (hflags : ∀ p ∈ r.usedPatterns, keepsFlags p) :
    ∀ p ∈ r.usedPatterns, Regex.SelfContained p ∧ (Regex.read? p).isSome := by
  intro p hp
  obtain ⟨pattern, hmem, rfl⟩ := List.mem_map.1 hp
  obtain ⟨q, hq⟩ := Option.isSome_iff_exists.1 (hread pattern (List.mem_of_mem_filter hmem))
  have hsome : (Regex.read? pattern.toList).isSome := by
    simp [(Option.filter_eq_some_iff.1 hq).1]
  exact ⟨Regex.selfContained_of_read? hsome (hflags _ hp), hsome⟩

theorem exists_readInTurn? (hsetup : setup? r = .ok c)
    (hused : ∀ p ∈ r.usedPatterns, Regex.SelfContained p ∧ (Regex.read? p).isSome) :
    ∃ qs, readInTurn? caseless r.usedPatterns = some qs ∧ ∀ name,
      c.isCredentialName name = true ↔ name ≠ "" ∧ ∃ q ∈ qs, q.matchesIn name.toList = true := by
  have hnames := names_of_setup? hsetup
  cases hps : r.usedPatterns with
  | nil =>
    rw [hps] at hnames
    refine ⟨[], rfl, fun name => ?_⟩
    simp [isCredentialName_iff_names, hnames]
  | cons p ps =>
    rw [hps] at hnames hused
    obtain ⟨joined, hread, hjoined⟩ := hnames
    obtain ⟨qs, hqs, hmatches⟩ := Regex.matchesIn_joined hused hread
    refine ⟨qs, hqs, fun name => ?_⟩
    rw [isCredentialName_iff_names, hjoined, Option.any_some, hmatches, List.any_eq_true]

/-- **What a credential name is.** Let the patterns be set up, each of them be a pattern by itself, and
each one in use end with verbose mode off and Unicode on. A name counts iff it is not empty and one
of the patterns matches in it, where each is read under the flags that the one before it leaves. If
all but the last leave the flags as they were, each is read as if it stood alone. -/
theorem isCredentialName_iff (hsetup : setup? r = .ok c)
    (hread : ∀ p ∈ r.credentialNames, (Regex.ofString? p).isSome)
    (hflags : ∀ p ∈ r.usedPatterns, keepsFlags p) :
    (∃ qs, readInTurn? caseless r.usedPatterns = some qs ∧ ∀ name,
      c.isCredentialName name = true ↔ name ≠ "" ∧ ∃ q ∈ qs, q.matchesIn name.toList = true) ∧
    ((∀ p ∈ r.usedPatterns.dropLast, flagsAfter? caseless p = some caseless) → ∀ name,
      c.isCredentialName name = true ↔
        name ≠ "" ∧ ∃ p ∈ r.usedPatterns,
          (readUnder? caseless p).any (·.matchesIn name.toList) = true) := by
  obtain ⟨qs, hqs, hmatches⟩ := exists_readInTurn? hsetup (selfContained_of_used hread hflags)
  refine ⟨⟨qs, hqs, hmatches⟩, fun hkept name => ?_⟩
  have halone := Regex.mem_of_kept hkept hqs
  rw [hmatches]
  refine and_congr_right fun _ => ?_
  constructor
  · rintro ⟨q, hq, hin⟩
    obtain ⟨p, hp, hread⟩ := (halone q).1 hq
    exact ⟨p, hp, by rw [hread, Option.any_some, hin]⟩
  · rintro ⟨p, hp, hin⟩
    cases hread : readUnder? caseless p with
    | none => simp [hread] at hin
    | some q =>
      rw [hread, Option.any_some] at hin
      exact ⟨q, (halone q).2 ⟨p, hp, hread⟩, hin⟩

/-- Settings whose patterns are a group that counts case and a pattern that counts case to its end,
in this order, and the latter before another pattern. -/
theorem isCredentialName_iff_two :
    (∃ c, setup? (Settings.withPatterns ["(?-i:Pass)word", "(?-i)Pwd"]).rules = .ok c ∧
      c.isCredentialName "PassWORD" = true ∧ c.isCredentialName "PASSword" = false ∧
      c.isCredentialName "Pwd" = true) ∧
    ∃ c, setup? (Settings.withPatterns ["(?-i)Pwd", "auth"]).rules = .ok c ∧
      c.isCredentialName "AUTH" = false := by
  have hok : ∀ r, (setup? r).toOption.isSome → ∃ c, setup? r = .ok c := by
    intro r h
    cases hsetup : setup? r with
    | ok c => exact ⟨c, rfl⟩
    | error e => simp [hsetup, Except.toOption] at h
  constructor
  · obtain ⟨c, hsetup⟩ := hok (Settings.withPatterns ["(?-i:Pass)word", "(?-i)Pwd"]).rules
      (by decide +kernel)
    have hnames := (isCredentialName_iff hsetup (by decide +kernel) (by decide +kernel)).2
      (by decide +kernel)
    refine ⟨c, hsetup, (hnames _).2 (by decide +kernel), ?_, (hnames _).2 (by decide +kernel)⟩
    rw [Bool.eq_false_iff, ne_eq, hnames]
    decide +kernel
  · obtain ⟨c, hsetup⟩ := hok (Settings.withPatterns ["(?-i)Pwd", "auth"]).rules
      (by decide +kernel)
    obtain ⟨qs, hqs, hnames⟩ :=
      (isCredentialName_iff hsetup (by decide +kernel) (by decide +kernel)).1
    refine ⟨c, hsetup, ?_⟩
    have hnone : (readInTurn? caseless ["(?-i)Pwd".toList, "auth".toList]).all
        (·.all (!·.matchesIn "AUTH".toList)) = true := by decide +kernel
    rw [show readInTurn? caseless ["(?-i)Pwd".toList, "auth".toList] = some qs from hqs,
      Option.all_some] at hnone
    rw [Bool.eq_false_iff, ne_eq, hnames]
    rintro ⟨-, q, hq, hin⟩
    have hout := List.all_eq_true.1 hnone q hq
    rw [hin] at hout
    exact absurd hout (by decide)

/-- Each of two patterns can be read by itself. The first one counts case, and then the second one
counts it too, but not if it comes first. -/
theorem case_counts_for_next_pattern :
    (∀ p ∈ ["(?-i)pwd", "auth"], (Regex.ofString? p).isSome) ∧
      (readUnder? caseless "auth".toList).any (·.matchesIn "AUTH_VALUE".toList) ∧
      (setup? (Settings.withPatterns ["(?-i)pwd", "auth"]).rules).toOption.any
        (!·.isCredentialName "AUTH_VALUE") ∧
      (setup? (Settings.withPatterns ["auth", "(?-i)pwd"]).rules).toOption.any
        (·.isCredentialName "AUTH_VALUE") := by
  decide +kernel

end TreeLint.Rules.HardcodedCredential
