import TreeLint.Proofs.LayeredSettings

/-!
# Settings that pass the check

The check goes through the values one after the other. It accepts exactly the settings whose
values are all in order (`check_eq_ok_iff`), and both ways to get hold of settings, from a text
and from the layers of a run, end with it (`Accepted.isSound`).

**Theorem.** In accepted settings a cold loop has fewer rounds than a hot one iff a count that is
set alone stands on the right side of the default of the other. The check compares the two counts
only where both are set, while the rules compare the values in force.

So the values in force can be the wrong way round: if only the hot loop is set, to five rounds, a
loop has to have ten rounds not to be cold (`hot_loop_below_cold`).
-/

namespace TreeLint

theorem bind_eq_ok_iff {ε α β : Type} {x : Except ε α} {f : α → Except ε β} {b : β} :
    x.bind f = .ok b ↔ ∃ a, x = .ok a ∧ f a = .ok b := by
  cases x with
  | error e => simp [Except.bind]
  | ok a => simp [Except.bind]

namespace Settings

/-- The values that the check looks at are all in order. -/
structure IsSound (s : Settings) : Prop where
  gate : ∀ name ∈ s.analysis.failOn, (Severity.ofName? name).isSome
  threads : s.analysis.threads ≠ some 0
  fileTimeoutMs : s.analysis.fileTimeoutMs ≠ some 0
  maxParameters : s.rules.maxParameters ≠ some 0
  maxDecisionPoints : s.rules.maxDecisionPoints ≠ some 0
  maxStatements : s.rules.maxStatements ≠ some 0
  tripCounts : ∀ high ∈ s.rules.loopHighTripCount, ∀ low ∈ s.rules.loopLowTripCount, low < high
  patterns : ∀ p ∈ s.rules.credentialNames, (Regex.ofString? p).isSome

/-! ## The single checks -/

theorem checkGate_eq_ok_iff {name : Option String} :
    checkGate name = .ok () ↔ ∀ n ∈ name, (Severity.ofName? n).isSome := by
  cases name with
  | none => simp [checkGate]
  | some n => cases h : (Severity.ofName? n).isSome <;> simp [checkGate, h]

theorem checkPositive_eq_ok_iff {field : String} {count : Option Nat} :
    checkPositive field count = .ok () ↔ count ≠ some 0 := by
  by_cases h : count = some 0 <;> simp [checkPositive, h]

theorem checkTripCounts_eq_ok_iff {high low : Option Nat} :
    checkTripCounts high low = .ok () ↔ ∀ h ∈ high, ∀ l ∈ low, l < h := by
  rcases high with - | h <;> rcases low with - | l
  · simp [checkTripCounts]
  · simp [checkTripCounts]
  · simp [checkTripCounts]
  · by_cases hle : h ≤ l <;> simp [checkTripCounts, hle, Nat.not_le.1]

theorem checkPatterns_eq_ok_iff {patterns : List String} :
    checkPatterns patterns = .ok () ↔ ∀ p ∈ patterns, (Regex.ofString? p).isSome := by
  unfold checkPatterns
  cases hfind : patterns.find? fun p => (Regex.ofString? p).isNone with
  | none => simpa [Option.isSome_iff_ne_none] using List.find?_eq_none.1 hfind
  | some p =>
    have hbad := List.find?_some hfind
    have hmem := List.mem_of_find?_eq_some hfind
    simp only [reduceCtorEq, false_iff]
    intro hall
    have hgood := hall p hmem
    simp [Option.isNone_iff_eq_none.1 hbad] at hgood

theorem then_eq_ok_iff {first : Except SettingsError Unit} {second : Except SettingsError Unit} :
    (first >>= fun _ => second) = .ok () ↔ first = .ok () ∧ second = .ok () := by
  refine bind_eq_ok_iff.trans ⟨?_, fun ⟨h, h'⟩ => ⟨(), h, h'⟩⟩
  rintro ⟨⟨⟩, h, h'⟩
  exact ⟨h, h'⟩

/-- The check accepts exactly the settings whose values are in order. -/
theorem check_eq_ok_iff {s : Settings} : s.check = .ok () ↔ s.IsSound := by
  simp only [check, then_eq_ok_iff, checkGate_eq_ok_iff, checkPositive_eq_ok_iff,
    checkTripCounts_eq_ok_iff, checkPatterns_eq_ok_iff]
  constructor
  · rintro ⟨h₁, h₂, h₃, h₄, h₅, h₆, h₇, h₈⟩
    exact ⟨h₁, h₂, h₃, h₄, h₅, h₆, h₇, h₈⟩
  · rintro ⟨h₁, h₂, h₃, h₄, h₅, h₆, h₇, h₈⟩
    exact ⟨h₁, h₂, h₃, h₄, h₅, h₆, h₇, h₈⟩

/-! ## Where settings come from -/

/-- The settings that a run can be made from: those that pass the check, those that a text
describes, and those that the layers add up to. -/
inductive Accepted : Settings → Prop
  | checked {s : Settings} (h : s.check = .ok ()) : Accepted s
  | parsed {text : String} {s : Settings} (h : parse text = .ok s) : Accepted s
  | loaded {root : String} {world : Surroundings} {overrides : Option Overrides} {s : Settings}
      (h : load root world overrides = .ok s) : Accepted s

theorem accept_eq_ok_iff {s t : Settings} : s.accept = .ok t ↔ s.check = .ok () ∧ t = s := by
  rw [accept_eq, eq_comm (a := t)]
  cases s.check with
  | error e => simp [Except.map]
  | ok u => simp [Except.map]

theorem Accepted.isSound {s : Settings} (h : s.Accepted) : s.IsSound := by
  refine check_eq_ok_iff.1 ?_
  cases h with
  | checked h => exact h
  | parsed h =>
    obtain ⟨t, -, h⟩ := bind_eq_ok_iff.1 h
    obtain ⟨hcheck, rfl⟩ := accept_eq_ok_iff.1 h
    exact hcheck
  | loaded h =>
    rw [load_eq] at h
    obtain ⟨user, -, h⟩ := bind_eq_ok_iff.1 h
    obtain ⟨project, -, h⟩ := bind_eq_ok_iff.1 h
    obtain ⟨hcheck, rfl⟩ := accept_eq_ok_iff.1 h
    exact hcheck

/-! ## Hot and cold loops -/

/-- In accepted settings cold loops have fewer rounds than hot ones, except where one of the two
counts is set without the other and passes the default of the other. -/
theorem coldLoop_lt_hotLoop_iff {s : Settings} (h : s.Accepted) :
    s.rules.coldLoop < s.rules.hotLoop ↔
      (s.rules.loopLowTripCount = none → 10 < s.rules.hotLoop) ∧
        (s.rules.loopHighTripCount = none → s.rules.coldLoop < 1000) := by
  have hboth := h.isSound.tripCounts
  unfold RuleSettings.coldLoop RuleSettings.hotLoop
  cases hhigh : s.rules.loopHighTripCount with
  | none =>
    cases hlow : s.rules.loopLowTripCount with
    | none => simp
    | some low => simp
  | some high =>
    cases hlow : s.rules.loopLowTripCount with
    | none => simp
    | some low =>
      -- Only here has the check compared the counts.
      have hlt : low < high := hboth high hhigh low hlow
      simp [hlt]

/-- A hot loop that is set to more rounds than the default of cold ones. -/
theorem coldLoop_lt_hotLoop_iff_eleven :
    let s : Settings := { rules := { loopHighTripCount := some 11 } }
    s.check = .ok () ∧
      (s.rules.coldLoop < s.rules.hotLoop ↔
        (s.rules.loopLowTripCount = none → 10 < s.rules.hotLoop) ∧
          (s.rules.loopHighTripCount = none → s.rules.coldLoop < 1000)) :=
  ⟨rfl, coldLoop_lt_hotLoop_iff (.checked rfl)⟩

/-- Texts are accepted that make cold loops longer than hot ones, by setting one of the two. -/
theorem hot_loop_below_cold :
    (∃ s, parse "[rules]\nloop_high_trip_count = 5\n" = .ok s ∧
      s.rules.hotLoop = 5 ∧ s.rules.coldLoop = 10) ∧
    ∃ s, parse "[rules]\nloop_low_trip_count = 2000\n" = .ok s ∧
      s.rules.hotLoop = 1000 ∧ s.rules.coldLoop = 2000 := by
  refine ⟨⟨{ rules := { loopHighTripCount := some 5 } }, ?_, ?_, ?_⟩,
    ⟨{ rules := { loopLowTripCount := some 2000 } }, ?_, ?_, ?_⟩⟩
  all_goals rfl

end Settings

end TreeLint
