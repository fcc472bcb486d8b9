import TreeLint.Pipeline
import TreeLint.Proofs.CheckedSettings
import TreeLint.Proofs.JoinedPatterns
import TreeLint.Proofs.Ownership

/-!
# Settings that a pipeline can be made from

The check of settings reads every pattern of credential names by itself, while the detector joins
those that are not blank into one pattern. So a pipeline cannot be made from all settings that pass
the check.

**Theorem** (`Pipeline.ofSettings_ok_iff`). Let settings pass the check, and let no used pattern
leave the verbose mode on or Unicode off at its end. Then there is a pipeline iff no two used
patterns name a group alike, all their alternatives leave two levels of the nesting, and the joined
pattern is not too large. If there is none, it is for the joined pattern alone: the gate is known,
and the other detectors are always set up.

Two patterns with a group `_` each pass the check and start no pipeline, and so does a pattern
whose verbose mode turns the bar and the parenthesis after it into a comment
(`checked_but_not_started`).
-/

namespace TreeLint

open Regex (final? groupNames alternativeDepths rowDepth deepest follow opening SelfContained)

/-! ## Patterns that can be joined -/

/-- At the end of the pattern, blanks count and Unicode is on. -/
def Regex.keepsFlags (text : List Char) : Bool :=
  (final? text).all fun z => !z.flags.verbose && z.flags.unicode

/-- A pattern that can be read by itself and keeps the flags. -/
theorem Regex.selfContained_of_read? {text : List Char} (hread : (read? text).isSome)
    (hflags : keepsFlags text) : SelfContained text := by
  rw [read?_eq] at hread
  obtain ⟨p, hp⟩ := Option.isSome_iff_exists.1 hread
  obtain ⟨z, hz, hwhole⟩ := Option.bind_eq_some_iff.1 hp
  have houter : z.outer = [] := (isSome_whole?_iff.1 (by simp [hwhole])).1
  simp only [keepsFlags, hz, Option.all_some, Bool.and_eq_true, Bool.not_eq_true'] at hflags
  exact ⟨z, hz, houter, hflags.1, hflags.2⟩

namespace RuleSettings

open Rules.HardcodedCredential (joined? setup?)

/-- The patterns of credential names that count: those that are not blank. -/
def usedPatterns (r : RuleSettings) : List (List Char) :=
  (r.credentialNames.filter fun p => !Text.allBlank p.toList).map String.toList

/-- The used patterns can be made into one. -/
structure Joinable (r : RuleSettings) : Prop where
  /-- No two patterns name a group alike. -/
  names : r.usedPatterns.Pairwise fun p q => ∀ m ∈ groupNames p, m ∉ groupNames q
  /-- The group around all alternatives, and what stands before it, are not nested too deep. -/
  depth : rowDepth (r.usedPatterns.flatMap alternativeDepths) + 2 ≤ deepest
  /-- The joined pattern is not too large. -/
  size : ((joined? r.credentialNames).bind fun text => Regex.read? text.toList).all
    Regex.Pattern.fits

theorem intercalate_bar (p : List Char) (ps : List (List Char)) :
    ['|'].intercalate (p :: ps) ++ [')'] = p ++ follow ps := by
  induction ps generalizing p with
  | nil => simp [follow]
  | cons q ps ih => simp [List.intercalate_cons_cons, follow, ← ih]

theorem joined?_eq (r : RuleSettings) :
    (joined? r.credentialNames).map String.toList =
      match r.usedPatterns with
      | [] => none
      | p :: ps => some (opening ++ (p ++ follow ps)) := by
  unfold joined? usedPatterns
  cases r.credentialNames.filter fun p => !Text.allBlank p.toList with
  | nil => rfl
  | cons p ps =>
    have htext := intercalate_bar p.toList (ps.map String.toList)
    simp [String.toList_intercalate, ← htext, opening]

/-- The detector of credentials can be set up if the patterns can be joined. -/
theorem setup?_ok_iff {r : RuleSettings} (hps : ∀ p ∈ r.usedPatterns, SelfContained p) :
    (∃ c, setup? r = .ok c) ↔ r.Joinable := by
  have htext := joined?_eq r
  unfold setup?
  cases hjoined : joined? r.credentialNames with
  | none =>
    have hnil : r.usedPatterns = [] := by
      cases hused : r.usedPatterns with
      | nil => rfl
      | cons p ps => simp [hjoined, hused] at htext
    refine ⟨fun _ => ⟨?_, ?_, ?_⟩, fun _ => ⟨_, rfl⟩⟩
    · simp [hnil]
    · simp [hnil, rowDepth, deepest]
    · simp [hjoined]
  | some text =>
    cases hused : r.usedPatterns with
    | nil => simp [hjoined, hused] at htext
    | cons p ps =>
      have hlist : text.toList = opening ++ (p ++ follow ps) := by
        simpa [hjoined, hused] using htext
      have hread := Regex.isSome_read?_joined (hused ▸ hps)
      rw [← hlist] at hread
      have hjoinable : r.Joinable ↔
          (Regex.read? text.toList).isSome ∧ (Regex.read? text.toList).all Regex.Pattern.fits := by
        rw [hread, ← hused]
        constructor
        · rintro ⟨hnames, hdepth, hsize⟩
          exact ⟨⟨hnames, hdepth⟩, by simpa [hjoined] using hsize⟩
        · rintro ⟨⟨hnames, hdepth⟩, hsize⟩
          exact ⟨hnames, hdepth, by simpa [hjoined] using hsize⟩
      rw [hjoinable]
      simp only [Regex.ofString?]
      cases Regex.read? text.toList with
      | none => simp
      | some q => cases hfits : q.fits <;> simp [Option.filter, hfits]

theorem eq_of_setup?_error {r : RuleSettings} {e : RegistryError} (h : setup? r = .error e) :
    ∃ reason, e = .invalidRuleConfig Rules.HardcodedCredential.rule.id reason := by
  unfold setup? at h
  grind

end RuleSettings

/-! ## Registries and pipelines -/

namespace Registry

theorem check_standardDetectors {r : RuleSettings} {ds : List Detector}
    (h : standardDetectors r = .ok ds) : check [] ds = .ok () := by
  obtain ⟨c, rfl⟩ := standardDetectors_eq_ok h
  rfl

/-- The registry can be built if the detector of credentials can be set up, which fails with its
error. -/
theorem ofSettings_of_setup? {s : Settings} :
    ((∃ g, ofSettings s = .ok g) ↔ ∃ c, Rules.HardcodedCredential.setup? s.rules = .ok c) ∧
      ∀ e, ofSettings s = .error e → Rules.HardcodedCredential.setup? s.rules = .error e := by
  cases hsetup : Rules.HardcodedCredential.setup? s.rules with
  | error e =>
    simp [ofSettings, standardDetectors, Rules.HardcodedCredential.detector, hsetup, Except.map,
      Except.bind]
  | ok c =>
    have hds : ∃ ds, standardDetectors s.rules = .ok ds := by
      simp [standardDetectors, Rules.HardcodedCredential.detector, hsetup, Except.map]
    obtain ⟨ds, hds⟩ := hds
    simp [ofSettings, hds, Except.bind, build, check_standardDetectors hds]

end Registry

namespace Settings

theorem isSome_gate {s : Settings} (h : s.IsSound) :
    (Severity.ofName? s.analysis.gateName).isSome := by
  unfold RunSettings.gateName
  cases hname : s.analysis.failOn with
  | none => decide +kernel
  | some name => exact h.gate name hname

end Settings

/-- **When there is a pipeline.** Let settings pass the check, and let each pattern in use end with
verbose mode off and Unicode on. There is a pipeline iff the patterns can be joined. If they cannot,
the error is that of the detector of credentials. -/
theorem Pipeline.ofSettings_ok_iff {s : Settings} (hcheck : s.check = .ok ())
    (hflags : ∀ p ∈ s.rules.usedPatterns, Regex.keepsFlags p) :
    ((∃ pipeline, Pipeline.ofSettings s = .ok pipeline) ↔ s.rules.Joinable) ∧
      ∀ e, Pipeline.ofSettings s = .error e →
        ∃ reason, e = .registry (.invalidRuleConfig "security/hardcoded-credential" reason) := by
  have hsound := Settings.check_eq_ok_iff.1 hcheck
  have hps : ∀ p ∈ s.rules.usedPatterns, SelfContained p := by
    intro p hp
    obtain ⟨pattern, hmem, rfl⟩ := List.mem_map.1 hp
    have hsome := hsound.patterns pattern (List.mem_of_mem_filter hmem)
    have hread : (Regex.read? pattern.toList).isSome := by
      obtain ⟨q, hq⟩ := Option.isSome_iff_exists.1 hsome
      simp [(Option.filter_eq_some_iff.1 hq).1]
    exact Regex.selfContained_of_read? hread (hflags _ hp)
  obtain ⟨gate, hgate⟩ := Option.isSome_iff_exists.1 (Settings.isSome_gate hsound)
  obtain ⟨hregistry, herror⟩ := Registry.ofSettings_of_setup? (s := s)
  rw [← RuleSettings.setup?_ok_iff hps, ← hregistry]
  unfold Pipeline.ofSettings Pipeline.new
  cases hg : Registry.ofSettings s with
  | ok g => simp [hgate]
  | error e =>
    obtain ⟨reason, rfl⟩ := RuleSettings.eq_of_setup?_error (herror e hg)
    simp [Rules.HardcodedCredential.rule]

/-- Settings with these patterns of credential names. -/
def Settings.withPatterns (patterns : List String) : Settings :=
  { rules := { credentialPatterns := some patterns } }

/-- Two patterns, of which one or both have a group of the name. -/
theorem Pipeline.ofSettings_ok_iff_two_groups :
    (∃ pipeline, Pipeline.ofSettings (.withPatterns ["(?P<_>^)", "$"]) = .ok pipeline) ∧
      ¬∃ pipeline, Pipeline.ofSettings (.withPatterns ["(?P<_>a)", "(?P<_>b)"]) = .ok pipeline := by
  constructor
  · exact (Pipeline.ofSettings_ok_iff (by decide +kernel) (by decide +kernel)).1.2
      ⟨by decide +kernel, by decide +kernel, by decide +kernel⟩
  · intro h
    have hjoinable := (Pipeline.ofSettings_ok_iff (by decide +kernel) (by decide +kernel)).1.1 h
    exact absurd hjoinable.names (by decide +kernel)

/-- Settings that pass the check and that no pipeline can be made from: two groups of one name, and
a comment that goes on after its pattern. -/
theorem Settings.checked_but_not_started :
    ((Settings.withPatterns ["(?P<_>a)", "(?P<_>b)"]).check = .ok () ∧
      (Pipeline.ofSettings (.withPatterns ["(?P<_>a)", "(?P<_>b)"])).toOption.isNone) ∧
    (Settings.withPatterns ["(?x)a # b"]).check = .ok () ∧
      (Pipeline.ofSettings (.withPatterns ["(?x)a # b"])).toOption.isNone := by
  decide +kernel

end TreeLint
