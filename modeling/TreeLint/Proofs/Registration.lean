import Mathlib.Data.List.Nodup
import TreeLint.Proofs.KindIndex

/-!
# Which detectors make a registry

Detectors are checked in the order of registration, whether they are switched off or not. Each one
needs an id that no earlier one has and some kind of node to look at, and the first that lacks
something decides the error.

**Theorem (`Registry.build_of_registered`).** A registry can be built iff the registered detectors
fit together, and otherwise the error is the objection to the first that does not fit. In a registry
that was built, the detectors for a kind are the registered ones that are switched on and look at
it, each once and in the order of registration, and the rules are theirs.

The check keeps the ids it has seen. `check_eq_error_iff` and `check_eq_ok_iff` go along it with the
detectors before, which fit together and have just these ids.
-/

namespace TreeLint

theorem find?_key {α : Type*} {key : α → String} {as : List α} (h : (as.map key).Nodup) {a : α}
    (ha : a ∈ as) : as.find? (key · == key a) = some a := by
  have hsome : (as.find? (key · == key a)).isSome := List.find?_isSome.2 ⟨a, ha, by simp⟩
  obtain ⟨b, hfound⟩ := Option.isSome_iff_exists.1 hsome
  have hkey : key b = key a := by simpa using List.find?_some hfound
  rw [hfound, List.inj_on_of_nodup_map h (List.mem_of_find?_eq_some hfound) ha hkey]

namespace Registry

/-! ## Detectors that fit together -/

/-- Detectors that can be registered one after the other. -/
structure FitTogether (ds : List Detector) : Prop where
  named : ∀ d ∈ ds, d.id ≠ ""
  distinct : (ds.map Detector.id).Nodup
  asked : ∀ d ∈ ds, d.kinds ≠ []

/-- What is wrong with a detector that is registered after others. A detector without an id is not
asked for more, nor is one with an id that comes again. -/
inductive Objection (before : List Detector) (d : Detector) : RegistryError → Prop
  | emptyId (hid : d.id = "") : Objection before d .emptyRuleId
  | duplicate (hid : d.id ≠ "") (hbefore : d.id ∈ before.map Detector.id) :
      Objection before d (.duplicateRuleId d.id)
  | noKinds (hid : d.id ≠ "") (hbefore : d.id ∉ before.map Detector.id) (hkinds : d.kinds = []) :
      Objection before d (.noInterestedKinds d.id)

/-- The objection to the first of some detectors that does not fit those before it. -/
def FirstObjection (before ds : List Detector) (e : RegistryError) : Prop :=
  ∃ fitting d after, ds = fitting ++ d :: after ∧ FitTogether (before ++ fitting) ∧
    Objection (before ++ fitting) d e

variable {before ds : List Detector} {d : Detector} {e : RegistryError}

theorem fitTogether_nil : FitTogether [] := ⟨by simp, by simp, by simp⟩

theorem fitTogether_concat :
    FitTogether (before ++ [d]) ↔
      FitTogether before ∧ d.id ≠ "" ∧ d.id ∉ before.map Detector.id ∧ d.kinds ≠ [] := by
  constructor
  · rintro ⟨hnamed, hdistinct, hasked⟩
    rw [List.map_append, List.nodup_append] at hdistinct
    obtain ⟨hold, -, hnew⟩ := hdistinct
    refine ⟨⟨fun d' hd' => hnamed d' (by simp [hd']), hold, fun d' hd' => hasked d' (by simp [hd'])⟩,
      hnamed d (by simp), fun hmem => hnew _ hmem d.id (by simp) rfl, hasked d (by simp)⟩
  · rintro ⟨⟨hnamed, hdistinct, hasked⟩, hid, hnew, hkinds⟩
    refine ⟨?_, ?_, ?_⟩
    · simpa [or_imp, forall_and] using ⟨hnamed, hid⟩
    · rw [List.map_append, List.nodup_append]
      refine ⟨hdistinct, by simp, fun id hmem id' hid' heq => hnew ?_⟩
      obtain rfl : id' = d.id := by simpa using hid'
      exact heq ▸ hmem
    · simpa [or_imp, forall_and] using ⟨hasked, hkinds⟩

theorem FitTogether.of_append (h : FitTogether (before ++ ds)) : FitTogether before :=
  ⟨fun d hd => h.named d (List.mem_append_left _ hd),
    h.distinct.sublist ((List.sublist_append_left before ds).map _),
    fun d hd => h.asked d (List.mem_append_left _ hd)⟩

theorem not_objection_of_fitTogether (h : FitTogether (before ++ [d])) : ¬Objection before d e := by
  obtain ⟨-, hid, hnew, hkinds⟩ := fitTogether_concat.1 h
  rintro (hid' | ⟨-, hold⟩ | ⟨-, -, hkinds'⟩)
  · exact hid hid'
  · exact hnew hold
  · exact hkinds hkinds'

theorem not_firstObjection_nil : ¬FirstObjection before [] e := by
  rintro ⟨fitting, d, after, h, -⟩
  simp at h

/-- The first objection is to the first detector, or it fits and the objection is to a later one. -/
theorem firstObjection_cons (h : FitTogether before) :
    FirstObjection before (d :: ds) e ↔
      Objection before d e ∨ FitTogether (before ++ [d]) ∧ FirstObjection (before ++ [d]) ds e := by
  constructor
  · rintro ⟨fitting, d', after, hds, hfit, hobjection⟩
    cases fitting with
    | nil =>
      obtain ⟨rfl, rfl⟩ : d = d' ∧ ds = after := by simpa using hds
      exact .inl (by simpa using hobjection)
    | cons c fitting =>
      obtain ⟨rfl, rfl⟩ : d = c ∧ ds = fitting ++ d' :: after := by simpa using hds
      rw [List.append_cons] at hfit hobjection
      exact .inr ⟨hfit.of_append, fitting, d', after, rfl, hfit, hobjection⟩
  · rintro (hobjection | ⟨-, fitting, d', after, rfl, hfit, hobjection⟩)
    · exact ⟨[], d, ds, rfl, by simpa using h, by simpa using hobjection⟩
    · rw [← List.append_cons] at hfit hobjection
      exact ⟨d :: fitting, d', after, rfl, hfit, hobjection⟩

/-! ## The check -/

/-- One step of the check: there is an objection to the detector, or it fits and the check goes on
with its id seen. -/
theorem check_cons {seen : List String} (h : FitTogether before)
    (hseen : ∀ id, id ∈ seen ↔ id ∈ before.map Detector.id) (d : Detector) (ds : List Detector) :
    (∃ e, Objection before d e ∧ check seen (d :: ds) = .error e ∧
        ∀ e', Objection before d e' → e' = e) ∨
      FitTogether (before ++ [d]) ∧ check seen (d :: ds) = check (d.id :: seen) ds := by
  rw [check]
  by_cases hid : d.id = ""
  · refine .inl ⟨_, .emptyId hid, by simp [hid], ?_⟩
    rintro e' (- | ⟨hid', -⟩ | ⟨hid', -, -⟩)
    · rfl
    · exact absurd hid hid'
    · exact absurd hid hid'
  by_cases hold : d.id ∈ before.map Detector.id
  · refine .inl ⟨_, .duplicate hid hold, by simp [hid, (hseen _).2 hold], ?_⟩
    rintro e' (hid' | - | ⟨-, hnew, -⟩)
    · exact absurd hid' hid
    · rfl
    · exact absurd hold hnew
  have hunseen : d.id ∉ seen := fun hmem => hold ((hseen _).1 hmem)
  by_cases hkinds : d.kinds = []
  · refine .inl ⟨_, .noKinds hid hold hkinds, by simp [hid, hunseen, hkinds], ?_⟩
    rintro e' (hid' | ⟨-, hold'⟩ | -)
    · exact absurd hid' hid
    · exact absurd hold' hold
    · rfl
  · exact .inr ⟨fitTogether_concat.2 ⟨h, hid, hold, hkinds⟩, by simp [hid, hunseen, hkinds]⟩

theorem mem_seen_nil (id : String) :
    id ∈ ([] : List String) ↔ id ∈ ([] : List Detector).map Detector.id := by
  simp

theorem mem_seen_concat {seen : List String}
    (hseen : ∀ id, id ∈ seen ↔ id ∈ before.map Detector.id) (d : Detector) (id : String) :
    id ∈ d.id :: seen ↔ id ∈ (before ++ [d]).map Detector.id := by
  simp [hseen, or_comm]

/-- The check fails with the first objection. -/
theorem check_eq_error_iff {seen : List String} (h : FitTogether before)
    (hseen : ∀ id, id ∈ seen ↔ id ∈ before.map Detector.id) :
    check seen ds = .error e ↔ FirstObjection before ds e := by
  induction ds generalizing seen before with
  | nil => simp [check, not_firstObjection_nil]
  | cons d ds ih =>
    rw [firstObjection_cons h]
    obtain ⟨e', hobjection, hcheck, honly⟩ | ⟨hfit, hcheck⟩ := check_cons h hseen d ds
    · rw [hcheck, Except.error.injEq]
      constructor
      · rintro rfl
        exact .inl hobjection
      · rintro (hobjection' | ⟨hfit, -⟩)
        · exact (honly e hobjection').symm
        · exact absurd hobjection (not_objection_of_fitTogether hfit)
    · rw [hcheck, ih hfit (mem_seen_concat hseen d)]
      constructor
      · exact fun hfirst => .inr ⟨hfit, hfirst⟩
      · rintro (hobjection | ⟨-, hfirst⟩)
        · exact absurd hobjection (not_objection_of_fitTogether hfit)
        · exact hfirst

theorem check_eq_ok_iff {seen : List String} (h : FitTogether before)
    (hseen : ∀ id, id ∈ seen ↔ id ∈ before.map Detector.id) :
    check seen ds = .ok () ↔ FitTogether (before ++ ds) := by
  induction ds generalizing seen before with
  | nil => simp [check, h]
  | cons d ds ih =>
    rw [List.append_cons]
    obtain ⟨e', hobjection, hcheck, -⟩ | ⟨hfit, hcheck⟩ := check_cons h hseen d ds
    · rw [hcheck]
      simp only [reduceCtorEq, false_iff]
      exact fun hall => not_objection_of_fitTogether hall.of_append hobjection
    · rw [hcheck, ih hfit (mem_seen_concat hseen d)]

/-! ## The registry -/

theorem build_eq_ok_iff {registered : List Detector} {disabled : List String} {g : Registry} :
    build registered disabled = .ok g ↔
      FitTogether registered ∧ g.detectors = registered.filter fun d => !disabled.contains d.id := by
  rw [← List.nil_append registered,
    ← check_eq_ok_iff fitTogether_nil mem_seen_nil, List.nil_append]
  unfold build
  cases check [] registered with
  | ok _ =>
    obtain ⟨ds⟩ := g
    simp [eq_comm]
  | error e => simp

theorem build_eq_error_iff {registered : List Detector} {disabled : List String} :
    build registered disabled = .error e ↔ FirstObjection [] registered e := by
  rw [← check_eq_error_iff fitTogether_nil mem_seen_nil]
  unfold build
  cases check [] registered <;> simp

/-- In a registry of detectors with different ids, the rule of an id is that of the detector with
the id. -/
theorem rule?_eq_some_iff {g : Registry} (hdistinct : (g.detectors.map Detector.id).Nodup)
    {id : String} {rule : Rule} :
    g.rule? id = some rule ↔ ∃ d ∈ g.detectors, d.id = id ∧ d.rule = rule := by
  have hfind : g.rule? id = (g.detectors.find? (·.id == id)).map (·.rule) := by
    rw [rule?, rules, List.find?_map]
    rfl
  rw [hfind, Option.map_eq_some_iff]
  constructor
  · rintro ⟨d, hd, rfl⟩
    exact ⟨d, List.mem_of_find?_eq_some hd, by simpa using List.find?_some hd, rfl⟩
  · rintro ⟨d, hd, rfl, rfl⟩
    exact ⟨d, find?_key hdistinct hd, rfl⟩

/-- **What is registered is what there is.** A registry is built iff the registered detectors fit
together, those that are switched off included; otherwise the error is the objection to the first
that does not fit. Built, it has for a kind the detectors that are switched on and list it, in the
order of registration and each once, and it knows their rules and no others. -/
theorem build_of_registered (registered : List Detector) (disabled : List String) :
    ((∃ g, build registered disabled = .ok g) ↔ FitTogether registered) ∧
    (∀ e, build registered disabled = .error e ↔ FirstObjection [] registered e) ∧
    ∀ g, build registered disabled = .ok g →
      (∀ kind,
        g.detectorsFor kind = registered.filter (fun d => d.id ∉ disabled ∧ kind ∈ d.kinds) ∧
        ((g.detectorsFor kind).map Detector.id).Nodup) ∧
      ∀ id rule, g.rule? id = some rule ↔
        ∃ d ∈ registered, d.id = id ∧ id ∉ disabled ∧ d.rule = rule := by
  refine ⟨⟨fun ⟨g, hg⟩ => (build_eq_ok_iff.1 hg).1, fun hfit => ⟨_, build_eq_ok_iff.2 ⟨hfit, rfl⟩⟩⟩,
    fun e => build_eq_error_iff, fun g hg => ?_⟩
  obtain ⟨hfit, hdetectors⟩ := build_eq_ok_iff.1 hg
  have hsublist : g.detectors.Sublist registered := hdetectors ▸ List.filter_sublist
  have hdistinct : (g.detectors.map Detector.id).Nodup := hfit.distinct.sublist (hsublist.map _)
  refine ⟨fun kind => ⟨?_, ?_⟩, fun id rule => ?_⟩
  · rw [detectorsFor_eq, hdetectors, List.filter_filter]
    refine List.filter_congr fun d _ => ?_
    simp [and_comm]
  · rw [detectorsFor_eq]
    exact hdistinct.sublist (List.filter_sublist.map _)
  · rw [rule?_eq_some_iff hdistinct, hdetectors]
    simp only [List.mem_filter, Bool.not_eq_true', List.contains_eq_mem, decide_eq_false_iff_not]
    constructor
    · rintro ⟨d, ⟨hd, hon⟩, rfl, rfl⟩
      exact ⟨d, hd, rfl, hon, rfl⟩
    · rintro ⟨d, hd, rfl, hon, rfl⟩
      exact ⟨d, ⟨hd, hon⟩, rfl, rfl⟩

/-- A detector that finds nothing. -/
def idleDetector (id : String) (kinds : List Kind) : Detector :=
  .reporting ⟨id, .low, .quality, ""⟩ kinds fun _ _ => []

/-- Of three detectors one lists a kind twice and one is switched off. Of three others the second has
the id of the first again, which counts before its missing kinds, and before the missing id of the
third. -/
theorem build_of_registered_three :
    (∃ g, build [idleDetector "sample/b" [.call, .method, .call], idleDetector "sample/off" [.call],
        idleDetector "sample/a" [.call]] ["sample/off", "sample/unknown"] = .ok g ∧
      (g.detectorsFor .call).map Detector.id = ["sample/b", "sample/a"] ∧
      g.rule? "sample/off" = none) ∧
    build [idleDetector "sample/b" [.call], idleDetector "sample/b" [], idleDetector "" []]
      ["sample/b"] = .error (.duplicateRuleId "sample/b") := by
  constructor
  · obtain ⟨hbuilt, -, hthen⟩ := build_of_registered
      [idleDetector "sample/b" [.call, .method, .call], idleDetector "sample/off" [.call],
        idleDetector "sample/a" [.call]] ["sample/off", "sample/unknown"]
    obtain ⟨g, hg⟩ := hbuilt.2 ⟨by decide, by decide, by decide⟩
    obtain ⟨hkinds, hrules⟩ := hthen g hg
    refine ⟨g, hg, ?_, ?_⟩
    · rw [(hkinds .call).1]
      decide
    · refine Option.eq_none_iff_forall_ne_some.2 fun rule hrule => ?_
      obtain ⟨-, -, -, hon, -⟩ := (hrules _ _).1 hrule
      simp at hon
  · exact (build_of_registered _ _).2.1 _ |>.2 ⟨[idleDetector "sample/b" [.call]], _, _, rfl,
      ⟨by decide, by decide, by decide⟩, .duplicate (by decide) (by decide)⟩

end Registry

end TreeLint
