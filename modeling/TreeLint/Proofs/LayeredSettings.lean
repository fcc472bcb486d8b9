import Mathlib.Data.Nat.Digits.Defs
import Mathlib.Tactic.Ring
import TreeLint.Settings.Layers

/-!
# Settings come from the uppermost layer that sets them

Five layers make up the settings of a run. How a value comes about differs from value to value: an
optional one is replaced, a list is replaced unless the upper one is empty, and rules that are
disabled on the command line are added to a list.

**Theorem.** What loading gives is one of five outcomes (`Loading`), and which one is decided by
the two files in this order: a file of the user that can be read and describes no settings, a file
of the project that cannot be read, one that describes no settings; otherwise the layers are
resolved, and the result is handed on or refused by the check. In the result (`IsResolved`) each
optional value is that of the uppermost layer that sets it, so that the values of a layer do not
depend on one another.

A file of the user that cannot be read is as good as none, and a count in the environment that
cannot be read is as good as an unset variable.

The optional values are named by `Key`, with their types, so that one statement is about all of
them; `ext_get` is what makes such a statement say everything about the settings.

What is laid down speaks of the variables, texts and paths themselves: which directory is the home
(`IsHome`), where a file stands in a directory (`Joins`), and which text is a count (`IsCount`).
That paths and counts are computed so is proved first (`userPath?_eq_some_iff`,
`count?_eq_some_iff`).
-/

namespace TreeLint.Settings

/-! ## Values by name -/

/-- The settings that may be left out, each with the type of its values. -/
inductive Key : Type → Type
  | threads : Key Nat
  | fileTimeoutMs : Key Nat
  | failOn : Key String
  | includeSnippets : Key Bool
  | maxParameters : Key Nat
  | maxDecisionPoints : Key Nat
  | maxStatements : Key Nat
  | credentialPatterns : Key (List String)
  | credentialSlots : Key (List CredentialSlot)
  | querySinks : Key (List String)
  | deserializationSinks : Key (List String)
  | resourceAcquirers : Key (List String)
  | resourceTypes : Key (List String)
  | releaseMethods : Key (List String)
  | magicNumberAllowed : Key (List Float)
  | stringTypes : Key (List String)
  | unusedBindingIgnoreSideEffects : Key Bool
  | loopHighTripCount : Key Nat
  | loopLowTripCount : Key Nat

/-- The value under a key, if it is set. -/
def get (s : Settings) {α : Type} : Key α → Option α
  | .threads => s.analysis.threads
  | .fileTimeoutMs => s.analysis.fileTimeoutMs
  | .failOn => s.analysis.failOn
  | .includeSnippets => s.analysis.includeSnippets
  | .maxParameters => s.rules.maxParameters
  | .maxDecisionPoints => s.rules.maxDecisionPoints
  | .maxStatements => s.rules.maxStatements
  | .credentialPatterns => s.rules.credentialPatterns
  | .credentialSlots => s.rules.credentialSlots
  | .querySinks => s.rules.querySinks
  | .deserializationSinks => s.rules.deserializationSinks
  | .resourceAcquirers => s.rules.resourceAcquirers
  | .resourceTypes => s.rules.resourceTypes
  | .releaseMethods => s.rules.releaseMethods
  | .magicNumberAllowed => s.rules.magicNumberAllowed
  | .stringTypes => s.rules.stringTypes
  | .unusedBindingIgnoreSideEffects => s.rules.unusedBindingIgnoreSideEffects
  | .loopHighTripCount => s.rules.loopHighTripCount
  | .loopLowTripCount => s.rules.loopLowTripCount

/-- Settings are their optional values and their two lists. -/
theorem ext_get {s t : Settings} (hget : ∀ {α : Type} (k : Key α), s.get k = t.get k)
    (hdisabled : s.analysis.disabledRules = t.analysis.disabledRules)
    (hbroad : s.rules.broadExceptionTypes = t.rules.broadExceptionTypes) : s = t := by
  obtain ⟨⟨threads, timeout, disabled, failOn, snippets⟩,
    ⟨parameters, decisions, statements, patterns, slots, sinks, decoders, acquirers, types,
      releases, numbers, strings, broad, ignore, high, low⟩⟩ := s
  obtain rfl : threads = _ := hget .threads
  obtain rfl : timeout = _ := hget .fileTimeoutMs
  obtain rfl : disabled = _ := hdisabled
  obtain rfl : failOn = _ := hget .failOn
  obtain rfl : snippets = _ := hget .includeSnippets
  obtain rfl : parameters = _ := hget .maxParameters
  obtain rfl : decisions = _ := hget .maxDecisionPoints
  obtain rfl : statements = _ := hget .maxStatements
  obtain rfl : patterns = _ := hget .credentialPatterns
  obtain rfl : slots = _ := hget .credentialSlots
  obtain rfl : sinks = _ := hget .querySinks
  obtain rfl : decoders = _ := hget .deserializationSinks
  obtain rfl : acquirers = _ := hget .resourceAcquirers
  obtain rfl : types = _ := hget .resourceTypes
  obtain rfl : releases = _ := hget .releaseMethods
  obtain rfl : numbers = _ := hget .magicNumberAllowed
  obtain rfl : strings = _ := hget .stringTypes
  obtain rfl : broad = _ := hbroad
  obtain rfl : ignore = _ := hget .unusedBindingIgnoreSideEffects
  obtain rfl : high = _ := hget .loopHighTripCount
  obtain rfl : low = _ := hget .loopLowTripCount
  rfl

/-! ## Counts -/

/-- The value of decimal digits, the highest first. -/
def decimalValue (digits : List Char) : Nat :=
  Nat.ofDigits 10 (digits.map fun c => c.toNat - '0'.toNat).reverse

/-- A text stands for a count: at least one digit, maybe after a plus, and a value that fits into
64 bits. -/
def IsCount (text : String) (n : Nat) : Prop :=
  ∃ sign digits : List Char, text.toList = sign ++ digits ∧ (sign = [] ∨ sign = ['+']) ∧
    digits ≠ [] ∧ (∀ c ∈ digits, c.isDigit) ∧ n = decimalValue digits ∧ n < 2 ^ 64

theorem digitValue?_ten (c : Char) :
    Decimal.digitValue? 10 c = if c.isDigit then some (c.toNat - '0'.toNat) else none := by
  have hzero : '0'.toNat = 48 := rfl
  have hnine : '9'.toNat = 57 := rfl
  simp only [Char.isDigit_iff_toNat, Decimal.digitValue?, hzero, hnine, Bool.and_eq_true,
    decide_eq_true_eq]
  by_cases hdigit : 48 ≤ c.toNat ∧ c.toNat ≤ 57
  · have hlt : c.toNat - 48 < 10 := by omega
    rw [if_pos hdigit, if_pos hdigit, Option.filter_some, if_pos (decide_eq_true hlt)]
  · rw [if_neg hdigit, if_neg hdigit, Option.filter_eq_none_iff]
    -- A letter is worth ten at least.
    intro v hv
    have hletter : 10 ≤ v := by grind
    simpa using hletter

theorem foldlM_digits_eq_some_iff {digits : List Char} {acc n : Nat} :
    digits.foldlM (fun acc c => (Decimal.digitValue? 10 c).map (acc * 10 + ·)) acc = some n ↔
      (∀ c ∈ digits, c.isDigit) ∧ n = acc * 10 ^ digits.length + decimalValue digits := by
  induction digits generalizing acc with
  | nil => simpa [decimalValue] using eq_comm
  | cons c digits ih =>
    by_cases hc : c.isDigit
    · have hvalue : decimalValue (c :: digits) =
          decimalValue digits + 10 ^ digits.length * (c.toNat - '0'.toNat) := by
        simp only [decimalValue, List.map_cons, Nat.ofDigits_reverse_cons, List.length_map]
      have hacc : acc * 10 ^ (digits.length + 1) + decimalValue (c :: digits) =
          (acc * 10 + (c.toNat - '0'.toNat)) * 10 ^ digits.length + decimalValue digits := by
        rw [hvalue]
        ring
      rw [List.foldlM_cons, digitValue?_ten, if_pos hc, Option.map_some, Option.bind_eq_bind,
        Option.bind_some, ih, List.forall_mem_cons, List.length_cons, hacc]
      simp only [hc, true_and]
    · rw [List.foldlM_cons, digitValue?_ten, if_neg hc]
      simp [hc]

theorem natOfDigits?_ten_eq_some_iff {digits : List Char} {n : Nat} :
    Decimal.natOfDigits? 10 digits = some n ↔
      digits ≠ [] ∧ (∀ c ∈ digits, c.isDigit) ∧ n = decimalValue digits := by
  cases digits with
  | nil => simp [Decimal.natOfDigits?]
  | cons c digits =>
    rw [Decimal.natOfDigits?, List.isEmpty_cons, if_neg Bool.false_ne_true,
      foldlM_digits_eq_some_iff]
    simp

/-- What a text is read as is the count that it stands for. -/
theorem count?_eq_some_iff {text : String} {n : Nat} : count? text = some n ↔ IsCount text n := by
  have hplus : '+'.isDigit = false := by decide
  have hread : ∀ digits : List Char,
      (Decimal.natOfDigits? 10 digits).filter (· < 0x10000000000000000) = some n ↔
        digits ≠ [] ∧ (∀ c ∈ digits, c.isDigit) ∧ n = decimalValue digits ∧ n < 2 ^ 64 := by
    intro digits
    rw [Option.filter_eq_some_iff, natOfDigits?_ten_eq_some_iff, decide_eq_true_eq, and_assoc,
      and_assoc]
    rfl
  rw [count?, IsCount, hread]
  split
  · next digits htext =>
    constructor
    · exact fun h => ⟨['+'], digits, htext, .inr rfl, h⟩
    · rintro ⟨sign, digits', htext', rfl | rfl, h⟩
      · -- No digits begin with a plus.
        obtain rfl : digits' = '+' :: digits := (htext'.symm.trans htext)
        exact absurd (h.2.1 '+' List.mem_cons_self) (by simp [hplus])
      · obtain rfl : digits' = digits := List.cons.inj (htext'.symm.trans htext) |>.2
        exact h
  · next htext =>
    constructor
    · exact fun h => ⟨[], text.toList, rfl, .inl rfl, h⟩
    · rintro ⟨sign, digits, htext', rfl | rfl, h⟩
      · exact htext' ▸ h
      · exact absurd htext' (htext digits)

/-! ## The environment -/

/-- A variable of the environment holds a count. -/
def HoldsCount (lookup : String → Option String) (name : String) (n : Nat) : Prop :=
  ∃ text, lookup name = some text ∧ IsCount text n

/-- What the environment sets: the counts that can be read, and the gate whatever it says. -/
def VariableSets (lookup : String → Option String) : {α : Type} → Key α → α → Prop
  | _, .threads, n => HoldsCount lookup "FAULTLINE_THREADS" n
  | _, .fileTimeoutMs, n => HoldsCount lookup "FAULTLINE_FILE_TIMEOUT_MS" n
  | _, .failOn, name => lookup "FAULTLINE_FAIL_ON" = some name
  | _, .maxParameters, n => HoldsCount lookup "FAULTLINE_MAX_PARAMETERS" n
  | _, .maxDecisionPoints, n => HoldsCount lookup "FAULTLINE_MAX_DECISION_POINTS" n
  | _, _, _ => False

/-- The layer of the environment. -/
structure IsEnvironment (lookup : String → Option String) (env : Settings) : Prop where
  get_iff : ∀ {α : Type} (k : Key α) (v : α), env.get k = some v ↔ VariableSets lookup k v

/-- The layer of the environment, as it is read. -/
def ofVariables (lookup : String → Option String) : Settings where
  analysis :=
    { threads := (lookup "FAULTLINE_THREADS").bind count?
      fileTimeoutMs := (lookup "FAULTLINE_FILE_TIMEOUT_MS").bind count?
      failOn := lookup "FAULTLINE_FAIL_ON" }
  rules :=
    { maxParameters := (lookup "FAULTLINE_MAX_PARAMETERS").bind count?
      maxDecisionPoints := (lookup "FAULTLINE_MAX_DECISION_POINTS").bind count? }

theorem bind_count?_eq_some_iff {lookup : String → Option String} {name : String} {n : Nat} :
    (lookup name).bind count? = some n ↔ HoldsCount lookup name n := by
  simp only [Option.bind_eq_some_iff, count?_eq_some_iff, HoldsCount]

theorem isEnvironment_ofVariables (lookup : String → Option String) :
    IsEnvironment lookup (ofVariables lookup) := by
  refine ⟨fun k v => ?_⟩
  cases k with
  | threads | fileTimeoutMs | maxParameters | maxDecisionPoints => exact bind_count?_eq_some_iff
  | failOn => exact Iff.rfl
  | _ => simp [get, ofVariables, VariableSets]

theorem IsEnvironment.get_eq {lookup : String → Option String} {env env' : Settings}
    (h : IsEnvironment lookup env) (h' : IsEnvironment lookup env') {α : Type} (k : Key α) :
    env.get k = env'.get k :=
  Option.ext fun v => (h.get_iff k v).trans (h'.get_iff k v).symm

/-! ## The layers -/

/-- What the command line sets, the rules that it disables apart. -/
def ofOverrides (o : Overrides) : Settings where
  analysis := { threads := o.threads, fileTimeoutMs := o.fileTimeoutMs, failOn := o.failOn }
  rules := { maxParameters := o.maxParameters, maxDecisionPoints := o.maxDecisionPoints }

/-- The settings that the layers add up to. -/
structure IsResolved (user project env : Settings) (overrides : Option Overrides)
    (s : Settings) : Prop where
  get : ∀ {α : Type} (k : Key α),
    s.get k = [ofOverrides (overrides.getD {}), env, project, user].findSome? (·.get k)
  disabledRules : s.analysis.disabledRules =
    (if project.analysis.disabledRules = [] then user.analysis.disabledRules
     else project.analysis.disabledRules) ++ (overrides.getD {}).disabledRules
  broadExceptionTypes : s.rules.broadExceptionTypes =
    if project.rules.broadExceptionTypes = [] then user.rules.broadExceptionTypes
    else project.rules.broadExceptionTypes

/-- The layers put on top of each other. -/
def resolve (user project : Settings) (lookup : String → Option String)
    (overrides : Option Overrides) : Settings :=
  let s := (project.above user).withVariables lookup
  (overrides.map fun o => s.withOverrides o).getD s

theorem overList_eq {α : Type} (upper lower : List α) :
    overList upper lower = if upper = [] then lower else upper := by
  cases upper <;> rfl

theorem withOverrides_default (s : Settings) : s.withOverrides {} = s := by
  simp [withOverrides]

theorem resolve_eq (user project : Settings) (lookup : String → Option String)
    (overrides : Option Overrides) :
    resolve user project lookup overrides =
      ((project.above user).withVariables lookup).withOverrides (overrides.getD {}) := by
  cases overrides with
  | none => exact (withOverrides_default _).symm
  | some o => rfl

theorem findSome?_four {α : Type} (get : Settings → Option α) (a b c d : Settings) :
    [a, b, c, d].findSome? get = (get a).or ((get b).or ((get c).or (get d))) := by
  simp only [List.findSome?_cons, List.findSome?_nil]
  cases get a <;> cases get b <;> cases get c <;> cases get d <;> rfl

/-- The layers that are put on top of each other resolve each value. -/
theorem isResolved_resolve (user project : Settings) (lookup : String → Option String)
    (overrides : Option Overrides) :
    IsResolved user project (ofVariables lookup) overrides
      (resolve user project lookup overrides) := by
  rw [resolve_eq]
  refine ⟨fun k => ?_, ?_, ?_⟩
  · rw [findSome?_four]
    cases k <;> rfl
  · exact congrArg (· ++ _) (overList_eq _ _)
  · exact overList_eq _ _

theorem isResolved_iff {user project env s : Settings} {lookup : String → Option String}
    {overrides : Option Overrides} (henv : IsEnvironment lookup env) :
    IsResolved user project env overrides s ↔ s = resolve user project lookup overrides := by
  have hget : ∀ {α : Type} (k : Key α), env.get k = (ofVariables lookup).get k := fun k =>
    henv.get_eq (isEnvironment_ofVariables lookup) k
  have h' := isResolved_resolve user project lookup overrides
  constructor
  · intro h
    refine ext_get (fun k => ?_) (h.disabledRules.trans h'.disabledRules.symm)
      (h.broadExceptionTypes.trans h'.broadExceptionTypes.symm)
    rw [h.get, h'.get, findSome?_four, findSome?_four, hget]
  · rintro rfl
    refine ⟨fun k => ?_, h'.disabledRules, h'.broadExceptionTypes⟩
    rw [h'.get, findSome?_four, findSome?_four, hget]

/-! ## The files -/

/-- The home directory, by the variables: `HOME`, and `USERPROFILE` where that is not set. -/
inductive IsHome (lookup : String → Option String) (directory : String) : Prop
  | home (h : lookup "HOME" = some directory)
  | profile (hhome : lookup "HOME" = none) (h : lookup "USERPROFILE" = some directory)

/-- The path of a name in a directory. A slash goes between them, unless the directory is empty or
ends in one. -/
inductive Joins (directory name : String) : String → Prop
  | bare (h : directory = "" ∨ ∃ start, directory = start ++ "/") :
      Joins directory name (directory ++ name)
  | slash (h : ¬(directory = "" ∨ ∃ start, directory = start ++ "/")) :
      Joins directory name (directory ++ "/" ++ name)

/-- The settings file of the user. -/
def IsUserPath (lookup : String → Option String) (path : String) : Prop :=
  ∃ directory, IsHome lookup directory ∧ Joins directory ".faultline/config.toml" path

/-- The settings file of a project. -/
def IsProjectPath (root path : String) : Prop := Joins root "faultline.toml" path

/-- The file of the user can be read. -/
def UserText (world : Surroundings) (path text : String) : Prop :=
  IsUserPath world.lookup path ∧ world.files path = .text text

/-- What the file of the user sets. -/
inductive UserSets (world : Surroundings) : Settings → Prop
  | nothing (h : ∀ path text, ¬UserText world path text) : UserSets world {}
  | text {path text : String} {s : Settings} (h : UserText world path text)
      (hread : ofText? text = some s) : UserSets world s

/-- What the file of the project sets. -/
inductive ProjectSets (root : String) (world : Surroundings) : Settings → Prop
  | nothing {path : String} (hpath : IsProjectPath root path) (h : world.files path = .absent) :
      ProjectSets root world {}
  | text {path text : String} {s : Settings} (hpath : IsProjectPath root path)
      (h : world.files path = .text text) (hread : ofText? text = some s) :
      ProjectSets root world s

/-- What can come of loading settings. -/
inductive Loading (root : String) (world : Surroundings) (overrides : Option Overrides) :
    Except SettingsError Settings → Prop
  | brokenUser {path text : String} (h : UserText world path text)
      (hread : ofText? text = none) :
      Loading root world overrides (.error (.unparsable path "the text describes no settings"))
  | unreadableProject {user : Settings} {path : String} (huser : UserSets world user)
      (hpath : IsProjectPath root path) (h : world.files path = .unreadable) :
      Loading root world overrides (.error (.fileNotFound path))
  | brokenProject {user : Settings} {path text : String} (huser : UserSets world user)
      (hpath : IsProjectPath root path) (h : world.files path = .text text)
      (hread : ofText? text = none) :
      Loading root world overrides (.error (.unparsable path "the text describes no settings"))
  | accepted {user project env s : Settings} (huser : UserSets world user)
      (hproject : ProjectSets root world project) (henv : IsEnvironment world.lookup env)
      (hs : IsResolved user project env overrides s) (hcheck : s.check = .ok ()) :
      Loading root world overrides (.ok s)
  | refused {user project env s : Settings} {e : SettingsError} (huser : UserSets world user)
      (hproject : ProjectSets root world project) (henv : IsEnvironment world.lookup env)
      (hs : IsResolved user project env overrides s) (hcheck : s.check = .error e) :
      Loading root world overrides (.error e)

/-! ## Where the files are -/

theorem endsWith_slash_iff (directory : String) :
    directory.endsWith "/" = true ↔ ∃ start, directory = start ++ "/" := by
  rw [String.endsWith_eq_endsWith_toSlice, String.Slice.endsWith_string_iff, String.copy_toSlice]
  constructor
  · rintro ⟨start, hstart⟩
    refine ⟨String.ofList start, String.toList_injective ?_⟩
    rw [String.toList_append, String.toList_ofList, hstart]
  · rintro ⟨start, rfl⟩
    rw [String.toList_append]
    exact List.suffix_append _ _

theorem joins_iff {directory name path : String} :
    Joins directory name path ↔ path = join directory name := by
  have hbare : (directory.isEmpty || directory.endsWith "/") = true ↔
      directory = "" ∨ ∃ start, directory = start ++ "/" := by
    rw [Bool.or_eq_true, String.isEmpty_iff, endsWith_slash_iff]
  unfold join
  constructor
  · rintro (h | h)
    · rw [if_pos (hbare.2 h)]
    · rw [if_neg (mt hbare.1 h)]
  · rintro rfl
    split
    · next h => exact .bare (hbare.1 h)
    · next h => exact .slash (mt hbare.2 h)

theorem isHome_iff {lookup : String → Option String} {directory : String} :
    IsHome lookup directory ↔ (lookup "HOME").or (lookup "USERPROFILE") = some directory := by
  constructor
  · rintro (h | ⟨hhome, h⟩)
    · rw [h, Option.some_or]
    · rw [hhome, Option.none_or, h]
  · intro h
    cases hhome : lookup "HOME" with
    | none => exact .profile hhome (by simpa [hhome] using h)
    | some d => exact .home (by simpa [hhome] using h)

/-- The file of the user is looked for where it should be. -/
theorem userPath?_eq_some_iff {lookup : String → Option String} {path : String} :
    userPath? lookup = some path ↔ IsUserPath lookup path := by
  rw [userPath?, Option.map_eq_some_iff, IsUserPath]
  exact exists_congr fun directory => by rw [isHome_iff, joins_iff, @eq_comm _ path]

theorem isProjectPath_iff {root path : String} :
    IsProjectPath root path ↔ path = projectPath root :=
  joins_iff

/-! ## Loading -/

/-- The text of the file of the user with its path, as it is read. -/
def userText? (world : Surroundings) : Option (String × String) :=
  (userPath? world.lookup).bind fun path =>
    match world.files path with
    | .text text => some (path, text)
    | _ => none

theorem userText?_eq_some_iff {world : Surroundings} {path text : String} :
    userText? world = some (path, text) ↔ UserText world path text := by
  rw [userText?, Option.bind_eq_some_iff, UserText, ← userPath?_eq_some_iff]
  constructor
  · rintro ⟨path', hpath, h⟩
    cases hfile : world.files path' <;> simp only [hfile] at h
    · cases h
    · cases h
    · obtain ⟨rfl, rfl⟩ := Prod.mk.inj (Option.some.inj h)
      exact ⟨hpath, hfile⟩
  · rintro ⟨hpath, hfile⟩
    exact ⟨path, hpath, by simp only [hfile]⟩

/-- The settings in the file of the user. -/
def userSettings (world : Surroundings) : Except SettingsError Settings :=
  match userText? world with
  | some (path, text) => read path text
  | none => .ok {}

/-- Settings that pass the check. -/
def accept (s : Settings) : Except SettingsError Settings := do
  s.check
  return s

theorem accept_eq (s : Settings) : s.accept = s.check.map fun _ => s := by
  unfold accept
  cases s.check <;> rfl

/-- Loading takes the file of the user, then that of the project, then resolves the layers. -/
theorem load_eq (root : String) (world : Surroundings) (overrides : Option Overrides) :
    load root world overrides =
      (userSettings world).bind fun user =>
        (projectLayer (projectPath root) (world.files (projectPath root))).bind fun project =>
          (resolve user project world.lookup overrides).accept := by
  unfold load userSettings userText?
  cases userPath? world.lookup with
  | none => rfl
  | some path =>
    cases hfile : world.files path <;> simp [userLayer, hfile] <;> rfl

theorem read_of_some {path text : String} {s : Settings} (h : ofText? text = some s) :
    read path text = .ok s := by
  simp [read, h]

theorem read_of_none {path text : String} (h : ofText? text = none) :
    read path text = .error (.unparsable path "the text describes no settings") := by
  simp [read, h]

theorem UserText.userSettings_eq {world : Surroundings} {path text : String}
    (h : UserText world path text) : userSettings world = read path text := by
  rw [userSettings, userText?_eq_some_iff.2 h]

theorem UserSets.userSettings_eq {world : Surroundings} {user : Settings}
    (h : UserSets world user) : userSettings world = .ok user := by
  cases h with
  | nothing h =>
    have hnone : userText? world = none :=
      Option.eq_none_iff_forall_ne_some.2 fun file hfile =>
        h file.1 file.2 (userText?_eq_some_iff.1 hfile)
    rw [userSettings, hnone]
  | text h hread => rw [h.userSettings_eq, read_of_some hread]

theorem ProjectSets.projectLayer_eq {root : String} {world : Surroundings} {project : Settings}
    (h : ProjectSets root world project) :
    projectLayer (projectPath root) (world.files (projectPath root)) = .ok project := by
  cases h with
  | nothing hpath h =>
    rw [← isProjectPath_iff.1 hpath, h]
    rfl
  | text hpath h hread =>
    rw [← isProjectPath_iff.1 hpath, h]
    exact read_of_some hread

theorem userSets_or_broken (world : Surroundings) :
    (∃ user, UserSets world user) ∨
      ∃ path text, UserText world path text ∧ ofText? text = none := by
  by_cases h : ∃ path text, UserText world path text
  · obtain ⟨path, text, h⟩ := h
    cases hread : ofText? text with
    | none => exact .inr ⟨path, text, h, hread⟩
    | some s => exact .inl ⟨s, .text h hread⟩
  · exact .inl ⟨{}, .nothing fun path text htext => h ⟨path, text, htext⟩⟩

theorem projectSets_or_broken (root : String) (world : Surroundings) :
    (∃ project, ProjectSets root world project) ∨
      ∃ path, IsProjectPath root path ∧ (world.files path = .unreadable ∨
        ∃ text, world.files path = .text text ∧ ofText? text = none) := by
  have hpath : IsProjectPath root (projectPath root) := isProjectPath_iff.2 rfl
  cases h : world.files (projectPath root) with
  | absent => exact .inl ⟨{}, .nothing hpath h⟩
  | unreadable => exact .inr ⟨_, hpath, .inl h⟩
  | text text =>
    cases hread : ofText? text with
    | none => exact .inr ⟨_, hpath, .inr ⟨text, h, hread⟩⟩
    | some s => exact .inl ⟨s, .text hpath h hread⟩

theorem Loading.load_eq {root : String} {world : Surroundings} {overrides : Option Overrides}
    {r : Except SettingsError Settings} (h : Loading root world overrides r) :
    load root world overrides = r := by
  rw [Settings.load_eq]
  cases h with
  | brokenUser h hread =>
    rw [h.userSettings_eq, read_of_none hread]
    rfl
  | unreadableProject huser hpath h =>
    obtain rfl := isProjectPath_iff.1 hpath
    rw [huser.userSettings_eq, h]
    rfl
  | brokenProject huser hpath h hread =>
    obtain rfl := isProjectPath_iff.1 hpath
    rw [huser.userSettings_eq, h, projectLayer, read_of_none hread]
    rfl
  | accepted huser hproject henv hs hcheck =>
    obtain rfl := (isResolved_iff henv).1 hs
    rw [huser.userSettings_eq, hproject.projectLayer_eq]
    exact (accept_eq _).trans (congrArg _ hcheck)
  | refused huser hproject henv hs hcheck =>
    obtain rfl := (isResolved_iff henv).1 hs
    rw [huser.userSettings_eq, hproject.projectLayer_eq]
    exact (accept_eq _).trans (congrArg _ hcheck)

/-- Loading has one of the outcomes. -/
theorem exists_loading (root : String) (world : Surroundings) (overrides : Option Overrides) :
    ∃ r, Loading root world overrides r := by
  obtain ⟨user, huser⟩ | ⟨path, text, h, hread⟩ := userSets_or_broken world
  · obtain ⟨project, hproject⟩ | ⟨path, hpath, h | ⟨text, h, hread⟩⟩ :=
      projectSets_or_broken root world
    · have henv := isEnvironment_ofVariables world.lookup
      have hs := isResolved_resolve user project world.lookup overrides
      cases hcheck : (resolve user project world.lookup overrides).check with
      | ok u => exact ⟨_, .accepted huser hproject henv hs hcheck⟩
      | error e => exact ⟨_, .refused huser hproject henv hs hcheck⟩
    · exact ⟨_, .unreadableProject huser hpath h⟩
    · exact ⟨_, .brokenProject huser hpath h hread⟩
  · exact ⟨_, .brokenUser h hread⟩

/-! ## What loading does not depend on -/

/-- Surroundings that differ at most in where the file of the user cannot be had, in counts that
cannot be read, and in what is not looked at. -/
structure SameFor (root : String) (world world' : Surroundings) : Prop where
  user : ∀ path text, UserText world' path text ↔ UserText world path text
  project : ∀ path, IsProjectPath root path → world'.files path = world.files path
  environment : ∀ {α : Type} (k : Key α) (v : α),
    VariableSets world'.lookup k v ↔ VariableSets world.lookup k v

namespace SameFor

variable {root : String} {world world' : Surroundings}

theorem userSets (h : SameFor root world world') {user : Settings} (huser : UserSets world user) :
    UserSets world' user := by
  cases huser with
  | nothing hnone => exact .nothing fun path text htext => hnone path text ((h.user _ _).1 htext)
  | text htext hread => exact .text ((h.user _ _).2 htext) hread

theorem projectSets (h : SameFor root world world') {project : Settings}
    (hproject : ProjectSets root world project) : ProjectSets root world' project := by
  cases hproject with
  | nothing hpath hfile => exact .nothing hpath ((h.project _ hpath).trans hfile)
  | text hpath hfile hread => exact .text hpath ((h.project _ hpath).trans hfile) hread

theorem isEnvironment (h : SameFor root world world') {env : Settings}
    (henv : IsEnvironment world.lookup env) : IsEnvironment world'.lookup env :=
  ⟨fun k v => (henv.get_iff k v).trans (h.environment k v).symm⟩

theorem loading (h : SameFor root world world') {overrides : Option Overrides}
    {r : Except SettingsError Settings} (hr : Loading root world overrides r) :
    Loading root world' overrides r := by
  cases hr with
  | brokenUser htext hread => exact .brokenUser ((h.user _ _).2 htext) hread
  | unreadableProject huser hpath hfile =>
    exact .unreadableProject (h.userSets huser) hpath ((h.project _ hpath).trans hfile)
  | brokenProject huser hpath hfile hread =>
    exact .brokenProject (h.userSets huser) hpath ((h.project _ hpath).trans hfile) hread
  | accepted huser hproject henv hs hcheck =>
    exact .accepted (h.userSets huser) (h.projectSets hproject) (h.isEnvironment henv) hs hcheck
  | refused huser hproject henv hs hcheck =>
    exact .refused (h.userSets huser) (h.projectSets hproject) (h.isEnvironment henv) hs hcheck

end SameFor

/-- **Layered settings.** Loading has exactly the outcomes that are laid down, and what cannot be
read of the user and of counts in the environment has no effect. -/
theorem load_layered (root : String) (world : Surroundings) (overrides : Option Overrides) :
    (∀ r, load root world overrides = r ↔ Loading root world overrides r) ∧
      ∀ world', SameFor root world world' →
        load root world' overrides = load root world overrides := by
  have hall : ∀ r, load root world overrides = r ↔ Loading root world overrides r := by
    refine fun r => ⟨?_, Loading.load_eq⟩
    rintro rfl
    obtain ⟨r, hr⟩ := exists_loading root world overrides
    exact hr.load_eq ▸ hr
  exact ⟨hall, fun world' h => (h.loading ((hall _).1 rfl)).load_eq⟩

/-- A project whose file sets a gate. -/
def gatedProject : String → SettingsFile
  | "work/faultline.toml" => .text "[analysis]\nfail_on = 'low'\n"
  | _ => .absent

/-- A user without a file. -/
def quietSurroundings : Surroundings where
  files := gatedProject
  lookup name := if name = "HOME" then some "home" else none

/-- A user whose file cannot be read, with a number of threads that is no number. -/
def garbledSurroundings : Surroundings where
  files path := if path = "home/.faultline/config.toml" then .unreadable else gatedProject path
  lookup name := if name = "FAULTLINE_THREADS" then some "many" else quietSurroundings.lookup name

theorem sameFor_garbled : SameFor "work" quietSurroundings garbledSurroundings where
  user path text := by
    have hfile : userText? garbledSurroundings = userText? quietSurroundings := by decide +kernel
    rw [← userText?_eq_some_iff, ← userText?_eq_some_iff, hfile]
  project path hpath := by
    obtain rfl := isProjectPath_iff.1 hpath
    decide +kernel
  environment k v := by
    rw [← (isEnvironment_ofVariables _).get_iff, ← (isEnvironment_ofVariables _).get_iff]
    have hget : (ofVariables garbledSurroundings.lookup).get k =
        (ofVariables quietSurroundings.lookup).get k := by
      cases k with
      | threads | fileTimeoutMs | failOn | maxParameters | maxDecisionPoints => decide +kernel
      | _ => rfl
    rw [hget]

/-- A user without a home but with a profile, whose file sets two values, one of which the project
sets too. Of two counts in the environment one can be read. -/
def layeredSurroundings : Surroundings where
  files path :=
    if path = "/users/me/.faultline/config.toml" then
      .text "[analysis]\nfail_on = 'high'\n[rules]\nmax_parameters = 3\n"
    else gatedProject path
  lookup
    | "USERPROFILE" => some "/users/me/"
    | "FAULTLINE_THREADS" => some "+4"
    | "FAULTLINE_MAX_PARAMETERS" => some "many"
    | _ => none

/-- Each of three layers has its say, a count that is none has not, and neither has a file that
cannot be read. -/
theorem load_layered_garbled :
    (∃ s, load "work" layeredSurroundings none = .ok s ∧
      Loading "work" layeredSurroundings none (.ok s) ∧
      s.analysis.threads = some 4 ∧ s.analysis.failOn = some "low" ∧
      s.rules.maxParameters = some 3) ∧
    SameFor "work" quietSurroundings garbledSurroundings ∧
      load "work" garbledSurroundings none = load "work" quietSurroundings none := by
  refine ⟨?_, sameFor_garbled,
    (load_layered "work" quietSurroundings none).2 garbledSurroundings sameFor_garbled⟩
  have hvalues : ((load "work" layeredSurroundings none).toOption.map fun s =>
      (s.analysis.threads, s.analysis.failOn, s.rules.maxParameters)) =
        some (some 4, some "low", some 3) := by decide +kernel
  cases hload : load "work" layeredSurroundings none with
  | error e => simp [hload, Except.toOption] at hvalues
  | ok s =>
    simp only [hload, Except.toOption, Option.map_some, Option.some.injEq, Prod.mk.injEq]
      at hvalues
    exact ⟨s, rfl, ((load_layered "work" layeredSurroundings none).1 _).1 hload, hvalues⟩

end TreeLint.Settings
