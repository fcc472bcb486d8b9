import TreeLint.Settings.Check

/-!
# Settings in layers

The settings of a run come from five layers: the command line, variables of the environment, the
file of the project, the file of the user, and defaults, in this order of priority. An upper
layer that sets a value hides that value of the lower ones; a list that is empty sets nothing.
Rules that are disabled on the command line are disabled in addition to those of the files.

A file that does not describe settings is an error. A file of the user that cannot be read is
passed over, a file of the project that cannot be read is an error. Values are checked once, when
all layers are in.
-/

namespace TreeLint

/-- What there is at the path of a settings file. -/
inductive SettingsFile where
  | absent
  /-- Something is there, but its text cannot be read. -/
  | unreadable
  | text (s : String)
deriving DecidableEq, Inhabited, Repr

/-- A file with given bytes, which can be read if they are UTF-8. -/
def SettingsFile.ofBytes (bytes : ByteArray) : SettingsFile :=
  match String.fromUTF8? bytes with
  | some s => .text s
  | none => .unreadable

/-- What the command line sets. -/
structure Overrides where
  threads : Option Nat := none
  fileTimeoutMs : Option Nat := none
  failOn : Option String := none
  maxParameters : Option Nat := none
  maxDecisionPoints : Option Nat := none
  /-- Further rules to disable. -/
  disabledRules : List String := []
deriving DecidableEq, Inhabited, Repr

/-- The world that settings are loaded from. -/
structure Surroundings where
  /-- What there is at a path. -/
  files : String → SettingsFile := fun _ => .absent
  /-- The value of a variable of the environment. -/
  lookup : String → Option String := fun _ => none

namespace Settings

/-! ## Merging -/

/-- The upper list, or the lower one if the upper is empty. -/
def overList {α : Type} (upper lower : List α) : List α := if upper.isEmpty then lower else upper

/-- The settings of an upper layer over those of a lower one. -/
def above (upper lower : Settings) : Settings where
  analysis :=
    let (u, l) := (upper.analysis, lower.analysis)
    { threads := u.threads.or l.threads
      fileTimeoutMs := u.fileTimeoutMs.or l.fileTimeoutMs
      disabledRules := overList u.disabledRules l.disabledRules
      failOn := u.failOn.or l.failOn
      includeSnippets := u.includeSnippets.or l.includeSnippets }
  rules :=
    let (u, l) := (upper.rules, lower.rules)
    { maxParameters := u.maxParameters.or l.maxParameters
      maxDecisionPoints := u.maxDecisionPoints.or l.maxDecisionPoints
      maxStatements := u.maxStatements.or l.maxStatements
      credentialPatterns := u.credentialPatterns.or l.credentialPatterns
      credentialSlots := u.credentialSlots.or l.credentialSlots
      querySinks := u.querySinks.or l.querySinks
      deserializationSinks := u.deserializationSinks.or l.deserializationSinks
      resourceAcquirers := u.resourceAcquirers.or l.resourceAcquirers
      resourceTypes := u.resourceTypes.or l.resourceTypes
      releaseMethods := u.releaseMethods.or l.releaseMethods
      magicNumberAllowed := u.magicNumberAllowed.or l.magicNumberAllowed
      stringTypes := u.stringTypes.or l.stringTypes
      broadExceptionTypes := overList u.broadExceptionTypes l.broadExceptionTypes
      unusedBindingIgnoreSideEffects :=
        u.unusedBindingIgnoreSideEffects.or l.unusedBindingIgnoreSideEffects
      loopHighTripCount := u.loopHighTripCount.or l.loopHighTripCount
      loopLowTripCount := u.loopLowTripCount.or l.loopLowTripCount }

/-- The count that a text stands for: digits after an optional plus, below `2^64`. -/
def count? (text : String) : Option Nat :=
  let digits := match text.toList with
    | '+' :: s => s
    | s => s
  (Decimal.natOfDigits? 10 digits).filter (· < 0x10000000000000000)

/-- The settings under the variables of the environment. A count that cannot be read does not
count. -/
def withVariables (lookup : String → Option String) (s : Settings) : Settings :=
  let number (name : String) : Option Nat := (lookup name).bind count?
  { analysis :=
      { s.analysis with
        threads := (number "FAULTLINE_THREADS").or s.analysis.threads
        fileTimeoutMs := (number "FAULTLINE_FILE_TIMEOUT_MS").or s.analysis.fileTimeoutMs
        failOn := (lookup "FAULTLINE_FAIL_ON").or s.analysis.failOn }
    rules :=
      { s.rules with
        maxParameters := (number "FAULTLINE_MAX_PARAMETERS").or s.rules.maxParameters
        maxDecisionPoints :=
          (number "FAULTLINE_MAX_DECISION_POINTS").or s.rules.maxDecisionPoints } }

/-- The settings under the command line. -/
def withOverrides (o : Overrides) (s : Settings) : Settings where
  analysis :=
    { s.analysis with
      threads := o.threads.or s.analysis.threads
      fileTimeoutMs := o.fileTimeoutMs.or s.analysis.fileTimeoutMs
      failOn := o.failOn.or s.analysis.failOn
      disabledRules := s.analysis.disabledRules ++ o.disabledRules }
  rules :=
    { s.rules with
      maxParameters := o.maxParameters.or s.rules.maxParameters
      maxDecisionPoints := o.maxDecisionPoints.or s.rules.maxDecisionPoints }

/-! ## Files -/

/-- A name in a directory. -/
def join (directory name : String) : String :=
  if directory.isEmpty || directory.endsWith "/" then directory ++ name
  else directory ++ "/" ++ name

/-- The settings file of a project. -/
def projectPath (root : String) : String := join root "faultline.toml"

/-- The settings file of the user, in the home directory if there is one. -/
def userPath? (lookup : String → Option String) : Option String :=
  ((lookup "HOME").or (lookup "USERPROFILE")).map (join · ".faultline/config.toml")

/-- The settings in the file of the user. -/
def userLayer (path : String) : SettingsFile → Except SettingsError Settings
  | .text s => read path s
  | _ => .ok {}

/-- The settings in the file of a project. -/
def projectLayer (path : String) : SettingsFile → Except SettingsError Settings
  | .absent => .ok {}
  | .unreadable => .error (.fileNotFound path)
  | .text s => read path s

/-! ## Loading -/

/-- The settings of a project, all layers in. -/
def load (root : String) (world : Surroundings) (overrides : Option Overrides) :
    Except SettingsError Settings := do
  let user ← match userPath? world.lookup with
    | some path => userLayer path (world.files path)
    | none => .ok {}
  let project ← projectLayer (projectPath root) (world.files (projectPath root))
  let s := (project.above user).withVariables world.lookup
  let s := (overrides.map fun o => s.withOverrides o).getD s
  s.check
  return s

end Settings

end TreeLint
