import TreeLint.Error
import TreeLint.Finding.Rule
import TreeLint.Regex.OfString
import TreeLint.Settings.Reader
import TreeLint.Text.Quoted

/-!
# Checking settings

Settings that can be read may still make no sense. `Settings.check` goes through the values in a
fixed order and complains of the first that is not allowed. It looks at the values that are set,
not at the defaults in force; only the patterns of credential names are looked at in either case.

`Settings.parse` reads a text and checks what it says.
-/

namespace TreeLint

namespace Settings

/-- The name of a severity, if there is one. -/
def checkGate : Option String → Except SettingsError Unit
  | none => .ok ()
  | some name =>
    if (Severity.ofName? name).isSome then .ok ()
    else
      let expected := Text.quotedList (Severity.all.map Severity.settingsName)
      .error (.invalid "analysis.fail_on" s!"unknown severity '{name}', expected one of {expected}")

/-- A count that must not be zero. -/
def checkPositive (field : String) (count : Option Nat) : Except SettingsError Unit :=
  if count == some 0 then .error (.invalid field "must be greater than 0") else .ok ()

/-- A cold loop has fewer rounds than a hot one, if both are set. -/
def checkTripCounts (high low : Option Nat) : Except SettingsError Unit :=
  match high, low with
  | some high, some low =>
    if high ≤ low then
      .error (.invalid "rules.loop_low_trip_count" "must be lower than rules.loop_high_trip_count")
    else .ok ()
  | _, _ => .ok ()

/-- Patterns each of which has to be a regular expression. -/
def checkPatterns (patterns : List String) : Except SettingsError Unit :=
  match patterns.find? fun p => (Regex.ofString? p).isNone with
  | some p => .error (.invalid "rules.credential_patterns" s!"invalid pattern '{p}'")
  | none => .ok ()

/-- Complains of the first value that is not allowed. -/
def check (s : Settings) : Except SettingsError Unit := do
  checkGate s.analysis.failOn
  checkPositive "analysis.threads" s.analysis.threads
  checkPositive "analysis.file_timeout_ms" s.analysis.fileTimeoutMs
  checkPositive "rules.max_parameters" s.rules.maxParameters
  checkPositive "rules.max_decision_points" s.rules.maxDecisionPoints
  checkPositive "rules.max_statements" s.rules.maxStatements
  checkTripCounts s.rules.loopHighTripCount s.rules.loopLowTripCount
  checkPatterns s.rules.credentialNames

/-- The settings that a text at some place describes. -/
def read (path text : String) : Except SettingsError Settings :=
  match ofText? text with
  | some s => .ok s
  | none => .error (.unparsable path "the text describes no settings")

/-- The settings that a text describes, checked. -/
def parse (text : String) : Except SettingsError Settings := do
  let s ← read "<string>" text
  s.check
  return s

end Settings

end TreeLint
