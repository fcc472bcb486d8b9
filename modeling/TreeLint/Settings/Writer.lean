import TreeLint.Decimal.Positional
import TreeLint.Error
import TreeLint.Settings.Basic
import TreeLint.Toml.Quoted

/-!
# Writing settings

Settings are written in the order of their fields, the ones that are not set left out. An array
of at most one item stands on one line, a longer one has a line for each item. Credential slots
come last, each as a table of its own.

An integer of a TOML text has 63 bits beside its sign, so that counts from `2^63` on cannot be
written.
-/

namespace TreeLint

namespace Settings.Writer

/-- An array of items that are already written. -/
def array (items : List String) : String :=
  match items with
  | [] => "[]"
  | [item] => "[" ++ item ++ "]"
  | _ => "[\n" ++ String.join (items.map fun item => "    " ++ item ++ ",\n") ++ "]"

/-- An array of texts. -/
def texts (items : List String) : String := array (items.map Toml.quote)

/-- An array of floats. -/
def floats (items : List Float) : String := array (items.map Decimal.Style.settings.render)

/-- A truth value. -/
def bool (b : Bool) : String := if b then "true" else "false"

/-- A line for a value. -/
def line (key value : String) : String := key ++ " = " ++ value ++ "\n"

/-- A line for a value that may not be set. -/
def lineOf {α : Type} (key : String) (write : α → String) : Option α → String
  | some v => line key (write v)
  | none => ""

/-- The table of a credential slot. -/
def slotTable (slot : CredentialSlot) : String :=
  "\n[[rules.credential_slots]]\n" ++ line "callee" (Toml.quote slot.callee) ++
    line "slots" (array (slot.slots.map toString))

/-- The lines of the settings of a run. -/
def runLines (s : RunSettings) : String :=
  lineOf "threads" toString s.threads ++
  lineOf "file_timeout_ms" toString s.fileTimeoutMs ++
  line "disabled_rules" (texts s.disabledRules) ++
  lineOf "fail_on" Toml.quote s.failOn ++
  lineOf "include_snippets" bool s.includeSnippets

/-- The lines of the settings of the rules, the credential slots apart unless there are none of
them. -/
def ruleLines (s : RuleSettings) : String :=
  lineOf "max_parameters" toString s.maxParameters ++
  lineOf "max_decision_points" toString s.maxDecisionPoints ++
  lineOf "max_statements" toString s.maxStatements ++
  lineOf "credential_patterns" texts s.credentialPatterns ++
  (if s.credentialSlots == some [] then line "credential_slots" (array []) else "") ++
  lineOf "query_sinks" texts s.querySinks ++
  lineOf "deserialization_sinks" texts s.deserializationSinks ++
  lineOf "resource_acquirers" texts s.resourceAcquirers ++
  lineOf "resource_types" texts s.resourceTypes ++
  lineOf "release_methods" texts s.releaseMethods ++
  lineOf "magic_number_allowed" floats s.magicNumberAllowed ++
  lineOf "string_types" texts s.stringTypes ++
  line "broad_exception_types" (texts s.broadExceptionTypes) ++
  lineOf "unused_binding_ignore_side_effects" bool s.unusedBindingIgnoreSideEffects ++
  lineOf "loop_high_trip_count" toString s.loopHighTripCount ++
  lineOf "loop_low_trip_count" toString s.loopLowTripCount

/-- All counts that are set. -/
def counts (s : Settings) : List Nat :=
  [s.analysis.threads, s.analysis.fileTimeoutMs, s.rules.maxParameters,
    s.rules.maxDecisionPoints, s.rules.maxStatements, s.rules.loopHighTripCount,
    s.rules.loopLowTripCount].filterMap id ++
  (s.rules.credentialSlots.getD []).flatMap (·.slots)

end Settings.Writer

open Settings.Writer in
/-- The text of settings. -/
def Settings.render (s : Settings) : Except SettingsError String :=
  if (counts s).all (· < 0x8000000000000000) then
    .ok ("[analysis]\n" ++ runLines s.analysis ++ "\n[rules]\n" ++ ruleLines s.rules ++
      String.join ((s.rules.credentialSlots.getD []).map slotTable))
  else .error (.unparsable "<serialization>" "a count is too large to be written")

end TreeLint
