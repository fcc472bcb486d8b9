import TreeLint.Decimal.Binary
import TreeLint.Settings.Basic
import TreeLint.Toml.Reader

/-!
# Reading settings

Settings are written as a TOML text with the tables `analysis` and `rules`. A key that is not
known is passed over, so that older versions can read the settings of newer ones; a value of the
wrong type makes the text unreadable.

A record may be written as a table or as an array of its fields in their order. A date has no
known field, so that it stands for a record with nothing in it. A float may be written as an
integer, but not the other way round.
-/

namespace TreeLint

open Toml (Value Entries)

/-! ## Typed values -/

namespace Toml.Value

/-- The value as a text. -/
def asText? : Value → Option String
  | .text s => some s
  | _ => none

/-- The value as a truth value. -/
def asBool? : Value → Option Bool
  | .boolean b => some b
  | _ => none

/-- The value as a count. -/
def asCount? : Value → Option Nat
  | .integer i => if 0 ≤ i then some i.toNat else none
  | _ => none

/-- The value as a float. -/
def asFloat? : Value → Option Float
  | .float x => some x
  | .integer i => some (Decimal.ofInt i)
  | _ => none

/-- The value as an array. -/
def asArray? : Value → Option (List Value)
  | .array items => some items
  | .rows tables => some (tables.map (.table .header))
  | _ => none

/-- The value as a list. -/
def asList? {α : Type} (item : Value → Option α) (v : Value) : Option (List α) :=
  v.asArray?.bind (·.mapM item)

end Toml.Value

/-- A record: its fields by name or in their order. -/
inductive Fields where
  | named (entries : Entries)
  | inOrder (items : List Value)

namespace Fields

/-- The record that a value stands for. -/
def ofValue? : Value → Option Fields
  | .table _ entries => some (.named entries)
  | .moment _ => some (.named [])
  | v => v.asArray?.map .inOrder

/-- A field by its name and its place. -/
def get? (fields : Fields) (name : String) (place : Nat) : Option Value :=
  match fields with
  | .named entries => entries.lookup name
  | .inOrder items => items[place]?

/-- A field that may be missing: `none` only if it is there with the wrong type. -/
def optional? {α : Type} (fields : Fields) (name : String) (place : Nat)
    (type : Value → Option α) : Option (Option α) :=
  match fields.get? name place with
  | some v => (type v).map some
  | none => some none

/-- A field that must be there. -/
def required? {α : Type} (fields : Fields) (name : String) (place : Nat)
    (type : Value → Option α) : Option α :=
  (fields.get? name place).bind type

/-- A record in a field; if it is missing, so is everything in it. -/
def inner? (fields : Fields) (name : String) (place : Nat) : Option Fields :=
  match fields.get? name place with
  | some v => ofValue? v
  | none => some (.named [])

end Fields

/-! ## Settings -/

/-- The credential slot that a value stands for. -/
def CredentialSlot.ofValue? (v : Value) : Option CredentialSlot := do
  let fields ← Fields.ofValue? v
  let callee ← fields.required? "callee" 0 Value.asText?
  let slots ← fields.required? "slots" 1 (Value.asList? Value.asCount?)
  return { callee, slots }

/-- The settings of a run in a record. -/
def RunSettings.ofFields? (fields : Fields) : Option RunSettings := do
  let threads ← fields.optional? "threads" 0 Value.asCount?
  let fileTimeoutMs ← fields.optional? "file_timeout_ms" 1 Value.asCount?
  let disabledRules ← fields.optional? "disabled_rules" 2 (Value.asList? Value.asText?)
  let failOn ← fields.optional? "fail_on" 3 Value.asText?
  let includeSnippets ← fields.optional? "include_snippets" 4 Value.asBool?
  return { threads, fileTimeoutMs, disabledRules := disabledRules.getD [], failOn,
           includeSnippets }

/-- The settings of the rules in a record. -/
def RuleSettings.ofFields? (fields : Fields) : Option RuleSettings := do
  let maxParameters ← fields.optional? "max_parameters" 0 Value.asCount?
  let maxDecisionPoints ← fields.optional? "max_decision_points" 1 Value.asCount?
  let maxStatements ← fields.optional? "max_statements" 2 Value.asCount?
  let credentialPatterns ← fields.optional? "credential_patterns" 3 (Value.asList? Value.asText?)
  let credentialSlots ←
    fields.optional? "credential_slots" 4 (Value.asList? CredentialSlot.ofValue?)
  let querySinks ← fields.optional? "query_sinks" 5 (Value.asList? Value.asText?)
  let deserializationSinks ←
    fields.optional? "deserialization_sinks" 6 (Value.asList? Value.asText?)
  let resourceAcquirers ← fields.optional? "resource_acquirers" 7 (Value.asList? Value.asText?)
  let resourceTypes ← fields.optional? "resource_types" 8 (Value.asList? Value.asText?)
  let releaseMethods ← fields.optional? "release_methods" 9 (Value.asList? Value.asText?)
  let magicNumberAllowed ←
    fields.optional? "magic_number_allowed" 10 (Value.asList? Value.asFloat?)
  let stringTypes ← fields.optional? "string_types" 11 (Value.asList? Value.asText?)
  let broadExceptionTypes ←
    fields.optional? "broad_exception_types" 12 (Value.asList? Value.asText?)
  let unusedBindingIgnoreSideEffects ←
    fields.optional? "unused_binding_ignore_side_effects" 13 Value.asBool?
  let loopHighTripCount ← fields.optional? "loop_high_trip_count" 14 Value.asCount?
  let loopLowTripCount ← fields.optional? "loop_low_trip_count" 15 Value.asCount?
  return { maxParameters, maxDecisionPoints, maxStatements, credentialPatterns, credentialSlots,
           querySinks, deserializationSinks, resourceAcquirers, resourceTypes, releaseMethods,
           magicNumberAllowed, stringTypes, broadExceptionTypes := broadExceptionTypes.getD [],
           unusedBindingIgnoreSideEffects, loopHighTripCount, loopLowTripCount }

/-- The settings in the table of a text. -/
def Settings.ofEntries? (entries : Entries) : Option Settings := do
  let fields := Fields.named entries
  let analysis ← (← fields.inner? "analysis" 0) |> RunSettings.ofFields?
  let rules ← (← fields.inner? "rules" 1) |> RuleSettings.ofFields?
  return { analysis, rules }

/-- The settings that a text describes; `none` if it describes none. -/
def Settings.ofText? (text : String) : Option Settings :=
  (Toml.readEntries? text).bind Settings.ofEntries?

end TreeLint
