import TreeLint.Detector.Basic
import TreeLint.Settings.Basic
import TreeLint.Tree.Scope

/-!
# Limits on callables

Three rules count something of a method, constructor or function and report it above a limit:
its parameters, its decisions, and the statements of its body.
-/

namespace TreeLint.Rules

/-- The kinds that the limits apply to. -/
def measuredKinds : List Kind := [.method, .constructor, .function]

/-- The word for a callable in messages. -/
def callableLabel (n : Node) : String :=
  match n.kind with
  | .constructor => "Constructor"
  | .function => "Function"
  | .lambda => "Lambda"
  | _ => "Method"

/-- The message of a limit: what there is too much of. -/
def limitMessage (n : Node) (verb : String) (count : Nat) (what : String) (limit : Nat) : String :=
  callableLabel n ++ " '" ++ n.nameText ++ "' " ++ verb ++ " " ++ toString count ++ " " ++ what ++
    " (threshold: " ++ toString limit ++ ")"

namespace TooManyParameters

def rule : Rule := ⟨"quality/too-many-parameters", .medium, .quality, "Too many parameters"⟩

/-- Whether the parameter is the receiver, which some languages declare. -/
def isImplicitReceiver (s : Site) (p : Node) : Bool :=
  s.language? == some .python && (p.nameText == "self" || p.nameText == "cls")

def parameterCount (s : Site) (n : Node) : Nat :=
  (n.childrenIn .param).countP (!isImplicitReceiver s ·)

def report (limit : Nat) (s : Site) (n : Node) : List Finding :=
  let count := parameterCount s n
  if count ≤ limit then []
  else
    [(s.finding rule n (limitMessage n "declares" count "parameters" limit)).withHint
      "Group related parameters into a value object"]

def detector (r : RuleSettings) : Detector :=
  .reporting rule measuredKinds (report r.parameterLimit)

end TooManyParameters

namespace CyclomaticComplexity

def rule : Rule :=
  ⟨"quality/high-cyclomatic-complexity", .high, .quality, "High cyclomatic complexity"⟩

def report (limit : Nat) (s : Site) (n : Node) : List Finding :=
  let count := n.decisionPoints
  if count ≤ limit then []
  else
    [(s.finding rule n (limitMessage n "has" count "decision points" limit)).withHint
      "Extract branches into helpers or replace nested conditions with guard clauses"]

def detector (r : RuleSettings) : Detector :=
  .reporting rule measuredKinds (report r.decisionLimit)

end CyclomaticComplexity

namespace FunctionTooLong

def rule : Rule := ⟨"quality/function-too-long", .medium, .quality, "Function too long"⟩

def report (limit : Nat) (s : Site) (n : Node) : List Finding :=
  let count := n.statementCount
  if count ≤ limit then []
  else
    [(s.finding rule n (limitMessage n "has" count "statements" limit)).withHint
      "Break the body into smaller, named helpers"]

def detector (r : RuleSettings) : Detector :=
  .reporting rule measuredKinds (report r.statementLimit)

end FunctionTooLong

end TreeLint.Rules
