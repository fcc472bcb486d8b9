import TreeLint.Detector.Basic
import TreeLint.Settings.Basic
import TreeLint.Tree.Access
import TreeLint.Tree.Literal
import TreeLint.Tree.Scope
import TreeLint.Tree.TypeName

/-!
# Strings rebuilt in loops

An assignment in a loop that appends to a string is reported. Nested loops make it severe; for a
single `for` loop, a number in its condition tells about how many rounds it has.
-/

namespace TreeLint.Rules.StringConcatInLoop

def rule : Rule :=
  ⟨"performance/string-concat-in-loop", .medium, .performance, "String concatenation in loop"⟩

def comparisons : List String := ["<", "<=", ">", ">=", "!="]

/-- The variable that `x += …` or `x = x + …` appends to, and what is appended. -/
def accumulator? (n : Node) : Option (String × List Node) :=
  match (n.child? .target).bind Node.accessName?, n.child? .value with
  | some x, some v =>
    if n.valueText == "+=" then some (x, v.concatOperands)
    else if n.valueText == "=" && v.isConcat && v.concatOperands.any (·.accessName? == some x) then
      some (x, v.concatOperands)
    else none
  | _, _ => none

/-- Whether `x` is a string: by its declared type, or else because a string literal is
appended. -/
def isString (types : List String) (s : Site) (x : String) (operands : List Node) : Bool :=
  match Node.declaredType? s.callable? s.class? x with
  | some t => types.contains (simpleType t) || types.contains t
  | none => operands.any (·.kind == .stringLiteral)

/-- The number that the condition of a `for` loop compares with, as a count. -/
def tripCount? (loop : Node) : Option Nat :=
  if loop.kind != .forLoop then none
  else
    match loop.child? .condition with
    | some cond =>
      if cond.kind == .binary && comparisons.contains cond.valueText then
        let sides := (cond.child? .right).toList ++ (cond.child? .left).toList
        match sides.findSome? Node.numberValue? with
        | some x => if 0 ≤ x then some (Decimal.toIntWithin 0 0xFFFFFFFFFFFFFFFF x).toNat else none
        | none => none
      else none
    | none => none

/-- How severe it is, from the loops around the assignment, nearest first. -/
def severity (hot cold : Nat) (loops : List Node) : Severity :=
  if 1 < loops.length then .high
  else
    match loops.head?.bind tripCount? with
    | some n => if hot ≤ n then .high else if n < cold then .low else rule.severity
    | none => rule.severity

/-- How often it happens, for the message. -/
def exposure (loops : List Node) : String :=
  match loops.head?.bind tripCount? with
  | some n => s!" (about {n} iterations)"
  | none => if 1 < loops.length then s!" ({loops.length} nested loops)" else ""

def report (r : RuleSettings) (s : Site) (n : Node) : List Finding :=
  let loops := s.ancestorsInScope.filter (·.kind.isLoop)
  if loops.isEmpty then []
  else
    match accumulator? n with
    | some (x, operands) =>
      if isString r.stringTypeNames s x operands then
        let message :=
          "String '" ++ x ++ "' is rebuilt by concatenation inside a loop" ++ exposure loops
        [((s.finding rule n message).withSeverity (severity r.hotLoop r.coldLoop loops)).withHint
          "Accumulate into a StringBuilder or join the parts once"]
      else []
    | none => []

def detector (r : RuleSettings) : Detector := .reporting rule [.assignment] (report r)

end TreeLint.Rules.StringConcatInLoop
