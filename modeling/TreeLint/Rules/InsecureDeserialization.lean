import TreeLint.Detector.Basic
import TreeLint.Settings.Basic
import TreeLint.Tree.Access
import TreeLint.Tree.Scope

/-!
# Decoding of untrusted data

A call that decodes objects is reported unless its data can be traced back to literals. The
trace follows the bindings of locals, a bounded number of them in a row; parameters and fields
are not trusted.
-/

namespace TreeLint.Rules.InsecureDeserialization

def rule : Rule :=
  ⟨"security/insecure-deserialization", .high, .security, "Deserialization of untrusted data"⟩

/-- How many bindings in a row are followed. -/
def maxTraceDepth : Nat := 4

/-- The data that is decoded: the first argument, else the receiver. -/
def source? (call : Node) : Option Node := call.arguments.head?.or (call.child? .receiver)

mutual

/-- Whether an expression comes from literals, given which identifiers do. -/
def trustedWith (known : Option String → Bool) : Node → Bool
  | ⟨h, cs⟩ =>
    match h.kind with
    | .stringLiteral | .numberLiteral | .boolLiteral => true
    | .arrayLiteral | .binary => (verdicts known cs).all (·.2)
    | .newExpr =>
      let args := (verdicts known cs).filter (·.1 == .argument)
      !args.isEmpty && args.all (·.2)
    | .call =>
      let vs := verdicts known cs
      (vs.find? (·.1 == .receiver)).any (·.2) && (vs.filter (·.1 == .argument)).all (·.2)
    | .identifier => known h.name
    | _ => false

/-- The verdict on each child, with its role. -/
def verdicts (known : Option String → Bool) : List (Role × Node) → List (Role × Bool)
  | [] => []
  | (r, n) :: cs => (r, trustedWith known n) :: verdicts known cs

end

/-- Whether an expression comes from literals, through at most `depth` bindings in a row. -/
def isTrusted (scope : Option Node) : (depth : Nat) → Node → Bool
  | 0 => trustedWith fun _ => false
  | depth + 1 =>
    trustedWith fun name =>
      match scope, name with
      | some s, some x =>
        let bound := s.bindings x
        !bound.isEmpty && bound.all (isTrusted scope depth)
      | _, _ => false

def report (sinks : List String) (s : Site) (n : Node) : List Finding :=
  if sinks.contains n.nameText then
    match source? n with
    | some source =>
      if isTrusted s.callable? maxTraceDepth source then []
      else
        let message :=
          "'" ++ n.nameText ++ "' deserializes data that is not derived from a trusted literal"
        [(s.finding rule n message).withHint
          "Validate the input or restrict deserializable types with an allow-list"]
    | none => []
  else []

def detector (r : RuleSettings) : Detector := .reporting rule [.call] (report r.decoderNames)

end TreeLint.Rules.InsecureDeserialization
