import TreeLint.Detector.Basic
import TreeLint.Settings.Basic
import TreeLint.Tree.Access
import TreeLint.Tree.Scope

/-!
# Queries built by concatenation

A call that runs a query is reported when an argument is a `+` chain of a string literal and
something that is no literal, written in place or bound to the local that is passed. Queries with
placeholders never match.
-/

namespace TreeLint.Rules.SqlInjection

def rule : Rule :=
  ⟨"security/sql-injection", .critical, .security, "SQL built by string concatenation"⟩

/-- How an argument came to be tainted. -/
inductive Taint where
  /-- It is a tainted chain itself. -/
  | inline
  /-- It is a local that is bound to a tainted chain. -/
  | through (name : String)
deriving DecidableEq, Repr

/-- Whether and how an argument is tainted. -/
def taint? (scope : Option Node) (arg : Node) : Option Taint :=
  if arg.isTaintedConcat then some .inline
  else if arg.kind == .identifier then
    match arg.name, scope with
    | some x, some s => if (s.bindings x).any Node.isTaintedConcat then some (.through x) else none
    | _, _ => none
  else none

def message (callee : String) : Taint → String
  | .inline => "Query passed to '" ++ callee ++ "' is built by string concatenation"
  | .through x =>
    "Query passed to '" ++ callee ++ "' is built by concatenating input into '" ++ x ++ "'"

def report (sinks : List String) (s : Site) (n : Node) : List Finding :=
  if sinks.contains n.nameText then
    match n.arguments.findSome? (taint? s.callable?) with
    | some t =>
      [(s.finding rule n (message n.nameText t)).withHint
        "Use a parameterized query with bound placeholders"]
    | none => []
  else []

def detector (r : RuleSettings) : Detector := .reporting rule [.call] (report r.querySinkNames)

end TreeLint.Rules.SqlInjection
