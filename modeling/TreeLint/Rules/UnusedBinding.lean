import TreeLint.Detector.Basic
import TreeLint.Settings.Basic
import TreeLint.Tree.Scope

/-!
# Locals that are never read

A local of a block is reported when no later statement of the block reads its name. Names that
start with an underscore are meant to be unread; locals that are bound to a call or a
construction may be left out by the settings.
-/

namespace TreeLint.Rules.UnusedBinding

def rule : Rule := ⟨"quality/unused-binding", .low, .quality, "Unused local binding"⟩

/-- Whether the local may stay unread because of its name. -/
def isExemptName (name : String) : Bool := name == "" || name.toList.head? == some '_'

/-- Whether the local is bound to a call or a construction. -/
def hasSideEffect (n : Node) : Bool :=
  (n.child? .value).any fun v => v.kind == .newExpr || v.kind == .call

def report (ignoreSideEffects : Bool) (s : Site) (n : Node) : List Finding :=
  let x := n.nameText
  if isExemptName x || !s.parent?.any (·.kind == .block) || (ignoreSideEffects && hasSideEffect n)
  then []
  else if s.laterStatements.any (·.reads x) then []
  else
    let verb := if (n.child? .value).isSome then "assigned" else "declared"
    [(s.finding rule n ("Local '" ++ x ++ "' is " ++ verb ++ " but never read")).withHint
      "Remove the binding or prefix it with '_'"]

def detector (r : RuleSettings) : Detector :=
  .reporting rule [.localVar] (report r.ignoresSideEffects)

end TreeLint.Rules.UnusedBinding
