import TreeLint.Detector.Basic
import TreeLint.Tree.Access

/-!
# Evaluation of code at run time

A free call of `eval` or `exec` is reported unless all that it gets are literals. Methods of that
name are something else.
-/

namespace TreeLint.Rules.DangerousEval

def rule : Rule := ⟨"security/dangerous-eval", .critical, .security, "Dynamic code evaluation"⟩

def evaluators : List String := ["eval", "exec"]

/-- Whether the call has arguments and all are literals. -/
def onlyLiterals (n : Node) : Bool :=
  !n.arguments.isEmpty && n.arguments.all (·.kind.isLiteral)

def report (s : Site) (n : Node) : List Finding :=
  if (n.child? .receiver).isSome || !evaluators.contains n.nameText || onlyLiterals n then []
  else
    [(s.finding rule n ("Call to '" ++ n.nameText ++ "' evaluates dynamic code")).withHint
      "Replace dynamic evaluation with explicit parsing or dispatch"]

def detector : Detector := .reporting rule [.call] report

end TreeLint.Rules.DangerousEval
