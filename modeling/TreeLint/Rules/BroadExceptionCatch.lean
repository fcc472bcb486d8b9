import TreeLint.Detector.Basic
import TreeLint.Settings.Basic
import TreeLint.Text.Search
import TreeLint.Tree.TypeName

/-!
# Handlers that catch too much

A handler is reported when it catches the most general exception type of the language, whether
it throws again or not.
-/

namespace TreeLint.Rules.BroadExceptionCatch

def rule : Rule :=
  ⟨"quality/broad-exception-catch", .medium, .quality, "Overly broad exception catch"⟩

/-- The most general types when the language is not known. -/
def fallbackRoots : List String := ["Exception", "Throwable", "BaseException"]

/-- Whether the type is a most general one. -/
def isRootType (extra : List String) (language? : Option Language) (t : String) : Bool :=
  let roots := (language?.map Language.rootExceptions).getD fallbackRoots
  (roots ++ extra).any fun r => r == t || r == simpleType t

/-- The types of a handler; several are divided by `|`. -/
def caughtTypes (declared : String) : List String :=
  (Text.pieces (· == '|') declared.toList).map fun t => String.ofList (Text.trim t)

/-- What a handler catches that is too much. -/
def broadType? (extra : List String) (s : Site) (n : Node) : Option String :=
  match (n.child? .param).bind (·.typeName) with
  | some declared => (caughtTypes declared).find? (isRootType extra s.language?)
  | none => if s.language?.any Language.untypedCatchIsBroad then some "everything" else none

def rethrows (n : Node) : Bool :=
  (n.child? .body).any fun b => b.scopedDescendants.any (·.kind == .throwStmt)

def report (extra : List String) (s : Site) (n : Node) : List Finding :=
  match broadType? extra s n with
  | some caught =>
    let handling := if rethrows n then "and rethrows" else "and swallows it"
    [(s.finding rule n ("Catch clause catches '" ++ caught ++ "' " ++ handling)).withHint
      "Catch the specific exception types the block can raise"]
  | none => []

def detector (r : RuleSettings) : Detector :=
  .reporting rule [.catchClause] (report r.broadExceptionTypes)

end TreeLint.Rules.BroadExceptionCatch
