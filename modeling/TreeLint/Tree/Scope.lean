import TreeLint.Tree.Chain
import TreeLint.Tree.Descendants

/-!
# Bindings, types and reads

Lookups that stay inside one callable: the values bound to a local name, the type it is declared
with, the statements of a body, and whether a statement reads a name. None follows a call or
leaves the scope of the callable, `reads` apart, which takes a whole statement.
-/

namespace TreeLint.Node

/-- The value that the node binds to the local name `x`: an initializer, or the right side of a
plain assignment. -/
def boundValue? (x : String) (n : Node) : Option Node :=
  if n.kind == .localVar && n.nameText == x then n.child? .value
  else if n.isPlainAssignment && (n.child? .target).any (·.isIdentifier x) then n.child? .value
  else none

/-- The values bound to the local name `x` in the scope, in source order. -/
def bindings (scope : Node) (x : String) : List Node :=
  scope.scopedDescendants.filterMap (boundValue? x)

/-- Whether the node declares the local or parameter `x`. -/
def declares (x : String) (n : Node) : Bool :=
  (n.kind == .localVar || n.kind == .parameter) && n.nameText == x

/-- The declared type of `x`: of the first local or parameter of that name in the scope, else of
the first field of that name in the class. -/
def declaredType? (scope owner : Option Node) (x : String) : Option String :=
  let byLocal := scope.bind fun s => (s.scopedDescendants.find? (declares x)).bind (·.typeName)
  let byField := owner.bind fun c =>
    ((c.childrenIn .member).find? fun m => m.kind == .field && m.nameText == x).bind (·.typeName)
  byLocal.or byField

/-- The statements of a block, in order; any other node is a single statement. -/
def statements (n : Node) : List Node :=
  match n.kind with
  | .block | .program => n.childrenIn .statement
  | _ => [n]

def statementCount (n : Node) : Nat := (n.child? .body).elim 0 (·.statements.length)

/-! ## Reads -/

/-- Where reads of `x` can hide in a node that is no occurrence of `x` itself: in a plain
assignment in its value, and in its target unless that is `x`; elsewhere in every child. -/
def readPlaces (x : String) (n : Node) : List Node :=
  if n.isPlainAssignment then
    ((n.child? .target).toList.filter (!·.isIdentifier x)) ++ (n.child? .value).toList
  else n.subnodes

theorem sizeSum_filter_le (p : Node → Bool) (ns : List Node) :
    sizeSum (ns.filter p) ≤ sizeSum ns := by
  induction ns with
  | nil => simp
  | cons n ns ih =>
    by_cases h : p n <;> simp [h, sizeSum] at ih ⊢ <;> omega

theorem sizeSum_readPlaces_lt (x : String) (n : Node) : sizeSum (n.readPlaces x) < n.size := by
  unfold readPlaces
  split
  · have h := size_firsts_le (r := .target) (s := .value) (by decide) n.children
    have hf := sizeSum_filter_le (!·.isIdentifier x) (n.child? .target).toList
    rw [size_eq]
    simp [child?] at h hf ⊢
    omega
  · exact n.sizeSum_subnodes_lt

/-- Whether one of the pending nodes reads `x`. -/
def anyReads (x : String) : List Node → Bool
  | [] => false
  | n :: rest => n.isIdentifier x || anyReads x (n.readPlaces x ++ rest)
termination_by ns => sizeSum ns
decreasing_by
  have := n.sizeSum_readPlaces_lt x
  simp [sizeSum] at this ⊢
  omega

/-- Whether the node reads `x`: an occurrence of the identifier that is not the target of a
plain assignment. -/
def reads (n : Node) (x : String) : Bool := anyReads x [n]

/-! ## Decisions -/

/-- The operators that may skip their right side. -/
def shortCircuitOps : List String := ["&&", "||", "and", "or", "??"]

/-- Whether the node decides between two ways on: a branch, a loop, a handler, a case with a
test, or a short-circuit operator. -/
def isDecision (n : Node) : Bool :=
  match n.kind with
  | .ifStmt | .forLoop | .forEach | .whileLoop | .doWhile | .catchClause | .ternary => true
  | .caseLabel => (n.child? .value).isSome
  | .binary => shortCircuitOps.contains n.valueText
  | _ => false

theorem isDecision_iff {n : Node} :
    n.isDecision = true ↔
      n.kind ∈ [.ifStmt, .forLoop, .forEach, .whileLoop, .doWhile, .catchClause, .ternary] ∨
      (n.kind = .caseLabel ∧ ∃ test, n.child? .value = some test) ∨
      (n.kind = .binary ∧ n.valueText ∈ ["&&", "||", "and", "or", "??"]) := by
  rw [isDecision]
  cases n.kind <;> simp [shortCircuitOps, Option.isSome_iff_exists]

/-- Decisions inside a lambda belong to the callable around it; those of nested classes and
methods do not. -/
def decisionScope (k : Kind) : Bool := !k.isScopeBoundary || k == .lambda

def decisionPoints (n : Node) : Nat :=
  (Walk.drain ⟨n.subnodes, decisionScope⟩).countP isDecision

end TreeLint.Node
