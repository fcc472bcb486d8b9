import TreeLint.Detector.Basic
import TreeLint.Tree.Access

/-!
# Nested loops over one collection

A loop is reported when a loop inside it goes over the same collection and compares elements. The
report stands at the outermost such loop, so a nest of three gives one finding.
-/

namespace TreeLint.Rules.QuadraticCandidate

def rule : Rule :=
  ⟨"performance/quadratic-candidate", .medium, .performance, "Candidate O(n^2) loop nest"⟩

/-- The members that give the size of a collection. -/
def sizeAccessors : List String := ["size", "length", "count", "len", "Count", "Length"]

/-- The calls that turn a bound into a range. -/
def rangeWrappers : List String := ["range", "enumerate", "indices"]

/-- The calls that compare elements. -/
def elementChecks : List String :=
  ["equals", "equalsIgnoreCase", "contains", "containsKey", "indexOf", "compareTo", "includes"]

/-- The operators that compare elements. -/
def equalityOps : List String := ["==", "!=", "===", "!==", "in"]

theorem size_lt_of_last_argument {n a : Node} (h : n.arguments.getLast? = some a) :
    a.size < n.size :=
  Node.size_lt_of_mem (Node.mem_children_of_mem_childrenIn (List.mem_of_getLast? h))

/-- The collection that an expression bounds a loop by. -/
def collectionOf? (n : Node) : Option String :=
  match n.kind with
  | .identifier => n.accessName?
  | .fieldAccess =>
    if sizeAccessors.contains n.nameText then (n.child? .receiver).bind Node.accessName?
    else n.accessName?
  | .call =>
    if sizeAccessors.contains n.nameText then
      ((n.child? .receiver).bind Node.accessName?).or (n.arguments.head?.bind Node.accessName?)
    else if rangeWrappers.contains n.nameText then
      match _h : n.arguments.getLast? with
      | some a => collectionOf? a
      | none => none
    else none
  | .binary =>
    let right := match _h : n.child? .right with
      | some c => collectionOf? c
      | none => none
    let left := match _h : n.child? .left with
      | some c => collectionOf? c
      | none => none
    right.or left
  | _ => none
termination_by n.size
decreasing_by
  · exact size_lt_of_last_argument _h
  · exact Node.size_lt_of_child? _h
  · exact Node.size_lt_of_child? _h

/-- The collection that a loop goes over. -/
def loopCollection? (loop : Node) : Option String :=
  match loop.kind with
  | .forEach => (loop.child? .iterable).bind collectionOf?
  | .forLoop | .whileLoop => (loop.child? .condition).bind collectionOf?
  | _ => none

def isElementCheck (n : Node) : Bool :=
  match n.kind with
  | .call => elementChecks.contains n.nameText
  | .binary => equalityOps.contains n.valueText
  | _ => false

/-- Whether something in the body compares elements. -/
def comparesElements (body : Node) : Bool := body.descendants.any isElementCheck

/-- Whether the node is a loop over the collection. -/
def isLoopOver (collection : String) (n : Node) : Bool :=
  n.kind.isLoop && loopCollection? n == some collection

/-- The first loop over the collection, in the body or the body itself, that compares
elements. -/
def innerLoop? (collection : String) (body : Node) : Option Node :=
  (body :: body.scopedDescendants).find? fun n =>
    isLoopOver collection n && (n.child? .body).any comparesElements

def message (collection : String) (inner : Node) : String :=
  "Nested loops over '" ++ collection ++ "' compare elements (inner loop at line " ++
    toString inner.span.startLine.toNat ++ "); consider a hash-based lookup"

def report (s : Site) (n : Node) : List Finding :=
  match loopCollection? n with
  | some collection =>
    if s.ancestorsInScope.any (isLoopOver collection) then []
    else
      match (n.child? .body).bind (innerLoop? collection) with
      | some inner =>
        [(s.finding rule n (message collection inner)).withHint
          "Index the collection in a HashSet or HashMap and do a single pass"]
      | none => []
  | none => []

def detector : Detector := .reporting rule [.forLoop, .forEach, .whileLoop] report

end TreeLint.Rules.QuadraticCandidate
