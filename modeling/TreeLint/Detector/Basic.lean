import TreeLint.Finding.Basic
import TreeLint.Source
import TreeLint.Tree.Descendants

/-!
# Detectors

A detector looks at one node of a tree and at the site of that node: the unit, the ancestors,
and the position among the children of the parent. The position tells the node apart from
siblings that are equal to it. What a detector answers depends on nothing else.
-/

namespace TreeLint

/-- Where a node stands. -/
structure Site where
  unit : SourceUnit
  /-- The ancestors, nearest first. -/
  ancestors : List Node
  /-- The position of the node among the children of its parent. -/
  index : Nat

namespace Site

def file (s : Site) : String := s.unit.path

def language? (s : Site) : Option Language := s.unit.language?

/-- The parent of the node. -/
def parent? (s : Site) : Option Node := s.ancestors.head?

/-- The root of the tree, if the node is not the root itself. -/
def root? (s : Site) : Option Node := s.ancestors.getLast?

/-- The role of the node in its parent. -/
def role? (s : Site) : Option Role := s.parent?.bind (·.roleAt? s.index)

/-- The ancestors up to, and without, the nearest one that opens a scope. -/
def ancestorsInScope (s : Site) : List Node := s.ancestors.takeWhile (!·.kind.isScopeBoundary)

/-- The nearest ancestor of one of the kinds. -/
def enclosing? (s : Site) (kinds : List Kind) : Option Node :=
  s.ancestors.find? (kinds.contains ·.kind)

/-- The nearest method, constructor, function or lambda around the node. -/
def callable? (s : Site) : Option Node := s.ancestors.find? (·.kind.isCallable)

/-- The nearest class around the node. -/
def class? (s : Site) : Option Node := s.enclosing? [.classDecl]

/-- Whether there is an ancestor of the kind in the scope of the node. -/
def isInside (s : Site) (kind : Kind) : Bool := s.ancestorsInScope.any (·.kind == kind)

/-- The children of the parent that come after the node, if the node is one of its statements. -/
def later (s : Site) : List (Role × Node) :=
  match s.parent? with
  | some p => if s.role? == some .statement then p.children.drop (s.index + 1) else []
  | none => []

/-- The statements of the parent that come after the node. -/
def laterStatements (s : Site) : List Node := (s.later.filter (·.1 == .statement)).map (·.2)

def findingAt (s : Site) (rule : Rule) (span : Span) (message : String) : Finding :=
  .ofRule rule s.file span message

def finding (s : Site) (rule : Rule) (n : Node) (message : String) : Finding :=
  s.findingAt rule n.span message

end Site

/-- What comes of looking at a node. -/
inductive Outcome where
  | found (findings : List Finding)
  | failed (e : DetectionError)
  /-- The detector stopped without an answer; it may have left a text. -/
  | crashed (reason : Option String)
deriving DecidableEq, Inhabited, Repr

/-- The check for one rule. -/
structure Detector where
  rule : Rule
  /-- The kinds of nodes it is asked about. -/
  kinds : List Kind
  evaluate : Site → Node → Outcome
deriving Inhabited

namespace Detector

def id (d : Detector) : String := d.rule.id

/-- A detector that always answers. -/
def reporting (rule : Rule) (kinds : List Kind) (report : Site → Node → List Finding) : Detector :=
  ⟨rule, kinds, fun s n => .found (report s n)⟩

/-- The rule of the findings that stand for failures of detectors. -/
def faultRule : Rule := ⟨"internal/detector-fault", .low, .internal, "Detector failed on a node"⟩

/-- What a detector says that stopped without a text. -/
def noReason : String := "non-string panic payload"

/-- The finding that stands for a failure. -/
def faultFinding (d : Detector) (s : Site) (n : Node) (e : DetectionError) : Finding :=
  let message := "Detector '" ++ d.id ++ "' failed on " ++ n.kind.name ++ " node: " ++ e.message
  s.finding faultRule n message

/-- The findings of an outcome: a failure counts as one finding. -/
def findings (d : Detector) (s : Site) (n : Node) (o : Outcome) : List Finding :=
  match o with
  | .found fs => fs
  | .failed e => [d.faultFinding s n e]
  | .crashed reason => [d.faultFinding s n (.crash d.id (reason.getD noReason))]

end Detector

end TreeLint
