import TreeLint.Detector.Basic
import TreeLint.Tree.Access

/-!
# Locks that protect nothing

A synchronized method is reported when no field that it touches is touched by another
synchronized method of its class, or by a synchronized block outside it.
-/

namespace TreeLint.Rules.OverSynchronization

def rule : Rule :=
  ⟨"performance/over-synchronization", .medium, .performance,
    "Synchronized method shares no state with other critical sections"⟩

/-- Whether the whole method is a critical section. -/
def isSynchronized (n : Node) : Bool := ["synchronized", "lock"].any n.hasModifier

def fieldNames (owner : Node) : List String :=
  ((owner.childrenIn .member).filter (·.kind == .field)).filterMap (·.name)

def localNames (region : Node) : List String :=
  let declared (n : Node) : Bool := n.kind == .localVar || n.kind == .parameter
  (region.descendants.filter declared).filterMap (·.name)

/-- The variable that a node touches: a bare name that no local hides, or a field of `this`. -/
def touched? (hidden : List String) (n : Node) : Option String :=
  match n.kind with
  | .identifier => n.name.filter (!hidden.contains ·)
  | .fieldAccess => if (n.child? .receiver).any Node.isSelf then n.name else none
  | _ => none

def touchedFields (fields : List String) (region : Node) : List String :=
  let hidden := localNames region
  (region.descendants.filterMap (touched? hidden)).filter (fields.contains ·)

/-- The fields that the critical sections of a member touch. -/
def guardedFields (fields : List String) (m : Node) : List String :=
  let own := if m.kind == .method && isSynchronized m then touchedFields fields m else []
  own ++ (m.scopedDescendants.filter (·.kind == .synchronized)).flatMap (touchedFields fields)

/-- The members of the class other than the node: if the class is its parent, its own position is
left out. -/
def otherMembers (s : Site) (owner : Node) : List Node :=
  let skipsOwn := (s.parent?.map (·.kind)) == some .classDecl
  let members := owner.children.zipIdx.filter fun ((r, _), i) =>
    r == .member && !(skipsOwn && i == s.index)
  members.map fun ((_, m), _) => m

/-- The message, given the fields that the method touches. -/
def message (name : String) (mine : List String) : String :=
  if mine.isEmpty then "Method '" ++ name ++ "' is synchronized but touches no fields"
  else
    let sorted := mine.eraseDups.mergeSort fun a b => !(b < a)
    "Method '" ++ name ++ "' locks the whole body but its fields (" ++
      String.intercalate ", " sorted ++ ") are not guarded by any other synchronized region"

def report (s : Site) (n : Node) : List Finding :=
  if isSynchronized n then
    match s.class? with
    | some owner =>
      let fields := fieldNames owner
      let mine := touchedFields fields n
      let others := (otherMembers s owner).flatMap (guardedFields fields)
      if mine.any (others.contains ·) then []
      else
        [(s.finding rule n (message n.nameText mine)).withHint
          "Narrow the lock to the shared state, or use an atomic type"]
    | none => []
  else []

def detector : Detector := .reporting rule [.method] report

end TreeLint.Rules.OverSynchronization
