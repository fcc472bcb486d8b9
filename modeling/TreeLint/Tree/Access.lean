import TreeLint.Tree.Node

/-!
# Names that expressions stand for

Variables are written bare (`x`) or through the receiver of the method (`this.x`, `self.x`).
Chains of field accesses have a dotted path (`System.out`).
-/

namespace TreeLint.Node

/-- The arguments of a call or of a `new`, in order. -/
def arguments (n : Node) : List Node := n.childrenIn .argument

/-- Whether the node is the receiver of the method, `this` or `self`. -/
def isSelf (n : Node) : Bool := n.isIdentifier "this" || n.isIdentifier "self"

/-- The variable that the expression stands for: an identifier, or a field of `this` or
`self`. -/
def accessName? (n : Node) : Option String :=
  match n.kind with
  | .identifier => n.name
  | .fieldAccess => if (n.child? .receiver).any isSelf then n.name else none
  | _ => none

mutual

/-- The dotted text of a chain of field accesses that starts at an identifier. -/
def dottedPath? : Node → Option String
  | ⟨h, cs⟩ =>
    match h.kind with
    | .identifier => h.name
    | .fieldAccess => (receiverPath? cs).map fun path => path ++ "." ++ h.name.getD ""
    | _ => none

/-- The dotted text of the first receiver among the children. -/
def receiverPath? : List (Role × Node) → Option String
  | [] => none
  | (r, n) :: cs => if r == .receiver then n.dottedPath? else receiverPath? cs

end

end TreeLint.Node
