import TreeLint.Tree.Kind
import TreeLint.Tree.Span

/-!
# Nodes of the normalized syntax tree

A node is a head (kind, span and the optional texts that go with the kind) over an ordered list
of children, each under a role. Rules read children by role, never by the types of a front end.

* `name`: the declared or referenced identifier, or the method name of a call;
* `value`: the text of a literal, or the operator of a binary, unary or assignment node;
* `typeName`: a declared type, the type that `new` constructs, or the return type of a method;
* `modifiers`: `static`, `final`, `synchronized`, `const`, …

Recursion over a tree is recursion over nodes and lists of children together, so the functions
come in pairs: `size` and `sizeList`, `decEq` and `decEqList`.
-/

namespace TreeLint

/-- What a node says about itself, apart from its children. -/
structure Head where
  kind : Kind
  span : Span := {}
  name : Option String := none
  value : Option String := none
  typeName : Option String := none
  modifiers : List String := []
deriving DecidableEq, Inhabited, Repr

/-- A node of the tree: its head and its children in declaration order. -/
structure Node extends Head where
  children : List (Role × Node) := []
deriving Inhabited

namespace Node

/-! ## Children by role -/

/-- The first child under `role`. -/
def child? (n : Node) (role : Role) : Option Node :=
  (n.children.find? (·.1 == role)).map (·.2)

/-- The children under `role`, in declaration order. -/
def childrenIn (n : Node) (role : Role) : List Node :=
  (n.children.filter (·.1 == role)).map (·.2)

/-- All children, whatever their roles. -/
def subnodes (n : Node) : List Node := n.children.map (·.2)

/-- The role of the child at position `i`. -/
def roleAt? (n : Node) (i : Nat) : Option Role := (n.children[i]?).map (·.1)

/-- The node reached by following child positions from `n`. -/
def at? (n : Node) : List Nat → Option Node
  | [] => some n
  | i :: path =>
    match n.children[i]? with
    | some (_, c) => c.at? path
    | none => none

/-! ## Attributes -/

/-- The name, or the empty text. -/
def nameText (n : Node) : String := n.name.getD ""

/-- The value, or the empty text. -/
def valueText (n : Node) : String := n.value.getD ""

def hasModifier (n : Node) (m : String) : Bool := n.modifiers.contains m

/-- Whether the node is an occurrence of the identifier `x`. -/
def isIdentifier (n : Node) (x : String) : Bool := n.kind == .identifier && n.nameText == x

/-- Whether the node is a plain assignment, written `=`. -/
def isPlainAssignment (n : Node) : Bool := n.kind == .assignment && n.valueText == "="

/-! ## Size and equality -/

mutual

def size : Node → Nat
  | ⟨_, cs⟩ => 1 + sizeList cs

/-- The number of nodes of a list of children. -/
def sizeList : List (Role × Node) → Nat
  | [] => 0
  | (_, n) :: cs => n.size + sizeList cs

end

theorem size_eq (n : Node) : n.size = 1 + sizeList n.children := by cases n; rfl

@[simp] theorem sizeList_append (cs ds : List (Role × Node)) :
    sizeList (cs ++ ds) = sizeList cs + sizeList ds := by
  induction cs with
  | nil => simp [sizeList]
  | cons c cs ih => obtain ⟨r, m⟩ := c; simp [sizeList, ih, Nat.add_assoc]

/-- The number of nodes of a list of trees. -/
def sizeSum : List Node → Nat
  | [] => 0
  | n :: ns => n.size + sizeSum ns

@[simp] theorem sizeSum_append (ms ns : List Node) :
    sizeSum (ms ++ ns) = sizeSum ms + sizeSum ns := by
  induction ms with
  | nil => simp [sizeSum]
  | cons m ms ih => simp [sizeSum, ih, Nat.add_assoc]

theorem sizeSum_map_snd (cs : List (Role × Node)) : sizeSum (cs.map (·.2)) = sizeList cs := by
  induction cs with
  | nil => rfl
  | cons c cs ih => obtain ⟨r, m⟩ := c; simpa [sizeSum, sizeList] using ih

/-- The children of a node are together smaller than the node. -/
theorem sizeSum_subnodes_lt (n : Node) : sizeSum n.subnodes < n.size := by
  rw [subnodes, sizeSum_map_snd, size_eq]; omega

theorem size_pos (n : Node) : 0 < n.size := by rw [size_eq]; omega

/-- A child is smaller than its parent. -/
theorem size_lt_of_mem {n : Node} {r : Role} {c : Node} (h : (r, c) ∈ n.children) :
    c.size < n.size := by
  have aux : ∀ cs : List (Role × Node), (r, c) ∈ cs → c.size ≤ sizeList cs := by
    intro cs
    induction cs with
    | nil => simp
    | cons d cs ih =>
      obtain ⟨s, m⟩ := d
      intro hm
      rcases List.mem_cons.1 hm with he | he
      · cases he; simp [sizeList]
      · have := ih he; simp [sizeList]; omega
  have := aux _ h
  rw [size_eq n]; omega

theorem size_lt_of_child? {n c : Node} {r : Role} (h : n.child? r = some c) : c.size < n.size := by
  obtain ⟨⟨s, m⟩, hs, rfl⟩ := Option.map_eq_some_iff.1 h
  exact size_lt_of_mem (List.mem_of_find?_eq_some hs)

theorem mem_children_of_mem_childrenIn {n c : Node} {r : Role} (h : c ∈ n.childrenIn r) :
    (r, c) ∈ n.children := by
  obtain ⟨⟨s, m⟩, hs, rfl⟩ := List.mem_map.1 h
  obtain ⟨hmem, hrole⟩ := List.mem_filter.1 hs
  obtain rfl : s = r := by simpa using hrole
  exact hmem

mutual

/-- Equality of trees is decided head by head and child by child. -/
def decEq : (a b : Node) → Decidable (a = b)
  | ⟨h, cs⟩, ⟨h', cs'⟩ =>
    if hh : h = h' then
      match decEqList cs cs' with
      | .isTrue e => .isTrue (by rw [hh, e])
      | .isFalse e => .isFalse (by intro x; cases x; exact e rfl)
    else .isFalse (by intro x; cases x; exact hh rfl)

/-- Equality of lists of children. -/
def decEqList : (a b : List (Role × Node)) → Decidable (a = b)
  | [], [] => .isTrue rfl
  | [], _ :: _ => .isFalse (by simp)
  | _ :: _, [] => .isFalse (by simp)
  | (r, n) :: cs, (r', n') :: cs' =>
    if hr : r = r' then
      match decEq n n' with
      | .isFalse e => .isFalse (by intro x; cases x; exact e rfl)
      | .isTrue e =>
        match decEqList cs cs' with
        | .isTrue e' => .isTrue (by rw [hr, e, e'])
        | .isFalse e' => .isFalse (by intro x; cases x; exact e' rfl)
    else .isFalse (by intro x; cases x; exact hr rfl)

end

instance : DecidableEq Node := decEq

/-! ## Building nodes -/

def leaf (kind : Kind) (span : Span) : Node := { kind, span }

/-- An occurrence of the identifier `name`. -/
def ident (name : String) (span : Span) : Node := { kind := .identifier, span, name := some name }

def string (value : String) (span : Span) : Node :=
  { kind := .stringLiteral, span, value := some value }

/-- A number literal, as written. -/
def number (value : String) (span : Span) : Node :=
  { kind := .numberLiteral, span, value := some value }

/-- A call of `name`, still without receiver and arguments. -/
def callOf (name : String) (span : Span) : Node := { kind := .call, span, name := some name }

/-- The application of a binary operator. -/
def binaryOf (op : String) (left right : Node) (span : Span) : Node :=
  { kind := .binary, span, value := some op, children := [(.left, left), (.right, right)] }

/-- The node with one more child, after those it has. -/
def push (n : Node) (role : Role) (c : Node) : Node :=
  { n with children := n.children ++ [(role, c)] }

/-- The node with more children under one role, after those it has. -/
def pushAll (n : Node) (role : Role) (cs : List Node) : Node :=
  { n with children := n.children ++ cs.map fun c => (role, c) }

def addModifier (n : Node) (m : String) : Node := { n with modifiers := n.modifiers ++ [m] }

end Node

end TreeLint
