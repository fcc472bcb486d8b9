import TreeLint.Tree.Node

/-!
# Concatenation chains

A chain of `+` may be nested to the left, to the right or both ways; what counts is the list of
its operands in source order. `concatOperands` flattens a chain of any depth with a list of
pending expressions.
-/

namespace TreeLint.Node

/-- Whether the node is a `+` of two sides. -/
def isConcat (n : Node) : Bool := n.kind == .binary && n.valueText == "+"

/-- The sides that are present, left one first. -/
def sides (n : Node) : List Node := (n.child? .left).toList ++ (n.child? .right).toList

/-- The first children under two different roles are different children. -/
theorem size_firsts_le {r s : Role} (hrs : r ≠ s) (cs : List (Role × Node)) :
    sizeSum (((cs.find? (·.1 == r)).map (·.2)).toList ++ ((cs.find? (·.1 == s)).map (·.2)).toList)
      ≤ sizeList cs := by
  have single : ∀ (t : Role) (ds : List (Role × Node)),
      sizeSum ((ds.find? (·.1 == t)).map (·.2)).toList ≤ sizeList ds := by
    intro t ds
    induction ds with
    | nil => simp [sizeSum, sizeList]
    | cons d ds ih =>
      obtain ⟨u, m⟩ := d
      by_cases h : u = t
      · simp [h, sizeSum, sizeList]
      · simp [h, sizeList]; omega
  induction cs with
  | nil => simp [sizeSum, sizeList]
  | cons c cs ih =>
    obtain ⟨u, m⟩ := c
    have hr := single r cs
    have hs := single s cs
    by_cases h : u = r
    · subst h
      simp [hrs, sizeSum, sizeList] at hs ⊢
      omega
    · by_cases h' : u = s
      · subst h'
        simp [h, sizeSum, sizeList] at hr ⊢
        omega
      · simp [h, h', sizeList] at ih ⊢
        omega

theorem sizeSum_sides_lt (n : Node) : sizeSum n.sides < n.size := by
  have := size_firsts_le (r := .left) (s := .right) (by decide) n.children
  rw [size_eq]
  simp only [sides, child?]
  omega

/-- The operands of a list of pending expressions, in order. -/
def operandsOf : List Node → List Node
  | [] => []
  | n :: rest => if n.isConcat then operandsOf (n.sides ++ rest) else n :: operandsOf rest
termination_by ns => sizeSum ns
decreasing_by
  · have := n.sizeSum_sides_lt
    simp [sizeSum] at this ⊢
    omega
  · have := n.size_pos
    simp [sizeSum]
    omega

/-- The operands of a `+` chain, in source order. -/
def concatOperands (n : Node) : List Node := operandsOf [n]

/-- Whether the node is a `+` chain that mixes a string literal with an operand that is no
literal. -/
def isTaintedConcat (n : Node) : Bool :=
  n.isConcat && n.concatOperands.any (·.kind == .stringLiteral) &&
    n.concatOperands.any (!·.kind.isLiteral)

end TreeLint.Node
