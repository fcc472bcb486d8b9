import Mathlib.Data.List.Flatten
import Mathlib.Data.List.Perm.Basic
import TreeLint.Tree.Scope

/-!
# Parentheses in concatenations

The rules flatten a `+` chain with a list of pending expressions, whatever its shape. The plain
recursion `Node.operands` says what comes out: the operands of the left side, then those of the
right side, where a missing side has none.

**Theorem (`concatOperands_eq`).** The list of pending expressions gives the operands of the
recursion. So how a chain is parenthesized does not matter to what is read off its operands.

What else does a chain hold? Its `+` nodes may have children that are no sides of theirs, say a
second left side. These are the *strays* of the chain. A search through the chain meets its operands
and its strays, each as a whole, and apart from them only `+` nodes (`perm_flatMap_pieces`). So a
search that finds nothing in a `+` node itself finds the same things, in some order, in each chain
of the same operands and strays.
-/

namespace TreeLint

namespace Node

variable {n m m' : Node}

/-! ## Operands -/

mutual

/-- The operands of an expression, in order: of a `+` those of its left side and then those of its
right side, and any other expression is its own operand. -/
def operands : Node → List Node
  | ⟨h, cs⟩ =>
    if isConcat ⟨h, cs⟩ then firstOperands .left cs ++ firstOperands .right cs else [⟨h, cs⟩]

/-- The operands of the first child under the role; a missing one has none. -/
def firstOperands (role : Role) : List (Role × Node) → List Node
  | [] => []
  | (r, n) :: cs => if r == role then n.operands else firstOperands role cs

end

theorem firstOperands_eq (role : Role) (cs : List (Role × Node)) :
    firstOperands role cs = ((cs.find? (·.1 == role)).map (·.2)).toList.flatMap operands := by
  induction cs with
  | nil => rfl
  | cons c cs ih =>
    obtain ⟨r, n⟩ := c
    by_cases hr : r = role <;> simp [firstOperands, hr, ih]

theorem operands_of_isConcat (h : n.isConcat) : n.operands = n.sides.flatMap operands := by
  obtain ⟨head, cs⟩ := n
  rw [operands, if_pos h, firstOperands_eq, firstOperands_eq, sides, List.flatMap_append]
  rfl

theorem operands_of_not_isConcat (h : ¬n.isConcat) : n.operands = [n] := by
  obtain ⟨head, cs⟩ := n
  rw [operands, if_neg h]

theorem operandsOf_eq (ns : List Node) : operandsOf ns = ns.flatMap operands := by
  fun_induction operandsOf ns with
  | case1 => rfl
  | case2 n rest h ih =>
    rw [ih, List.flatMap_append, List.flatMap_cons, operands_of_isConcat h]
  | case3 n rest h ih =>
    rw [ih, List.flatMap_cons, operands_of_not_isConcat h, List.singleton_append]

/-- **Flattening with a list of pending expressions is the plain recursion.** -/
theorem concatOperands_eq (n : Node) : n.concatOperands = n.operands := by
  rw [concatOperands, operandsOf_eq, List.flatMap_singleton]

/-- A property that passes from the sides of a `+` to the `+`, and that all other expressions have.
-/
theorem of_sides {P : Node → Prop} (hconcat : ∀ n, n.isConcat → (∀ s ∈ n.sides, P s) → P n)
    (hother : ∀ n, ¬n.isConcat → P n) (n : Node) : P n := by
  induction hs : n.size using Nat.strongRecOn generalizing n with
  | ind k ih =>
    subst hs
    by_cases h : n.isConcat
    · refine hconcat n h fun s hs => ih s.size ?_ s rfl
      have hle : s.size ≤ sizeSum n.sides := by
        obtain ⟨before, after, hsplit⟩ := List.append_of_mem hs
        simp only [hsplit, sizeSum_append, sizeSum]
        omega
      exact Nat.lt_of_le_of_lt hle n.sizeSum_sides_lt
    · exact hother n h

theorem kind_of_isConcat (h : n.isConcat) : n.kind = .binary := by
  simp only [isConcat, Bool.and_eq_true, beq_iff_eq] at h
  exact h.1

theorem not_isConcat_of_mem_operands : ∀ x ∈ n.operands, ¬x.isConcat := by
  induction n using of_sides with
  | hconcat n h ih =>
    intro x hx
    rw [operands_of_isConcat h] at hx
    obtain ⟨s, hs, hx⟩ := List.mem_flatMap.1 hx
    exact ih s hs x hx
  | hother n h =>
    intro x hx
    rw [operands_of_not_isConcat h] at hx
    exact List.mem_singleton.1 hx ▸ h

/-- Whether a chain is tainted shows in the kinds of its operands. -/
theorem isTaintedConcat_eq (n : Node) :
    n.isTaintedConcat =
      (n.isConcat && (n.operands.map (·.kind)).any (· == .stringLiteral) &&
        (n.operands.map (·.kind)).any (!·.isLiteral)) := by
  rw [isTaintedConcat, concatOperands_eq, List.any_map, List.any_map]
  rfl

theorem isTaintedConcat_congr (hconcat : m'.isConcat = m.isConcat)
    (hkinds : m'.operands.map (·.kind) = m.operands.map (·.kind)) :
    m'.isTaintedConcat = m.isTaintedConcat := by
  rw [isTaintedConcat_eq, isTaintedConcat_eq, hconcat, hkinds]

/-! ## Strays -/

/-- The children that are no sides of the node. -/
def looseChildren (n : Node) : List Node :=
  ((n.children.eraseP (·.1 == .left)).eraseP (·.1 == .right)).map (·.2)

mutual

/-- The children of the `+` nodes of a chain that are no sides. -/
def strays : Node → List Node
  | ⟨h, cs⟩ =>
    if isConcat ⟨h, cs⟩ then
      looseChildren ⟨h, cs⟩ ++ firstStrays .left cs ++ firstStrays .right cs
    else []

/-- The strays of the first child under the role. -/
def firstStrays (role : Role) : List (Role × Node) → List Node
  | [] => []
  | (r, n) :: cs => if r == role then n.strays else firstStrays role cs

end

theorem firstStrays_eq (role : Role) (cs : List (Role × Node)) :
    firstStrays role cs = ((cs.find? (·.1 == role)).map (·.2)).toList.flatMap strays := by
  induction cs with
  | nil => rfl
  | cons c cs ih =>
    obtain ⟨r, n⟩ := c
    by_cases hr : r = role <;> simp [firstStrays, hr, ih]

theorem strays_of_isConcat (h : n.isConcat) :
    n.strays = n.looseChildren ++ n.sides.flatMap strays := by
  obtain ⟨head, cs⟩ := n
  rw [strays, if_pos h, firstStrays_eq, firstStrays_eq, sides, List.flatMap_append,
    List.append_assoc]
  rfl

theorem strays_of_not_isConcat (h : ¬n.isConcat) : n.strays = [] := by
  obtain ⟨head, cs⟩ := n
  rw [strays, if_neg h]

end Node

theorem toList_find?_append_eraseP {α : Type*} (p : α → Bool) (xs : List α) :
    ((xs.find? p).toList ++ xs.eraseP p).Perm xs := by
  induction xs with
  | nil => exact .refl _
  | cons x xs ih =>
    by_cases hx : p x
    · simp [hx]
    · simp only [List.find?_cons_of_neg hx, List.eraseP_cons_of_neg hx]
      exact List.perm_middle.trans (ih.cons x)

theorem find?_eraseP_of_disjoint {α : Type*} {p q : α → Bool} (hpq : ∀ x, p x → ¬q x)
    (xs : List α) : (xs.eraseP p).find? q = xs.find? q := by
  induction xs with
  | nil => rfl
  | cons x xs ih =>
    by_cases hx : p x
    · rw [List.eraseP_cons_of_pos hx, List.find?_cons_of_neg (hpq x hx)]
    · rw [List.eraseP_cons_of_neg hx, List.find?_cons, List.find?_cons, ih]

namespace Node

variable {β : Type*} {n m m' : Node}

theorem perm_sides_append_looseChildren (n : Node) :
    (n.sides ++ n.looseChildren).Perm n.subnodes := by
  let l : Role × Node → Bool := (·.1 == .left)
  let r : Role × Node → Bool := (·.1 == .right)
  have hright : (n.children.eraseP l).find? r = n.children.find? r := by
    refine find?_eraseP_of_disjoint (fun x hl hr => ?_) n.children
    obtain ⟨role, c⟩ := x
    cases role <;> simp [l, r] at hl hr
  have hparts : ((n.children.find? l).toList ++ ((n.children.find? r).toList ++
      (n.children.eraseP l).eraseP r)).Perm n.children := by
    have hrest := toList_find?_append_eraseP r (n.children.eraseP l)
    rw [hright] at hrest
    exact (hrest.append_left _).trans (toList_find?_append_eraseP l n.children)
  have hmap := hparts.map (·.2)
  rw [List.map_append, List.map_append, ← List.append_assoc] at hmap
  rw [sides, child?, child?, looseChildren, subnodes]
  simpa only [Option.toList_map] using hmap

/-- **What a search meets in a chain.** A search that finds in a `+` node only what it finds in the
children finds in a chain what it finds in the operands and in the strays. -/
theorem perm_flatMap_pieces {g : Node → List β}
    (hg : ∀ n, n.isConcat → g n = n.subnodes.flatMap g) (n : Node) :
    (g n).Perm ((n.operands ++ n.strays).flatMap g) := by
  induction n using of_sides with
  | hconcat n h ih =>
    have hsides : (n.sides.flatMap g).Perm
        ((n.sides.flatMap operands ++ n.sides.flatMap strays).flatMap g) := by
      have hpieces : (n.sides.flatMap g).Perm
          ((n.sides.flatMap fun s => s.operands ++ s.strays).flatMap g) := by
        rw [List.flatMap_assoc]
        exact List.Perm.flatMap_left _ ih
      exact hpieces.trans ((List.flatMap_append_perm _ _ _).symm.flatMap_right g)
    rw [hg n h, operands_of_isConcat h, strays_of_isConcat h]
    calc
      List.Perm (n.subnodes.flatMap g) (n.sides.flatMap g ++ n.looseChildren.flatMap g) := by
        rw [← List.flatMap_append]
        exact n.perm_sides_append_looseChildren.symm.flatMap_right g
      List.Perm _ ((n.sides.flatMap operands ++ n.sides.flatMap strays).flatMap g ++
          n.looseChildren.flatMap g) := hsides.append_right _
      List.Perm _ _ := by
        rw [← List.flatMap_append, List.append_assoc]
        exact (List.perm_append_comm.append_left _).flatMap_right g
  | hother n h =>
    rw [operands_of_not_isConcat h, strays_of_not_isConcat h, List.append_nil,
      List.flatMap_singleton]

/-- Two `+` chains that differ in their parentheses: they have the same operands in the same order,
and the same strays. -/
structure Reassociated (m m' : Node) : Prop where
  isConcat : m.isConcat
  isConcat' : m'.isConcat
  operands : m'.operands = m.operands
  strays : m'.strays.Perm m.strays

/-- Such chains hold the same for every search that finds nothing in a `+` node itself. -/
theorem Reassociated.perm (h : Reassociated m m') {g : Node → List β}
    (hg : ∀ n, n.isConcat → g n = n.subnodes.flatMap g) : (g m').Perm (g m) := by
  have hpieces : (m'.operands ++ m'.strays).Perm (m.operands ++ m.strays) := by
    rw [h.operands]
    exact h.strays.append_left _
  exact ((perm_flatMap_pieces hg m').trans (hpieces.flatMap_right g)).trans
    (perm_flatMap_pieces hg m).symm

end Node

end TreeLint
