import Mathlib.Data.List.Forall2
import Mathlib.Data.List.Sort
import TreeLint.Analysis
import TreeLint.Proofs.Visits

/-!
# Replacing a callable in a tree

`Node.replaceAt` puts another subtree at a position and keeps the role under which it stands. Here
the subtree is a method, a constructor or a function, and above it are only the program and
classes. How much of the tree outside the position can tell the two trees apart?

The positions outside stay what they are (`map_path_outside`). The node at such a position, and
each node above it, is equal in both trees or *alike*: a program or class of the same kind with the
same fields, which differs somewhere in its other members (`rel_at?`). So a visit outside meets in
both trees the same node, unless that node is on the way to the position, and above it nodes that
are alike.

**Theorem (`forall₂_visits_outside`).** The visits outside are pairwise alike, one after the other.
-/

namespace TreeLint

/-! ## Containers -/

namespace Node

/-- The node is a program or a class, which hold declarations. -/
def IsContainer (n : Node) : Prop := n.kind = .program ∨ n.kind = .classDecl

instance (n : Node) : Decidable n.IsContainer := inferInstanceAs (Decidable (_ ∨ _))

/-- The members that are fields, in declaration order. -/
def fields (n : Node) : List Node := (n.childrenIn .member).filter (·.kind == .field)

/-- Nodes that look the same from inside one of their children: they are equal, or containers of
one kind with the same fields. -/
inductive Alike : Node → Node → Prop
  | refl (n : Node) : Alike n n
  | container {n n' : Node} (hn : n.IsContainer) (hkind : n'.kind = n.kind)
      (hfields : n'.fields = n.fields) : Alike n n'

variable {n n' c m m' root : Node} {r : Role} {i : Nat} {path q : List Nat}

theorem Alike.kind_eq (h : Alike n n') : n'.kind = n.kind := by
  cases h with
  | refl => rfl
  | container _ hkind _ => exact hkind

theorem Alike.fields_eq (h : Alike n n') : n'.fields = n.fields := by
  cases h with
  | refl => rfl
  | container _ _ hfields => exact hfields

/-- Nodes that are alike can differ only if they are containers. -/
theorem Alike.eq_or_isContainer (h : Alike n n') : n' = n ∨ n.IsContainer ∧ n'.IsContainer := by
  cases h with
  | refl => exact .inl rfl
  | container hn hkind _ => exact .inr ⟨hn, by rwa [IsContainer, hkind]⟩

theorem kind_ne_field_of_isContainer (h : n.IsContainer) : n.kind ≠ .field := by
  rcases h with hk | hk <;> simp [hk]

theorem kind_ne_field_of_isMeasured (h : n.isMeasured) : n.kind ≠ .field := by
  rcases isMeasured_iff.1 h with hk | hk | hk <;> simp [hk]

/-! ## Replacement -/

/-- The tree with `m` in place of the node at a position. -/
def replaceAt (n : Node) : (path : List Nat) → (m : Node) → Node
  | [], m => m
  | i :: path, m =>
    { n with children := n.children.modify i fun (r, c) => (r, c.replaceAt path m) }

@[simp] theorem kind_replaceAt_cons (n : Node) (i : Nat) (path : List Nat) (m : Node) :
    (n.replaceAt (i :: path) m).kind = n.kind := rfl

/-- Only the child on the way changes, and it keeps its role. -/
theorem children_replaceAt_self (hi : n.children[i]? = some (r, c)) (path : List Nat) (m : Node) :
    (n.replaceAt (i :: path) m).children[i]? = some (r, c.replaceAt path m) := by
  simp [replaceAt, hi]

theorem children_replaceAt_ne {j : Nat} (hij : i ≠ j) (path : List Nat) (m : Node) :
    (n.replaceAt (i :: path) m).children[j]? = n.children[j]? := by
  simp [replaceAt, hij]

theorem filter_modify_of_neg {α : Type*} {p : α → Bool} {f : α → α} {xs : List α} {x : α}
    (hi : xs[i]? = some x) (hx : p x = false) (hfx : p (f x) = false) :
    (xs.modify i f).filter p = xs.filter p := by
  induction xs generalizing i with
  | nil => simp at hi
  | cons y ys ih =>
    cases i with
    | zero =>
      obtain rfl : y = x := by simpa using hi
      simp [hx, hfx]
    | succ i =>
      have htail := ih (i := i) (by simpa using hi)
      simp only [List.modify_succ_cons, List.filter_cons, htail]

theorem fields_eq (n : Node) :
    n.fields = (n.children.filter fun (r, c) => c.kind == .field && r == .member).map (·.2) := by
  rw [fields, childrenIn, List.filter_map, List.filter_filter]
  rfl

theorem fields_replaceAt_cons (hi : n.children[i]? = some (r, c)) (hc : c.kind ≠ .field)
    (hc' : (c.replaceAt path m).kind ≠ .field) :
    (n.replaceAt (i :: path) m).fields = n.fields := by
  rw [fields_eq, fields_eq]
  exact congrArg _ (filter_modify_of_neg hi (by simp [hc]) (by simp [hc']))

/-- A method, constructor or function stands at the position, with only containers above it, and
another one takes its place. -/
structure Exchange (root : Node) (path : List Nat) (m m' : Node) : Prop where
  at_path : root.at? path = some m
  measured : m.isMeasured
  measured' : m'.isMeasured
  above : ∀ a ∈ root.ancestorsAt path, a.IsContainer

namespace Exchange

theorem below (h : Exchange root (i :: path) m m') :
    root.IsContainer ∧ ∃ r c, root.children[i]? = some (r, c) ∧ Exchange c path m m' := by
  obtain ⟨r, c, hi, hc⟩ := at?_cons.1 h.at_path
  have habove := h.above
  rw [ancestorsAt_cons hi] at habove
  refine ⟨habove root (by simp), r, c, hi, hc, h.measured, h.measured', fun a ha => ?_⟩
  exact habove a (List.mem_append_left _ ha)

theorem kind_ne_field (h : Exchange n path m m') :
    n.kind ≠ .field ∧ (n.replaceAt path m').kind ≠ .field := by
  cases path with
  | nil =>
    obtain rfl : n = m := by simpa [at?] using h.at_path
    exact ⟨kind_ne_field_of_isMeasured h.measured, kind_ne_field_of_isMeasured h.measured'⟩
  | cons i path =>
    have hn := kind_ne_field_of_isContainer h.below.1
    exact ⟨hn, by rwa [kind_replaceAt_cons]⟩

/-- **What is left of the nodes outside.** At a position outside the exchanged one, the two trees
have no node both, or nodes that are alike. -/
theorem rel_at? (h : Exchange root path m m') (hq : ¬ path <+: q) :
    Option.Rel Alike (root.at? q) ((root.replaceAt path m').at? q) := by
  induction path generalizing root q with
  | nil => exact absurd List.nil_prefix hq
  | cons i path ih =>
    obtain ⟨hroot, r, c, hi, hc⟩ := h.below
    cases q with
    | nil =>
      have hfields := fields_replaceAt_cons hi hc.kind_ne_field.1 hc.kind_ne_field.2
      exact .some (.container hroot (kind_replaceAt_cons root i path m') hfields)
    | cons j q =>
      by_cases hij : i = j
      · subst hij
        have hrest : ¬ path <+: q := fun h => hq (List.cons_prefix_cons.2 ⟨rfl, h⟩)
        rw [at?, at?, hi, children_replaceAt_self hi]
        exact ih hc hrest
      · -- Another child of the root, with all that is below it, is in both trees.
        rw [at?, at?, children_replaceAt_ne hij]
        cases root.children[j]? with
        | none => exact .none
        | some rd =>
          obtain ⟨r, d⟩ := rd
          dsimp only
          cases d.at? q with
          | none => exact .none
          | some x => exact .some (.refl x)

theorem forall₂_ancestorsAt (h : Exchange root path m m') (hq : ¬ path <+: q) :
    List.Forall₂ Alike (root.ancestorsAt q) ((root.replaceAt path m').ancestorsAt q) := by
  have hstep : ∀ j k, j = k →
      Option.Rel Alike (root.at? (q.take j)) ((root.replaceAt path m').at? (q.take k)) := by
    rintro j _ rfl
    exact h.rel_at? fun hle => hq (hle.trans (List.take_prefix j q))
  exact List.rel_reverse (List.rel_filterMap hstep (List.forall₂_same.2 fun _ _ => rfl))

end Exchange

end Node

/-! ## Visits outside -/

namespace Visit

/-- Whether the visit is neither at the position nor below it. -/
def isOutside (path : List Nat) (v : Visit) : Bool := !decide (path <+: v.path)

theorem isOutside_iff {path : List Nat} {v : Visit} : v.isOutside path ↔ ¬ path <+: v.path := by
  simp [isOutside]

/-- Visits in two trees, at one position: the nodes are alike, and so are those above them. -/
structure Alike (v v' : Visit) : Prop where
  path : v'.path = v.path
  node : Node.Alike v.node v'.node
  ancestors : List.Forall₂ Node.Alike v.ancestors v'.ancestors

end Visit

theorem isSome_eq_of_rel {α β : Type*} {R : α → β → Prop} {a : Option α} {b : Option β}
    (h : Option.Rel R a b) : a.isSome = b.isSome := by
  cases h <;> rfl

theorem forall₂_of_map_eq {α β γ : Type*} {R : α → β → Prop} {f : α → γ} {g : β → γ}
    {xs : List α} {ys : List β} (hkeys : xs.map f = ys.map g)
    (h : ∀ x ∈ xs, ∀ y ∈ ys, f x = g y → R x y) : List.Forall₂ R xs ys := by
  induction xs generalizing ys with
  | nil =>
    obtain rfl : ys = [] := by simpa using hkeys.symm
    exact .nil
  | cons x xs ih =>
    cases ys with
    | nil => simp at hkeys
    | cons y ys =>
      obtain ⟨hxy, hrest⟩ : f x = g y ∧ xs.map f = ys.map g := by simpa using hkeys
      refine .cons (h x (by simp) y (by simp) hxy) (ih hrest fun a ha b hb => ?_)
      exact h a (List.mem_cons_of_mem x ha) b (List.mem_cons_of_mem y hb)

namespace Node

variable {root m m' : Node} {path : List Nat}

theorem mem_map_path_outside {q : List Nat} :
    q ∈ (root.visits.filter (·.isOutside path)).map (·.path) ↔
      ¬ path <+: q ∧ (root.at? q).isSome := by
  simp only [List.mem_map, List.mem_filter, Visit.isOutside_iff, mem_visits_iff]
  constructor
  · rintro ⟨v, ⟨⟨hat, -⟩, hout⟩, rfl⟩
    exact ⟨hout, by simp [hat]⟩
  · rintro ⟨hout, hsome⟩
    obtain ⟨n, hn⟩ := Option.isSome_iff_exists.1 hsome
    exact ⟨⟨q, root.ancestorsAt q, n⟩, ⟨⟨hn, rfl⟩, hout⟩, rfl⟩

theorem map_path_outside_ordered (root : Node) (path : List Nat) :
    ((root.visits.filter (·.isOutside path)).map (·.path)).Pairwise (List.Lex (· < ·)) :=
  List.pairwise_map.2 (root.visits_ordered.sublist List.filter_sublist)

/-- The positions outside are the same in both trees: they are in order, so it is enough that each
is in both or in none. -/
theorem Exchange.map_path_outside (h : Exchange root path m m') :
    (root.visits.filter (·.isOutside path)).map (·.path) =
      ((root.replaceAt path m').visits.filter (·.isOutside path)).map (·.path) := by
  refine (map_path_outside_ordered root path).eq_of_mem_iff (map_path_outside_ordered _ path)
    fun q => ?_
  rw [mem_map_path_outside, mem_map_path_outside]
  refine and_congr_right fun hq => ?_
  rw [isSome_eq_of_rel (h.rel_at? hq)]

/-- **The visits outside are pairwise alike.** -/
theorem Exchange.forall₂_visits_outside (h : Exchange root path m m') :
    List.Forall₂ Visit.Alike (root.visits.filter (·.isOutside path))
      ((root.replaceAt path m').visits.filter (·.isOutside path)) := by
  refine forall₂_of_map_eq h.map_path_outside fun v hv v' hv' hpath => ?_
  obtain ⟨hmem, hout⟩ := List.mem_filter.1 hv
  obtain ⟨hnode, hancestors⟩ := mem_visits_iff.1 hmem
  obtain ⟨hnode', hancestors'⟩ := mem_visits_iff.1 (List.mem_filter.1 hv').1
  have hq := Visit.isOutside_iff.1 hout
  have hrel := h.rel_at? hq
  rw [← hpath] at hnode' hancestors'
  rw [hnode, hnode'] at hrel
  refine ⟨hpath.symm, ?_, ?_⟩
  · cases hrel with
    | some h => exact h
  · rw [hancestors, hancestors']
    exact h.forall₂_ancestorsAt hq

end Node

end TreeLint
