import TreeLint.Rules.ResourceLeak

/-!
# Ways through statements that hold a resource

What it means for a resource to leak is said here without any analysis, by the *ways* through
statements. A way starts with the resource open and ends in one of three manners: the resource is
released, or the scope is left with it open, or the end of the statements is reached with it open.
`Runs` relates a list of statements to the endings of its ways, `Ends` a single statement.

* A control statement runs one of the lists `Node.branches`; a loop that tests first and a switch
  may run none.
* A try statement then runs its finally block, on each way that has not released the resource. A way
  that was leaving goes on leaving after the block, unless the block releases the resource.
* Any other statement has one way (`simpleEnding`).

Statements are taken as lists that stand in a node (`Node.Holds`), so that whatever is said of lists
can be proved by induction over their size. `Reaches` says which statements a way may come to.
-/

namespace TreeLint

/-! ## Branches -/

namespace Node

/-- The statements of the first child under the role; a missing child has none. -/
def statementsIn (n : Node) (role : Role) : List Node := (n.child? role).elim [] statements

/-- The lists of statements of which a control statement runs one. A loop that tests first and a
switch may run nothing. -/
def branches (n : Node) : List (List Node) :=
  match n.kind with
  | .block => [n.childrenIn .statement]
  | .synchronized | .doWhile => [n.statementsIn .body]
  | .ifStmt => [n.statementsIn .thenBranch, n.statementsIn .elseBranch]
  | .forLoop | .forEach | .whileLoop => [n.statementsIn .body, []]
  | .switchStmt => (n.childrenIn .caseLabel).map (·.childrenIn .statement) ++ [[]]
  | .tryStmt => n.statementsIn .body :: (n.childrenIn .catchClause).map (·.statementsIn .body)
  | _ => []

/-- Whether the node is a statement that runs other statements. -/
def isControl (n : Node) : Bool :=
  match n.kind with
  | .block | .synchronized | .ifStmt | .forLoop | .forEach | .whileLoop | .doWhile | .tryStmt
  | .switchStmt => true
  | _ => false

theorem isControl_of_mem_branches {n : Node} {ns : List Node} (h : ns ∈ n.branches) :
    n.isControl = true := by
  unfold branches at h
  unfold isControl
  split at h <;> simp_all

theorem isControl_of_try {n : Node} (h : n.kind = .tryStmt) : n.isControl = true := by
  rw [isControl, h]

theorem branches_ne_nil {n : Node} (h : n.isControl = true) : n.branches ≠ [] := by
  unfold branches
  unfold isControl at h
  split <;> simp_all

/-- Lists of statements that stand in a node or deeper in it. -/
inductive Holds : Node → List Node → Prop
  | nothing (n : Node) : Holds n []
  | statements (n : Node) : Holds n (n.childrenIn .statement)
  | child (n : Node) (role : Role) : Holds n (n.statementsIn role)
  | deeper {n c : Node} {role : Role} {ns : List Node} :
      c ∈ n.childrenIn role → Holds c ns → Holds n ns

theorem holds_of_mem_branches {n : Node} {ns : List Node} (h : ns ∈ n.branches) : Holds n ns := by
  cases hk : n.kind <;>
    simp only [branches, hk, List.mem_cons, List.mem_append, List.mem_map, List.not_mem_nil,
      or_false] at h
  case block =>
    rw [h]
    exact .statements n
  case synchronized | doWhile =>
    rw [h]
    exact .child n .body
  case ifStmt =>
    rcases h with rfl | rfl
    · exact .child n .thenBranch
    · exact .child n .elseBranch
  case forLoop | forEach | whileLoop =>
    rcases h with rfl | rfl
    · exact .child n .body
    · exact .nothing n
  case switchStmt =>
    rcases h with ⟨c, hc, rfl⟩ | rfl
    · exact .deeper hc (.statements c)
    · exact .nothing n
  case tryStmt =>
    rcases h with rfl | ⟨c, hc, rfl⟩
    · exact .child n .body
    · exact .deeper hc (.child c .body)

theorem sizeSum_le_of_sublist {ms ns : List Node} (h : ms.Sublist ns) :
    sizeSum ms ≤ sizeSum ns := by
  induction h with
  | slnil => exact Nat.le_refl 0
  | cons n _ ih => exact Nat.le_trans ih (Nat.le_add_left _ _)
  | cons_cons n _ ih => exact Nat.add_le_add_left ih _

theorem childrenIn_sublist (n : Node) (role : Role) : (n.childrenIn role).Sublist n.subnodes :=
  List.filter_sublist.map _

theorem sizeSum_childrenIn_lt (n : Node) (role : Role) : sizeSum (n.childrenIn role) < n.size :=
  Nat.lt_of_le_of_lt (sizeSum_le_of_sublist (n.childrenIn_sublist role)) n.sizeSum_subnodes_lt

theorem sizeSum_statements_le (n : Node) : sizeSum n.statements ≤ n.size := by
  unfold statements
  split
  · exact Nat.le_of_lt (n.sizeSum_childrenIn_lt .statement)
  · exact Nat.le_of_lt (n.sizeSum_childrenIn_lt .statement)
  · exact Nat.le_refl _

theorem sizeSum_statementsIn_lt (n : Node) (role : Role) :
    sizeSum (n.statementsIn role) < n.size := by
  unfold statementsIn
  cases hc : n.child? role with
  | none => exact n.size_pos
  | some c => exact Nat.lt_of_le_of_lt (sizeSum_statements_le c) (size_lt_of_child? hc)

/-- What stands in a node is smaller than the node. -/
theorem Holds.sizeSum_lt {n : Node} {ns : List Node} (h : Holds n ns) : sizeSum ns < n.size := by
  induction h with
  | nothing n => exact n.size_pos
  | statements n => exact n.sizeSum_childrenIn_lt .statement
  | child n role => exact n.sizeSum_statementsIn_lt role
  | deeper hc _ ih => exact Nat.lt_trans ih (size_lt_of_mem (mem_children_of_mem_childrenIn hc))

theorem mem_preorder_self (n : Node) : n ∈ n.preorder Walk.everything := by
  rw [preorder_eq]
  exact List.mem_cons_self

theorem preorder_subset_of_mem_subnodes {n c : Node} (hc : c ∈ n.subnodes) :
    c.preorder Walk.everything ⊆ n.preorder Walk.everything := by
  intro t ht
  rw [preorder_eq]
  exact List.mem_cons_of_mem n (List.mem_flatMap.2 ⟨c, hc, ht⟩)

theorem preorder_subset_of_mem_childrenIn {n c : Node} {role : Role} (hc : c ∈ n.childrenIn role) :
    c.preorder Walk.everything ⊆ n.preorder Walk.everything :=
  preorder_subset_of_mem_subnodes ((n.childrenIn_sublist role).mem hc)

theorem preorder_subset_of_mem_statements {n m : Node} (hm : m ∈ n.statements) :
    m.preorder Walk.everything ⊆ n.preorder Walk.everything := by
  unfold statements at hm
  split at hm
  · exact preorder_subset_of_mem_childrenIn hm
  · exact preorder_subset_of_mem_childrenIn hm
  · rw [List.mem_singleton.1 hm]
    exact List.Subset.refl _

theorem mem_subnodes_of_child? {n c : Node} {role : Role} (h : n.child? role = some c) :
    c ∈ n.subnodes := by
  obtain ⟨rc, hrc, rfl⟩ := Option.map_eq_some_iff.1 h
  exact List.mem_map_of_mem (List.mem_of_find?_eq_some hrc)

theorem Holds.preorder_subset {n : Node} {ns : List Node} (h : Holds n ns) :
    ∀ m ∈ ns, m.preorder Walk.everything ⊆ n.preorder Walk.everything := by
  induction h with
  | nothing n => simp
  | statements n => exact fun m hm => preorder_subset_of_mem_childrenIn hm
  | child n role =>
    intro m hm
    unfold statementsIn at hm
    cases hc : n.child? role with
    | none => simp [hc] at hm
    | some c =>
      rw [hc] at hm
      exact List.Subset.trans (preorder_subset_of_mem_statements hm)
        (preorder_subset_of_mem_subnodes (mem_subnodes_of_child? hc))
  | deeper hc _ ih =>
    exact fun m hm => List.Subset.trans (ih m hm) (preorder_subset_of_mem_childrenIn hc)

end Node

namespace Rules.ResourceLeak

/-! ## Ways -/

/-- How a way through statements ends that starts with the resource open. -/
inductive Ending where
  /-- The resource is released or handed on. -/
  | released
  /-- The scope is left with the resource open. -/
  | exitsOpen
  /-- The end of the statements is reached with the resource open. -/
  | fallsThrough
deriving DecidableEq, Repr

/-- The ending of a way that was leaving the scope and runs a finally block first: to reach the end
of the block is to leave. -/
def Ending.leaving : Ending → Ending
  | .fallsThrough => .exitsOpen
  | e => e

/-- The only ending of a statement that runs no other statements. -/
def simpleEnding (releases : List String) (x : String) (n : Node) : Ending :=
  if settlesWithin releases x n then .released
  else if n.kind = .returnStmt ∨ n.kind = .throwStmt then .exitsOpen
  else .fallsThrough

mutual

/-- The endings of the ways through statements that run one after the other. -/
inductive Runs (releases : List String) (x : String) : List Node → Ending → Prop
  | done : Runs releases x [] .fallsThrough
  | stops {n : Node} {ns : List Node} {e : Ending} :
      Ends releases x n e → e ≠ .fallsThrough → Runs releases x (n :: ns) e
  | goesOn {n : Node} {ns : List Node} {e : Ending} :
      Ends releases x n .fallsThrough → Runs releases x ns e → Runs releases x (n :: ns) e

/-- The endings of the ways through one statement. A try statement without a finally block ends as
if it had an empty one. -/
inductive Ends (releases : List String) (x : String) : Node → Ending → Prop
  | simple {n : Node} : n.isControl = false → Ends releases x n (simpleEnding releases x n)
  | branch {n : Node} {ns : List Node} {e : Ending} :
      n.kind ≠ .tryStmt → ns ∈ n.branches → Runs releases x ns e → Ends releases x n e
  | triedReleased {n : Node} {ns : List Node} :
      n.kind = .tryStmt → ns ∈ n.branches → Runs releases x ns .released →
      Ends releases x n .released
  | triedThrough {n : Node} {ns : List Node} {e : Ending} :
      n.kind = .tryStmt → ns ∈ n.branches → Runs releases x ns .fallsThrough →
      Runs releases x (n.statementsIn .finallyBlock) e → Ends releases x n e
  | triedLeaving {n : Node} {ns : List Node} {e : Ending} :
      n.kind = .tryStmt → ns ∈ n.branches → Runs releases x ns .exitsOpen →
      Runs releases x (n.statementsIn .finallyBlock) e → Ends releases x n e.leaving

end

/-- Statements that a way through a list may come to. -/
inductive Reaches : List Node → Node → Prop
  | here {n : Node} {ns : List Node} : n ∈ ns → Reaches ns n
  | branch {n t : Node} {ns ms : List Node} :
      n ∈ ns → ms ∈ n.branches → Reaches ms t → Reaches ns t
  | finallyBlock {n t : Node} {ns : List Node} :
      n ∈ ns → n.kind = .tryStmt → Reaches (n.statementsIn .finallyBlock) t → Reaches ns t

/-- No finally block that can be come to has a way out of the scope with the resource open. -/
def FinallyStays (releases : List String) (x : String) (ns : List Node) : Prop :=
  ∀ t, Reaches ns t → t.kind = .tryStmt →
    ¬ Runs releases x (t.statementsIn .finallyBlock) .exitsOpen

variable {releases : List String} {x : String}

theorem runs_nil_iff {e : Ending} : Runs releases x [] e ↔ e = .fallsThrough := by
  constructor
  · rintro ⟨⟩
    rfl
  · rintro rfl
    exact .done

theorem runs_cons_iff {n : Node} {ns : List Node} {e : Ending} :
    Runs releases x (n :: ns) e ↔
      (Ends releases x n e ∧ e ≠ .fallsThrough) ∨
      (Ends releases x n .fallsThrough ∧ Runs releases x ns e) := by
  constructor
  · intro h
    cases h with
    | stops hn he => exact .inl ⟨hn, he⟩
    | goesOn hn hns => exact .inr ⟨hn, hns⟩
  · intro h
    rcases h with ⟨hn, he⟩ | ⟨hn, hns⟩
    · exact .stops hn he
    · exact .goesOn hn hns

theorem ends_simple_iff {n : Node} (hn : n.isControl = false) {e : Ending} :
    Ends releases x n e ↔ e = simpleEnding releases x n := by
  constructor
  · intro h
    cases h with
    | simple _ => rfl
    | branch _ hns _ => simp [Node.isControl_of_mem_branches hns] at hn
    | triedReleased _ hns _ => simp [Node.isControl_of_mem_branches hns] at hn
    | triedThrough _ hns _ _ => simp [Node.isControl_of_mem_branches hns] at hn
    | triedLeaving _ hns _ _ => simp [Node.isControl_of_mem_branches hns] at hn
  · rintro rfl
    exact .simple hn

theorem ends_branch_iff {n : Node} (hn : n.isControl = true) (hk : n.kind ≠ .tryStmt)
    {e : Ending} : Ends releases x n e ↔ ∃ ns ∈ n.branches, Runs releases x ns e := by
  constructor
  · intro h
    cases h with
    | simple hs => simp [hs] at hn
    | branch _ hns hrun => exact ⟨_, hns, hrun⟩
    | triedReleased ht _ _ => exact absurd ht hk
    | triedThrough ht _ _ _ => exact absurd ht hk
    | triedLeaving ht _ _ _ => exact absurd ht hk
  · rintro ⟨ns, hns, hrun⟩
    exact .branch hk hns hrun

/-- The endings that a finally block with endings `q` makes of endings `p`. -/
def afterFinally (q p : Ending → Prop) (e : Ending) : Prop :=
  (p .released ∧ e = .released) ∨ (p .fallsThrough ∧ q e) ∨
    (p .exitsOpen ∧ ∃ e', q e' ∧ e = e'.leaving)

/-! The endings after a finally block, one by one. -/

section AfterFinally

variable {q p : Ending → Prop}

theorem afterFinally_released :
    afterFinally q p .released ↔
      p .released ∨ (p .fallsThrough ∧ q .released) ∨ (p .exitsOpen ∧ q .released) := by
  have hleaving : ∀ e' : Ending, .released = e'.leaving ↔ e' = .released := by
    intro e'
    cases e' <;> decide
  simp [afterFinally, hleaving]

theorem afterFinally_exitsOpen :
    afterFinally q p .exitsOpen ↔
      (p .fallsThrough ∧ q .exitsOpen) ∨ (p .exitsOpen ∧ (q .exitsOpen ∨ q .fallsThrough)) := by
  have hleaving : ∀ e' : Ending,
      .exitsOpen = e'.leaving ↔ e' = .exitsOpen ∨ e' = .fallsThrough := by
    intro e'
    cases e' <;> decide
  simp [afterFinally, hleaving, and_or_left, exists_or]

theorem afterFinally_fallsThrough :
    afterFinally q p .fallsThrough ↔ p .fallsThrough ∧ q .fallsThrough := by
  have hleaving : ∀ e' : Ending, ¬ .fallsThrough = e'.leaving := by
    intro e'
    cases e' <;> decide
  simp [afterFinally, hleaving]

end AfterFinally

theorem ends_try_iff {n : Node} (hk : n.kind = .tryStmt) {e : Ending} :
    Ends releases x n e ↔
      afterFinally (Runs releases x (n.statementsIn .finallyBlock))
        (fun e' => ∃ ns ∈ n.branches, Runs releases x ns e') e := by
  constructor
  · intro h
    cases h with
    | simple hs => simp [Node.isControl_of_try hk] at hs
    | branch hne _ _ => exact absurd hk hne
    | triedReleased _ hns hrun => exact .inl ⟨⟨_, hns, hrun⟩, rfl⟩
    | triedThrough _ hns hrun hfin => exact .inr (.inl ⟨⟨_, hns, hrun⟩, hfin⟩)
    | triedLeaving _ hns hrun hfin => exact .inr (.inr ⟨⟨_, hns, hrun⟩, _, hfin, rfl⟩)
  · intro h
    rcases h with ⟨⟨ns, hns, hrun⟩, rfl⟩ | ⟨⟨ns, hns, hrun⟩, hfin⟩ |
      ⟨⟨ns, hns, hrun⟩, e', hfin, rfl⟩
    · exact .triedReleased hk hns hrun
    · exact .triedThrough hk hns hrun hfin
    · exact .triedLeaving hk hns hrun hfin

/-! ## What a way may come to -/

theorem Reaches.mono {ns ms : List Node} {t : Node} (h : Reaches ns t) (hsub : ns ⊆ ms) :
    Reaches ms t := by
  cases h with
  | here hn => exact .here (hsub hn)
  | branch hn hb ht => exact .branch (hsub hn) hb ht
  | finallyBlock hn hk ht => exact .finallyBlock (hsub hn) hk ht

/-- Whoever comes to a try statement may come to what is in its finally block. -/
theorem Reaches.into_finally {ns : List Node} {t t' : Node} (h : Reaches ns t)
    (hk : t.kind = .tryStmt) (ht : Reaches (t.statementsIn .finallyBlock) t') : Reaches ns t' := by
  induction h with
  | here hn => exact .finallyBlock hn hk ht
  | branch hn hb _ ih => exact .branch hn hb (ih hk ht)
  | finallyBlock hn hkn _ ih => exact .finallyBlock hn hkn (ih hk ht)

theorem Reaches.exists_mem_preorder {ns : List Node} {t : Node} (h : Reaches ns t) :
    ∃ n ∈ ns, t ∈ n.preorder Walk.everything := by
  induction h with
  | here hn => exact ⟨_, hn, Node.mem_preorder_self _⟩
  | branch hn hb _ ih =>
    obtain ⟨m, hm, ht⟩ := ih
    exact ⟨_, hn, (Node.holds_of_mem_branches hb).preorder_subset m hm ht⟩
  | @finallyBlock n _ _ hn _ _ ih =>
    obtain ⟨m, hm, ht⟩ := ih
    exact ⟨_, hn, (Node.Holds.child n .finallyBlock).preorder_subset m hm ht⟩

theorem FinallyStays.mono {ns ms : List Node} (h : FinallyStays releases x ns)
    (hsub : ∀ t, Reaches ms t → Reaches ns t) : FinallyStays releases x ms :=
  fun t ht hk => h t (hsub t ht) hk

theorem Reaches.size_le {ns : List Node} {t : Node} (h : Reaches ns t) :
    t.size ≤ Node.sizeSum ns := by
  have hle : ∀ {n : Node} {ns : List Node}, n ∈ ns → n.size ≤ Node.sizeSum ns := by
    intro n ns hn
    exact Node.sizeSum_le_of_sublist (List.singleton_sublist.2 hn)
  induction h with
  | here hn => exact hle hn
  | @branch n t ns ms hn hb _ ih =>
    calc t.size
        ≤ Node.sizeSum ms := ih
      _ ≤ n.size := Nat.le_of_lt (Node.holds_of_mem_branches hb).sizeSum_lt
      _ ≤ Node.sizeSum ns := hle hn
  | @finallyBlock n t ns hn _ _ ih =>
    calc t.size
        ≤ Node.sizeSum (n.statementsIn .finallyBlock) := ih
      _ ≤ n.size := Nat.le_of_lt (n.sizeSum_statementsIn_lt .finallyBlock)
      _ ≤ Node.sizeSum ns := hle hn

end Rules.ResourceLeak

end TreeLint
