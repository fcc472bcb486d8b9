import TreeLint.Proofs.Reach
import TreeLint.Proofs.RuleFindings

/-!
# Which locals are unused

A local of a block is unused if no later statement of the block reads its name. Later is a matter of
places: a block may hold equal statements, and what is read after the first of them may not be read
after the last.

**Reads.** A search for reads of `x` goes down from a statement, and what it comes to is a relation
(`Node.Searches`): through a plain assignment it goes on into the first value, and into the first
target unless that is `x` itself; through any other node it goes on into every child. A statement reads
`x` iff the search comes to an occurrence of `x` (`reads_iff`).

**Theorem (`unusedBindings_of_isComplete`).** In a tree that is walked to its end, a local at some
place in a block has a finding iff it is unused there, and then it has exactly one.
-/

namespace TreeLint

/-! ## Reads -/

namespace Node

/-- The search for reads of `x` in the first node comes to the second. -/
inductive Searches (x : String) : Node → Node → Prop
  | here (n : Node) : Searches x n n
  | child {n c m : Node} : n.isPlainAssignment = false → c ∈ n.subnodes → Searches x c m →
      Searches x n m
  | value {n c m : Node} : n.isPlainAssignment = true → n.child? .value = some c →
      Searches x c m → Searches x n m
  | target {n c m : Node} : n.isPlainAssignment = true → n.child? .target = some c →
      c.isIdentifier x = false → Searches x c m → Searches x n m

variable {x : String} {n m : Node}

theorem mem_readPlaces_of_plain (h : n.isPlainAssignment = true) {c : Node} :
    c ∈ n.readPlaces x ↔ n.child? .value = some c ∨
      n.child? .target = some c ∧ c.isIdentifier x = false := by
  rw [readPlaces, if_pos h, List.mem_append, List.mem_filter, Option.mem_toList, Option.mem_toList,
    Bool.not_eq_true', or_comm]

theorem mem_readPlaces_of_not_plain (h : n.isPlainAssignment = false) {c : Node} :
    c ∈ n.readPlaces x ↔ c ∈ n.subnodes := by
  rw [readPlaces, if_neg (by simp [h])]

/-- One step of the search: it stays, or goes on from one of the places where reads can hide. -/
theorem searches_iff : Searches x n m ↔ n = m ∨ ∃ c ∈ n.readPlaces x, Searches x c m := by
  constructor
  · intro h
    cases h with
    | here => exact .inl rfl
    | child hplain hc h => exact .inr ⟨_, (mem_readPlaces_of_not_plain hplain).2 hc, h⟩
    | value hplain hc h => exact .inr ⟨_, (mem_readPlaces_of_plain hplain).2 (.inl hc), h⟩
    | target hplain hc hx h => exact .inr ⟨_, (mem_readPlaces_of_plain hplain).2 (.inr ⟨hc, hx⟩), h⟩
  · rintro (rfl | ⟨c, hc, h⟩)
    · exact .here n
    · cases hplain : n.isPlainAssignment with
      | false => exact .child hplain ((mem_readPlaces_of_not_plain hplain).1 hc) h
      | true =>
        rcases (mem_readPlaces_of_plain hplain).1 hc with hvalue | ⟨htarget, hx⟩
        · exact .value hplain hvalue h
        · exact .target hplain htarget hx h

/-- The search comes to an occurrence of `x`. -/
def Finds (x : String) (n : Node) : Prop := ∃ m, Searches x n m ∧ m.isIdentifier x = true

theorem finds_iff :
    Finds x n ↔ n.isIdentifier x = true ∨ ∃ c ∈ n.readPlaces x, Finds x c := by
  constructor
  · rintro ⟨m, hm, hx⟩
    rcases searches_iff.1 hm with rfl | ⟨c, hc, hcm⟩
    · exact .inl hx
    · exact .inr ⟨c, hc, m, hcm, hx⟩
  · rintro (hx | ⟨c, hc, m, hm, hx⟩)
    · exact ⟨n, .here n, hx⟩
    · exact ⟨m, searches_iff.2 (.inr ⟨c, hc, hm⟩), hx⟩

/-- The pending nodes of the search are those from which it may still come to `x`. -/
theorem anyReads_iff (x : String) (ns : List Node) :
    anyReads x ns = true ↔ ∃ n ∈ ns, Finds x n := by
  fun_induction anyReads x ns with
  | case1 => simp
  | case2 n rest ih =>
    rw [Bool.or_eq_true, ih, List.exists_mem_cons_iff, finds_iff, or_assoc]
    refine or_congr_right ?_
    simp only [List.mem_append, or_and_right, exists_or]

theorem reads_iff (x : String) (n : Node) : n.reads x = true ↔ Finds x n := by
  rw [reads, anyReads_iff]
  simp

end Node

/-! ## Later statements -/

namespace Visit

variable {v : Visit}

/-- The visit of the child at position `i`. -/
def childAt (v : Visit) (i : Nat) (c : Node) : Visit := ⟨v.path ++ [i], v.node :: v.ancestors, c⟩

theorem index_childAt (v : Visit) (i : Nat) (c : Node) : (v.childAt i c).index = i := by
  rw [index, childAt, List.getLastD_concat]

theorem mem_laterStatements_childAt_iff (u : SourceUnit) {i : Nat} {n m : Node}
    (h : v.node.children[i]? = some (.statement, n)) :
    m ∈ ((v.childAt i n).site u).laterStatements ↔
      ∃ j, i < j ∧ v.node.children[j]? = some (.statement, m) := by
  have hrole : ((v.childAt i n).site u).role? = some .statement := by
    show (v.node.children[(v.childAt i n).index]?).map (·.1) = some .statement
    rw [index_childAt, h]
    rfl
  have hlater : ((v.childAt i n).site u).later = v.node.children.drop (i + 1) := by
    show (if _ then v.node.children.drop ((v.childAt i n).index + 1) else []) = _
    rw [index_childAt, hrole, if_pos (by decide)]
  rw [Site.laterStatements, hlater, List.mem_map]
  constructor
  · rintro ⟨⟨r, m⟩, hm, rfl⟩
    obtain ⟨hdrop, hr⟩ := List.mem_filter.1 hm
    obtain rfl : r = .statement := by simpa using hr
    obtain ⟨k, hk⟩ := List.mem_iff_getElem?.1 hdrop
    rw [List.getElem?_drop] at hk
    exact ⟨i + 1 + k, by omega, hk⟩
  · rintro ⟨j, hij, hj⟩
    refine ⟨(.statement, m), List.mem_filter.2 ⟨?_, rfl⟩, rfl⟩
    refine List.mem_iff_getElem?.2 ⟨j - (i + 1), ?_⟩
    rw [List.getElem?_drop]
    rwa [Nat.add_sub_of_le hij]

end Visit

/-! ## The report at a local -/

namespace Rules.UnusedBinding

/-- The finding at an unused local. -/
def unusedFinding (s : Site) (n : Node) : Finding :=
  let verb := if (n.child? .value).isSome then "assigned" else "declared"
  (s.finding rule n ("Local '" ++ n.nameText ++ "' is " ++ verb ++ " but never read")).withHint
    "Remove the binding or prefix it with '_'"

/-- The local `n` at position `i` of a block is unused: it has a name that is not marked by an
underscore, it is not bound to a call or construction that the settings exempt, and no statement at
a later position of the block reads the name. -/
structure IsUnused (ignoreSideEffects : Bool) (block : Node) (i : Nat) (n : Node) : Prop where
  named : n.nameText ≠ ""
  unmarked : n.nameText.toList.head? ≠ some '_'
  counted : ignoreSideEffects = true →
    ∀ value, n.child? .value = some value → value.kind ≠ .newExpr ∧ value.kind ≠ .call
  unread : ∀ j m, i < j → block.children[j]? = some (.statement, m) → ¬Node.Finds n.nameText m

theorem hasSideEffect_iff {n : Node} :
    hasSideEffect n = true ↔
      ∃ value, n.child? .value = some value ∧ (value.kind = .newExpr ∨ value.kind = .call) := by
  simp [hasSideEffect, Option.any_eq_true]

/-- What the detector asks, in the order in which it asks. -/
theorem isUnused_iff {b : Visit} {i : Nat} {n : Node}
    (hn : b.node.children[i]? = some (.statement, n)) (ignore : Bool) (u : SourceUnit) :
    IsUnused ignore b.node i n ↔
      isExemptName n.nameText = false ∧ (ignore && hasSideEffect n) = false ∧
        ((b.childAt i n).site u).laterStatements.any (·.reads n.nameText) = false := by
  have hname : isExemptName n.nameText = false ↔
      n.nameText ≠ "" ∧ n.nameText.toList.head? ≠ some '_' := by
    simp [isExemptName]
  have heffect : (ignore && hasSideEffect n) = false ↔
      (ignore = true →
        ∀ value, n.child? .value = some value → value.kind ≠ .newExpr ∧ value.kind ≠ .call) := by
    rw [Bool.and_eq_false_imp, ← Bool.not_eq_true, hasSideEffect_iff]
    simp only [not_exists, not_and, not_or]
  have hread : ((b.childAt i n).site u).laterStatements.any (·.reads n.nameText) = false ↔
      ∀ j m, i < j → b.node.children[j]? = some (.statement, m) → ¬Node.Finds n.nameText m := by
    rw [List.any_eq_false]
    constructor
    · intro h j m hij hj hfinds
      exact h m ((Visit.mem_laterStatements_childAt_iff u hn).2 ⟨j, hij, hj⟩)
        ((Node.reads_iff _ m).2 hfinds)
    · intro h m hm hreads
      obtain ⟨j, hij, hj⟩ := (Visit.mem_laterStatements_childAt_iff u hn).1 hm
      exact h j m hij hj ((Node.reads_iff _ m).1 hreads)
  rw [hname, heffect, hread]
  constructor
  · rintro ⟨hnamed, hunmarked, hcounted, hunread⟩
    exact ⟨⟨hnamed, hunmarked⟩, hcounted, hunread⟩
  · rintro ⟨⟨hnamed, hunmarked⟩, hcounted, hunread⟩
    exact ⟨hnamed, hunmarked, hcounted, hunread⟩

section Block

variable {b : Visit} {i : Nat} {n : Node} {ignore : Bool}

theorem report_of_isUnused (hblock : b.node.kind = .block)
    (hn : b.node.children[i]? = some (.statement, n)) (u : SourceUnit)
    (h : IsUnused ignore b.node i n) :
    report ignore ((b.childAt i n).site u) n = [unusedFinding ((b.childAt i n).site u) n] := by
  obtain ⟨hname, heffect, hread⟩ := (isUnused_iff hn ignore u).1 h
  have hparent : ((b.childAt i n).site u).parent?.any (·.kind == .block) = true := by
    show (b.node.kind == .block) = true
    rw [hblock]
    rfl
  rw [report, hname, heffect, hparent, hread]
  rfl

theorem report_of_not_isUnused (hn : b.node.children[i]? = some (.statement, n)) (u : SourceUnit)
    (h : ¬IsUnused ignore b.node i n) : report ignore ((b.childAt i n).site u) n = [] := by
  rw [isUnused_iff hn ignore u] at h
  unfold report
  by_cases hname : isExemptName n.nameText
  · simp [hname]
  by_cases heffect : (ignore && hasSideEffect n) = true
  · simp [heffect]
  by_cases hread : ((b.childAt i n).site u).laterStatements.any (·.reads n.nameText) = true
  · simp [hread]
  · simp_all

end Block

end Rules.UnusedBinding

/-! ## The findings of the rule -/

namespace Engine

open Rules.UnusedBinding

/-- **Unused is decided by position.** In a tree that is walked to its end, the findings of the rule
are those at its visits, one after the other. At the visit of a local that is a statement of a block
there is one finding if the rule is on and the local is unused at its position, and else there is
none. A statement reads a name iff the search in it comes to an occurrence of the name. -/
theorem unusedBindings_of_isComplete (s : Settings) {e : Engine}
    (he : Registry.ofSettings s = .ok e.registry) {u : SourceUnit} {root : Node}
    (hu : u.tree = .ok root) {t : Interrupts} (ht : (e.analyze u t).isComplete) :
    (e.analyze u t).findings.filter (·.ruleId == rule.id) =
      root.visits.flatMap (e.ruleFindingsAt rule.id u) ∧
    (∀ b ∈ root.visits, b.node.kind = .block → ∀ i n,
      b.node.children[i]? = some (.statement, n) → n.kind = .localVar →
        let v := b.childAt i n
        let unused := IsUnused s.rules.ignoresSideEffects b.node i n
        v ∈ root.visits ∧
        (rule.id ∉ s.analysis.disabledRules ∧ unused →
          e.ruleFindingsAt rule.id u v = [e.finalize u (unusedFinding (v.site u) n)]) ∧
        (¬(rule.id ∉ s.analysis.disabledRules ∧ unused) → e.ruleFindingsAt rule.id u v = [])) ∧
    ∀ (x : String) (n : Node), n.reads x = true ↔
      ∃ m, Node.Searches x n m ∧ m.isIdentifier x = true := by
  refine ⟨filter_findings_of_isComplete hu ht rule.id, fun b hb hblock i n hn hlocal => ?_,
    Node.reads_iff⟩
  intro v unused
  have hfound : e.ruleFindingsAt rule.id u v =
      if s.analysis.disabledRules.contains rule.id then []
      else (report s.rules.ignoresSideEffects (v.site u) n).map (e.finalize u) := by
    have hkind : ([.localVar] : List Kind).contains v.node.kind = true := by
      show ([.localVar] : List Kind).contains n.kind = true
      rw [hlocal]
      rfl
    have hmem : ∀ c, .reporting rule [.localVar] (report s.rules.ignoresSideEffects) ∈
        Registry.detectorsWith s.rules c := by
      simp [Registry.detectorsWith, detector]
    rw [ruleFindingsAt_eq he hmem (by decide), if_pos hkind]
    rfl
  have hv : v ∈ root.visits :=
    Visit.mem_visits_of_mem_children hb (Visit.mem_children.2 ⟨i, .statement, n, hn, rfl⟩)
  refine ⟨hv, ?_, ?_⟩
  · rintro ⟨hon, hunused⟩
    rw [hfound, if_neg (by simpa using hon), report_of_isUnused hblock hn u hunused]
    rfl
  · intro hnot
    rw [hfound]
    by_cases hoff : s.analysis.disabledRules.contains rule.id
    · exact if_pos hoff
    · have hused : ¬unused := fun hunused => hnot ⟨by simpa using hoff, hunused⟩
      rw [if_neg hoff, report_of_not_isUnused hn u hused]
      rfl

/-- A declaration of `x`. -/
def declareX : Node :=
  ({ kind := .localVar, span := ⟨1, 1, 1, 9⟩, name := some "x" } : Node).push .value
    (.number "1" ⟨1, 9, 1, 9⟩)

/-- A plain assignment. -/
def assign (target value : Node) : Node :=
  (({ kind := .assignment, span := ⟨2, 1, 2, 6⟩, value := some "=" } : Node).push .target
    target).push .value value

/-- An assignment to `x`. -/
def overwriteX : Node := assign (.ident "x" ⟨2, 1, 2, 2⟩) (.number "2" ⟨2, 5, 2, 6⟩)

/-- The block `x := 1; y = x; x := 1; x = 2`, in which the first statement and the third are equal. -/
def repeatTree : Node :=
  (Node.leaf .block ⟨1, 1, 2, 6⟩).pushAll .statement
    [declareX, assign (.ident "y" ⟨2, 1, 2, 2⟩) (.ident "x" ⟨2, 5, 2, 6⟩), declareX, overwriteX]

def repeatUnit : SourceUnit := .parsed "repeat.js" "let x = 1\ny = x" repeatTree

/-- The first declaration is read, and the equal one after the read is not: the assignment that
follows it only writes. -/
theorem unusedBindings_of_isComplete_repeated :
    let s : Settings := { rules := Registry.plainRules }
    let e : Engine := ⟨.plain, true⟩
    let b : Visit := ⟨[], [], repeatTree⟩
    Registry.ofSettings s = .ok e.registry ∧ repeatUnit.tree = .ok repeatTree ∧
      (e.analyze repeatUnit .never).isComplete ∧ b ∈ repeatTree.visits ∧
      b.node.kind = .block ∧ b.node.children[0]? = some (.statement, declareX) ∧
      b.node.children[2]? = some (.statement, declareX) ∧ declareX.kind = .localVar ∧
      e.ruleFindingsAt rule.id repeatUnit (b.childAt 0 declareX) = [] ∧
      (e.ruleFindingsAt rule.id repeatUnit (b.childAt 2 declareX)).map (·.message) =
        ["Local 'x' is assigned but never read"] := by
  intro s e b
  have hcomplete : (e.analyze repeatUnit .never).isComplete := by
    rw [e.analyze_never (u := repeatUnit) rfl]
    rfl
  have hb : b ∈ repeatTree.visits := Node.mem_visits_iff.2 ⟨rfl, rfl⟩
  have hread : ¬IsUnused s.rules.ignoresSideEffects b.node 0 declareX := by
    intro h
    exact h.unread 1 _ (by decide) rfl
      ⟨.ident "x" ⟨2, 5, 2, 6⟩, .value (by decide) rfl (.here _), by decide⟩
  have hunread : IsUnused s.rules.ignoresSideEffects b.node 2 declareX := by
    refine ⟨by decide, by decide, fun h => absurd h (by decide), fun j m hj hm hfinds => ?_⟩
    have hlast : j = 3 := by
      have hlt : j < 4 := (List.getElem?_eq_some_iff.1 hm).1
      omega
    subst hlast
    obtain rfl : overwriteX = m := (Prod.mk.inj (Option.some.inj hm)).2
    have hnot : overwriteX.reads "x" = false := by decide +kernel
    have hread : overwriteX.reads "x" = true := (Node.reads_iff _ _).2 hfinds
    rw [hnot] at hread
    cases hread
  obtain ⟨-, hlocals, -⟩ := unusedBindings_of_isComplete s (e := e) (u := repeatUnit) rfl rfl
    hcomplete
  obtain ⟨-, -, hnone⟩ := hlocals b hb rfl 0 declareX rfl rfl
  obtain ⟨-, hone, -⟩ := hlocals b hb rfl 2 declareX rfl rfl
  have hfirst := hnone fun h => hread h.2
  have hthird := hone ⟨List.not_mem_nil, hunread⟩
  refine ⟨rfl, rfl, hcomplete, hb, rfl, rfl, rfl, rfl, hfirst, ?_⟩
  rw [hthird]
  decide +kernel

end Engine

end TreeLint
