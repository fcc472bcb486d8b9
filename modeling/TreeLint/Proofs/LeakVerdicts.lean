import Mathlib.Logic.Basic
import TreeLint.Proofs.ResourceWays

/-!
# Verdicts on resources against the ways through a program

The rule on resources gives each list of statements one of three verdicts.

**Theorem (`verdict_exact`).** If no finally block that can be come to has a way out of the scope
with the resource open, then the verdict is *leaks* exactly if some way leaves the scope with the
resource open, *released* exactly if every way releases it, and *still open* otherwise.

The proof is one induction over the size of the statements. `Flow.Exact` says that a verdict is
right for a set of endings, and the three manners to put statements together, one after the other,
one of several, and with a finally block, each keep it.

The condition on finally blocks cannot be dropped. The verdict on a try statement asks of its
finally block no more than whether it releases; if it leaks, the verdict is that of the body and the
handlers alone, and a way that enters the block with the resource open is lost.
-/

namespace TreeLint.Rules.ResourceLeak

variable {releases : List String} {x : String}

/-! ## Verdicts -/

/-- The verdict on a list of statements. -/
def verdict (releases : List String) (x : String) (ns : List Node) : Flow :=
  scan releases x (ns.map fun n => (.statement, n))

/-- The statements among children. -/
def statementsAmong (cs : List (Role × Node)) : List Node :=
  (cs.filter (·.1 == .statement)).map (·.2)

theorem verdict_nil : verdict releases x [] = .stillOpen := by
  rw [verdict, List.map_nil, scan]

theorem verdict_cons (n : Node) (ns : List Node) :
    verdict releases x (n :: ns) =
      if flow releases x false n = .stillOpen then verdict releases x ns
      else flow releases x false n := by
  rw [verdict, List.map_cons, scan, if_pos (beq_self_eq_true _)]
  cases flow releases x false n <;> rfl

theorem verdict_singleton (n : Node) : verdict releases x [n] = flow releases x false n := by
  rw [verdict_cons, verdict_nil]
  split
  · next h => exact h.symm
  · rfl

theorem scan_eq_verdict (cs : List (Role × Node)) :
    scan releases x cs = verdict releases x (statementsAmong cs) := by
  induction cs with
  | nil => rw [scan, statementsAmong, List.filter_nil, List.map_nil, verdict_nil]
  | cons c cs ih =>
    obtain ⟨r, n⟩ := c
    rw [scan, statementsAmong, List.filter_cons]
    by_cases hr : (r == Role.statement) = true
    · rw [if_pos hr, if_pos hr, List.map_cons, verdict_cons, ih]
      cases flow releases x false n <;> rfl
    · rw [if_neg hr, if_neg hr, ih]
      rfl

theorem flow_body (n : Node) : flow releases x true n = verdict releases x n.statements := by
  obtain ⟨h, cs⟩ := n
  by_cases hp : h.kind = .program
  · simp only [flow, hp, Node.statements]
    exact scan_eq_verdict cs
  · have hflow : flow releases x true ⟨h, cs⟩ = flow releases x false ⟨h, cs⟩ := by
      simp [flow, hp]
    by_cases hb : h.kind = .block
    · simp only [flow, hb, Node.statements]
      exact scan_eq_verdict cs
    · have hstatements : Node.statements ⟨h, cs⟩ = [⟨h, cs⟩] := by
        unfold Node.statements
        split <;> simp_all
      rw [hflow, hstatements, verdict_singleton]

theorem bodyFlow_eq_verdict (n : Node) (role : Role) :
    bodyFlow releases x role n.children = verdict releases x (n.statementsIn role) := by
  obtain ⟨h, cs⟩ := n
  show bodyFlow releases x role cs = _
  rw [Node.statementsIn, Node.child?]
  induction cs with
  | nil => rw [bodyFlow, List.find?_nil, Option.map_none, Option.elim_none, verdict_nil]
  | cons c cs ih =>
    obtain ⟨r, n⟩ := c
    rw [bodyFlow, List.find?_cons]
    by_cases hr : (r == role) = true
    · simp only [hr]
      exact flow_body n
    · simp only [hr]
      exact ih

theorem handlerFlows_eq_verdicts (n : Node) :
    handlerFlows releases x n.children =
      (n.childrenIn .catchClause).map fun c => verdict releases x (c.statementsIn .body) := by
  obtain ⟨h, cs⟩ := n
  show handlerFlows releases x cs = ((cs.filter (·.1 == .catchClause)).map (·.2)).map _
  induction cs with
  | nil => rw [handlerFlows, List.filter_nil, List.map_nil, List.map_nil]
  | cons c cs ih =>
    obtain ⟨r, h, hs⟩ := c
    rw [handlerFlows, List.filter_cons]
    by_cases hr : (r == Role.catchClause) = true
    · rw [if_pos hr, if_pos hr, List.map_cons, List.map_cons, ← ih, ← bodyFlow_eq_verdict]
    · rw [if_neg hr, if_neg hr, ih]

theorem caseFlows_eq_verdicts (n : Node) :
    caseFlows releases x n.children =
      (n.childrenIn .caseLabel).map fun c => verdict releases x (c.childrenIn .statement) := by
  obtain ⟨h, cs⟩ := n
  show caseFlows releases x cs = ((cs.filter (·.1 == .caseLabel)).map (·.2)).map _
  induction cs with
  | nil => rw [caseFlows, List.filter_nil, List.map_nil, List.map_nil]
  | cons c cs ih =>
    obtain ⟨r, h, ss⟩ := c
    rw [caseFlows, List.filter_cons]
    by_cases hr : (r == Role.caseLabel) = true
    · rw [if_pos hr, if_pos hr, List.map_cons, List.map_cons, ← ih, scan_eq_verdict]
      rfl
    · rw [if_neg hr, if_neg hr, ih]

/-- The verdict on a statement from those on the lists of statements in it. -/
theorem flow_eq (n : Node) :
    flow releases x false n =
      match n.kind with
      | .block => verdict releases x (n.childrenIn .statement)
      | .synchronized | .doWhile => verdict releases x (n.statementsIn .body)
      | .ifStmt =>
        (verdict releases x (n.statementsIn .thenBranch)).branch
          (verdict releases x (n.statementsIn .elseBranch))
      | .forLoop | .forEach | .whileLoop => (verdict releases x (n.statementsIn .body)).optional
      | .tryStmt =>
        if verdict releases x (n.statementsIn .finallyBlock) = .released then .released
        else .ways (verdict releases x (n.statementsIn .body) ::
          (n.childrenIn .catchClause).map fun c => verdict releases x (c.statementsIn .body))
      | .switchStmt =>
        if ((n.childrenIn .caseLabel).map fun c =>
          verdict releases x (c.childrenIn .statement)).contains .leaks then .leaks else .stillOpen
      | kind =>
        if settlesWithin releases x n then .released
        else if kind = .returnStmt ∨ kind = .throwStmt then .leaks
        else .stillOpen := by
  have hscan : scan releases x n.children = verdict releases x (n.childrenIn .statement) :=
    scan_eq_verdict n.children
  simp only [← hscan, ← handlerFlows_eq_verdicts, ← caseFlows_eq_verdicts]
  simp only [← bodyFlow_eq_verdict]
  obtain ⟨h, cs⟩ := n
  cases hk : h.kind <;> simp [flow, hk]

namespace Flow

theorem branch_eq_ways (f g : Flow) : f.branch g = ways [f, g] := by
  cases f <;> cases g <;> rfl

theorem optional_eq_ways (f : Flow) : f.optional = ways [f, .stillOpen] := by
  cases f <;> rfl

theorem ways_singleton (f : Flow) : ways [f] = f := by
  cases f <;> rfl

theorem ways_eq_leaks_iff {fs : List Flow} : ways fs = .leaks ↔ .leaks ∈ fs := by
  unfold ways
  by_cases h : .leaks ∈ fs
  · simp [h]
  · simp only [List.contains_iff_mem, h, if_false, iff_false]
    split <;> simp

theorem ways_eq_released_iff {fs : List Flow} : ways fs = .released ↔ ∀ f ∈ fs, f = .released := by
  unfold ways
  by_cases h : .leaks ∈ fs
  · simp only [List.contains_iff_mem, h, if_true, reduceCtorEq, false_iff]
    intro hall
    exact absurd (hall _ h) (by decide)
  · simp [h]

theorem ways_eq_stillOpen_iff {fs : List Flow} :
    ways fs = .stillOpen ↔ .leaks ∉ fs ∧ .stillOpen ∈ fs := by
  have hcases : ways fs = .stillOpen ↔ ways fs ≠ .leaks ∧ ways fs ≠ .released := by
    cases ways fs <;> decide
  rw [hcases, Ne, Ne, ways_eq_leaks_iff, ways_eq_released_iff]
  refine and_congr_right fun hleaks => ?_
  constructor
  · intro h
    obtain ⟨f, hf, hne⟩ := by simpa using h
    cases f with
    | released => exact absurd rfl hne
    | leaks => exact absurd hf hleaks
    | stillOpen => exact hf
  · intro hopen hall
    exact absurd (hall _ hopen) (by decide)

/-- With a way on which the resource stays open only a leak decides. -/
theorem ways_append_stillOpen (fs : List Flow) :
    ways (fs ++ [.stillOpen]) = if fs.contains .leaks then .leaks else .stillOpen := by
  simp [ways]

end Flow

/-- The verdict on a statement that runs no other statements. -/
theorem flow_simple {n : Node} (hn : n.isControl = false) :
    flow releases x false n =
      if settlesWithin releases x n then .released
      else if n.kind = .returnStmt ∨ n.kind = .throwStmt then .leaks
      else .stillOpen := by
  rw [flow_eq]
  unfold Node.isControl at hn
  cases hk : n.kind <;> simp_all

/-- The verdict on a control statement: of its branches, unless a finally block releases. -/
theorem flow_control {n : Node} (hn : n.isControl = true) :
    flow releases x false n =
      if n.kind = .tryStmt ∧ verdict releases x (n.statementsIn .finallyBlock) = .released then
        .released
      else .ways (n.branches.map (verdict releases x)) := by
  rw [flow_eq]
  unfold Node.isControl at hn
  cases hk : n.kind <;> simp only [hk, Bool.false_eq_true] at hn <;>
    simp only [Node.branches, hk, reduceCtorEq, false_and, if_false, true_and, List.map_cons,
      List.map_nil, List.map_append, List.map_map, verdict_nil, Flow.branch_eq_ways,
      Flow.optional_eq_ways, Flow.ways_singleton, Flow.ways_append_stillOpen, Function.comp_def]

/-! ## Exactness -/

/-- The verdict is right for a set of endings. -/
def Flow.Exact (p : Ending → Prop) : Flow → Prop
  | .released => p .released ∧ ¬ p .exitsOpen ∧ ¬ p .fallsThrough
  | .leaks => p .exitsOpen
  | .stillOpen => p .fallsThrough ∧ ¬ p .exitsOpen

namespace Flow.Exact

variable {f g : Flow} {p q : Ending → Prop}

theorem congr (h : f.Exact p) (hpq : ∀ e, q e ↔ p e) : f.Exact q := by
  cases f <;> simpa only [Exact, hpq] using h

theorem eq_leaks_iff (h : f.Exact p) : f = .leaks ↔ p .exitsOpen := by
  cases f with
  | released => simp [h.2.1]
  | leaks => simp [show p .exitsOpen from h]
  | stillOpen => simp [h.2]

theorem eq_stillOpen_iff (h : f.Exact p) : f = .stillOpen ↔ p .fallsThrough ∧ ¬ p .exitsOpen := by
  cases f with
  | released => simp [h.2.2]
  | leaks => simp [show p .exitsOpen from h]
  | stillOpen => simp [h.1, h.2]

theorem eq_released_iff (h : f.Exact p) : f = .released ↔ ∀ e, p e ↔ e = .released := by
  cases f with
  | released =>
    simp only [true_iff]
    intro e
    cases e with
    | released => simp [h.1]
    | exitsOpen => simp [h.2.1]
    | fallsThrough => simp [h.2.2]
  | leaks =>
    simp only [reduceCtorEq, false_iff]
    intro hall
    exact absurd ((hall _).1 h) (by decide)
  | stillOpen =>
    simp only [reduceCtorEq, false_iff]
    intro hall
    exact absurd ((hall _).1 h.1) (by decide)

theorem ne_released_iff (h : f.Exact p) : f ≠ .released ↔ ∃ e, p e ∧ e ≠ .released := by
  constructor
  · intro hne
    cases f with
    | released => exact absurd rfl hne
    | leaks => exact ⟨.exitsOpen, h, by decide⟩
    | stillOpen => exact ⟨.fallsThrough, h.1, by decide⟩
  · rintro ⟨e, he, hne⟩ hf
    exact hne ((h.eq_released_iff.1 hf e).1 he)

theorem andThen (hf : f.Exact p) (hg : g.Exact q) :
    (if f = .stillOpen then g else f).Exact fun e =>
      (p e ∧ e ≠ .fallsThrough) ∨ (p .fallsThrough ∧ q e) := by
  cases f with
  | released => simp [Exact, hf.1, hf.2.1, hf.2.2]
  | leaks => exact .inl ⟨hf, by decide⟩
  | stillOpen =>
    obtain ⟨hthrough, hexits⟩ := hf
    rw [if_pos rfl]
    cases g with
    | released => simp [Exact, hthrough, hexits, hg.1, hg.2.1, hg.2.2]
    | leaks => exact .inr ⟨hthrough, hg⟩
    | stillOpen => simp [Exact, hthrough, hexits, hg.1, hg.2]

theorem ways {α : Type} {l : List α} (hl : l ≠ []) {v : α → Flow} {r : α → Ending → Prop}
    (h : ∀ a ∈ l, (v a).Exact (r a)) : (Flow.ways (l.map v)).Exact fun e => ∃ a ∈ l, r a e := by
  cases hw : Flow.ways (l.map v) with
  | released =>
    have hall : ∀ a ∈ l, (Flow.released).Exact (r a) := by
      intro a ha
      rw [← ways_eq_released_iff.1 hw (v a) (List.mem_map_of_mem ha)]
      exact h a ha
    obtain ⟨a, ha⟩ := List.exists_mem_of_ne_nil l hl
    refine ⟨⟨a, ha, (hall a ha).1⟩, ?_, ?_⟩
    · rintro ⟨b, hb, hexits⟩
      exact (hall b hb).2.1 hexits
    · rintro ⟨b, hb, hthrough⟩
      exact (hall b hb).2.2 hthrough
  | leaks =>
    obtain ⟨a, ha, hva⟩ := List.mem_map.1 (ways_eq_leaks_iff.1 hw)
    exact ⟨a, ha, (h a ha).eq_leaks_iff.1 hva⟩
  | stillOpen =>
    obtain ⟨hleaks, hopen⟩ := ways_eq_stillOpen_iff.1 hw
    obtain ⟨a, ha, hva⟩ := List.mem_map.1 hopen
    refine ⟨⟨a, ha, ((h a ha).eq_stillOpen_iff.1 hva).1⟩, ?_⟩
    rintro ⟨b, hb, hexits⟩
    exact hleaks (List.mem_map.2 ⟨b, hb, (h b hb).eq_leaks_iff.2 hexits⟩)

/-- Something, and then a finally block that does not exit. A block that releases settles every way,
and there is one; after a block that does not, each way is what it was or is released. -/
theorem withFinally (hf : f.Exact p) (hg : g.Exact q) (hq : ¬ q .exitsOpen) :
    (if g = .released then .released else f).Exact (afterFinally q p) := by
  cases g with
  | released =>
    obtain ⟨hreleased, -, hthrough⟩ := hg
    rw [if_pos rfl]
    refine ⟨afterFinally_released.2 ?_, ?_, ?_⟩
    · cases f with
      | released => exact .inl hf.1
      | leaks => exact .inr (.inr ⟨hf, hreleased⟩)
      | stillOpen => exact .inr (.inl ⟨hf.1, hreleased⟩)
    · simp [afterFinally_exitsOpen, hq, hthrough]
    · simp [afterFinally_fallsThrough, hthrough]
  | leaks => exact absurd hg hq
  | stillOpen =>
    rw [if_neg (by decide)]
    cases f with
    | released =>
      refine ⟨afterFinally_released.2 (.inl hf.1), ?_, ?_⟩
      · simp [afterFinally_exitsOpen, hf.2.1, hf.2.2]
      · simp [afterFinally_fallsThrough, hf.2.2]
    | leaks => exact afterFinally_exitsOpen.2 (.inr ⟨hf, .inr hg.1⟩)
    | stillOpen =>
      refine ⟨afterFinally_fallsThrough.2 ⟨hf.1, hg.1⟩, ?_⟩
      simp [afterFinally_exitsOpen, hf.2, hq]

end Flow.Exact

/-- The step of the induction: a statement, if the lists of statements in it are done. -/
theorem flow_exact_of {n : Node} (hstays : FinallyStays releases x [n])
    (ih : ∀ ms, Node.Holds n ms → FinallyStays releases x ms →
      (verdict releases x ms).Exact (Runs releases x ms)) :
    (flow releases x false n).Exact (Ends releases x n) := by
  have hmem : n ∈ [n] := List.mem_singleton_self n
  by_cases hn : n.isControl = true
  · have hways : (Flow.ways (n.branches.map (verdict releases x))).Exact
        fun e => ∃ ms ∈ n.branches, Runs releases x ms e :=
      Flow.Exact.ways (Node.branches_ne_nil hn) fun ms hms =>
        ih ms (Node.holds_of_mem_branches hms) (hstays.mono fun t => .branch hmem hms)
    rw [flow_control hn]
    by_cases hk : n.kind = .tryStmt
    · have hfinally := ih _ (.child n .finallyBlock) (hstays.mono fun t => .finallyBlock hmem hk)
      simp only [hk, true_and]
      exact (hways.withFinally hfinally (hstays n (.here hmem) hk)).congr fun e => ends_try_iff hk
    · rw [if_neg fun h => hk h.1]
      exact hways.congr fun e => ends_branch_iff hn hk
  · have hsimple : n.isControl = false := by simpa using hn
    rw [flow_simple hsimple]
    have hends : ∀ e, Ends releases x n e ↔ e = simpleEnding releases x n :=
      fun _ => ends_simple_iff hsimple
    unfold simpleEnding at hends
    by_cases hsettles : settlesWithin releases x n = true
    · simp only [hsettles, if_true] at hends ⊢
      simp [Flow.Exact, hends]
    · by_cases hleaves : n.kind = .returnStmt ∨ n.kind = .throwStmt
      · simp only [hsettles, hleaves, if_true] at hends ⊢
        simp [Flow.Exact, hends]
      · simp only [hsettles, hleaves, if_false] at hends ⊢
        simp [Flow.Exact, hends]

/-- **Verdicts are exact** where no finally block exits. -/
theorem verdict_exact (ns : List Node) (hstays : FinallyStays releases x ns) :
    (verdict releases x ns).Exact (Runs releases x ns) := by
  -- What stands in a statement is smaller than the statement, and so are the statements after it.
  induction hsize : Node.sizeSum ns using Nat.strongRecOn generalizing ns with
  | ind k ih =>
    subst hsize
    cases ns with
    | nil =>
      rw [verdict_nil]
      exact ⟨runs_nil_iff.2 rfl, fun h => by cases runs_nil_iff.1 h⟩
    | cons n ns =>
      have hflow : (flow releases x false n).Exact (Ends releases x n) := by
        refine flow_exact_of (hstays.mono fun t ht => ht.mono (by simp)) fun ms hms hmsStays => ?_
        have hlt : Node.sizeSum ms < n.size := hms.sizeSum_lt
        exact ih _ (Nat.lt_of_lt_of_le hlt (Nat.le_add_right _ _)) ms hmsStays rfl
      have hrest : (verdict releases x ns).Exact (Runs releases x ns) := by
        have hlt : Node.sizeSum ns < Node.sizeSum (n :: ns) := Nat.lt_add_of_pos_left n.size_pos
        exact ih _ hlt ns (hstays.mono fun t ht => ht.mono (List.subset_cons_self n ns)) rfl
      rw [verdict_cons]
      exact (hflow.andThen hrest).congr fun e => runs_cons_iff

/-- The condition on finally blocks can be checked by their verdicts: the verdict on a block is
exact once the blocks inside it are known to stay. -/
theorem finallyStays_iff {ns : List Node} :
    FinallyStays releases x ns ↔ ∀ t, Reaches ns t → t.kind = .tryStmt →
      verdict releases x (t.statementsIn .finallyBlock) ≠ .leaks := by
  constructor
  · intro hstays t ht hk hleaks
    have hinner := hstays.mono fun t' => ht.into_finally hk
    exact hstays t ht hk ((verdict_exact _ hinner).eq_leaks_iff.1 hleaks)
  · intro hverdicts
    induction hsize : Node.sizeSum ns using Nat.strongRecOn generalizing ns with
    | ind k ih =>
      subst hsize
      intro t ht hk hexits
      have hlt : Node.sizeSum (t.statementsIn .finallyBlock) < Node.sizeSum ns :=
        Nat.lt_of_lt_of_le (t.sizeSum_statementsIn_lt .finallyBlock) ht.size_le
      have hinner : FinallyStays releases x (t.statementsIn .finallyBlock) :=
        ih _ hlt (fun t' ht' => hverdicts t' (ht.into_finally hk ht')) rfl
      exact hverdicts t ht hk ((verdict_exact _ hinner).eq_leaks_iff.2 hexits)

/-- It is enough that no verdict on a finally block that stands anywhere in the statements is
*leaks*. -/
theorem finallyStays_of_verdicts {ns : List Node}
    (h : ∀ n ∈ ns, ∀ t ∈ n.preorder Walk.everything, t.kind = .tryStmt →
      verdict releases x (t.statementsIn .finallyBlock) ≠ .leaks) :
    FinallyStays releases x ns := by
  refine finallyStays_iff.2 fun t ht hk => ?_
  obtain ⟨n, hn, hmem⟩ := ht.exists_mem_preorder
  exact h n hn t hmem hk

/-! ## The rule -/

/-- A local acquires a resource that the rule follows: it is a named statement of a block. -/
structure Acquires (c : Setup) (s : Site) (n : Node) (source : String) : Prop where
  value : (n.child? .value).bind c.acquisition? = some source
  block : ∃ p, s.parent? = some p ∧ p.kind = .block
  role : s.role? = some .statement
  name : n.nameText ≠ ""

/-- The finding for a resource that is not released on every way. -/
def leak (s : Site) (n : Node) (source : String) : Finding :=
  let message :=
    "'" ++ n.nameText ++ "' acquired via '" ++ source ++ "' is not released on every exit path"
  (s.finding rule n message).withHint "Use try-with-resources or release it in a finally block"

theorem evaluate_of_acquires {c : Setup} {s : Site} {n : Node} {source : String}
    (h : Acquires c s n source) :
    evaluate c s n =
      if scan c.releases n.nameText s.later = .released then .found []
      else .found [leak s n source] := by
  obtain ⟨hvalue, ⟨p, hp, hblock⟩, hrole, hname⟩ := h
  simp only [evaluate, hvalue, hp, hblock, hrole, hname, beq_self_eq_true, Bool.and_self, if_true,
    beq_iff_eq, if_false]
  cases scan c.releases n.nameText s.later <;> rfl

/-- **The verdict says what the ways do.** Let no finally block that the statements can come to have
a way out of the scope with the resource open. Then the scan says *leaks* if and only if some way
leaves the scope with the resource open, *released* if and only if there are ways of this ending
only, and *still open* in the cases that are left. So the rule reports a resource if and only if on
some way through the statements after it it is not released. -/
theorem scan_exact (releases : List String) (x : String) (cs : List (Role × Node))
    (hstays : FinallyStays releases x (statementsAmong cs)) :
    (scan releases x cs = .leaks ↔ Runs releases x (statementsAmong cs) .exitsOpen) ∧
    (scan releases x cs = .released ↔
      ∀ e, Runs releases x (statementsAmong cs) e ↔ e = .released) ∧
    (scan releases x cs = .stillOpen ↔
      Runs releases x (statementsAmong cs) .fallsThrough ∧
      ¬ Runs releases x (statementsAmong cs) .exitsOpen) ∧
    ∀ (c : Setup) (s : Site) (n : Node) (source : String), Acquires c s n source →
      c.releases = releases → n.nameText = x → s.later = cs →
      (evaluate c s n = .found [] ↔ ∀ e, Runs releases x (statementsAmong cs) e ↔ e = .released) ∧
      (evaluate c s n = .found [leak s n source] ↔
        ∃ e, Runs releases x (statementsAmong cs) e ∧ e ≠ .released) := by
  have hexact := verdict_exact _ hstays
  rw [← scan_eq_verdict] at hexact
  refine ⟨hexact.eq_leaks_iff, hexact.eq_released_iff, hexact.eq_stillOpen_iff, ?_⟩
  rintro c s n source hacquires rfl rfl rfl
  rw [evaluate_of_acquires hacquires, ← hexact.eq_released_iff, ← hexact.ne_released_iff]
  by_cases hreleased : scan c.releases n.nameText s.later = .released
  · simp [hreleased]
  · simp [hreleased]

/-! ## A stream that is read and closed -/

/-- An occurrence of `in`. -/
def stream : Node := .ident "in" ⟨1, 1, 1, 3⟩

/-- The statement `in.<name>()`. -/
def streamCall (name : String) : Node :=
  let call := (Node.callOf name ⟨1, 1, 1, 9⟩).push .receiver stream
  (Node.leaf .exprStmt ⟨1, 1, 1, 9⟩).push .expr call

/-- A block of statements. -/
def blockOf (ns : List Node) : Node := (Node.leaf .block ⟨1, 1, 9, 9⟩).pushAll .statement ns

/-- The statement `return`. -/
def leave : Node := .leaf .returnStmt ⟨1, 1, 1, 6⟩

/-- A statement that returns on one branch. -/
def mayLeave : Node := (Node.leaf .ifStmt ⟨1, 1, 1, 9⟩).push .thenBranch leave

/-- A try statement with one handler. -/
def tryOf (body handler finish : List Node) : Node :=
  (((Node.leaf .tryStmt ⟨1, 1, 9, 9⟩).push .body (blockOf body)).push .catchClause
    ((Node.leaf .catchClause ⟨1, 1, 9, 9⟩).push .body (blockOf handler))).push .finallyBlock
      (blockOf finish)

/-- The statement `in = open()`, as the declaration of a local. -/
def acquire : Node :=
  ({ kind := .localVar, span := ⟨1, 1, 1, 9⟩, name := some "in" } : Node).push .value
    (.callOf "open" ⟨1, 6, 1, 9⟩)

/-- A block that opens a stream and then runs statements. -/
def openedThen (ns : List Node) : Node := blockOf (acquire :: ns)

/-- The site of the local in the block. -/
def openedSite (ns : List Node) : Site := ⟨.parsed "in.js" "" (openedThen ns), [openedThen ns], 0⟩

def streamSetup : Setup := ⟨["open"], [], ["close"]⟩

/-- Reads in a loop and may return on the way; only the handler closes the stream. -/
def readAll : List Node :=
  [tryOf
    [(Node.leaf .whileLoop ⟨1, 1, 9, 9⟩).push .body (blockOf
      [streamCall "read", mayLeave])]
    [streamCall "close"]
    [streamCall "log"],
  streamCall "close"]

/-- Closes the stream in a finally block, after what may go wrong. -/
def readOnce : List Node :=
  [tryOf [streamCall "read", mayLeave] [streamCall "log"] [streamCall "close"], streamCall "log"]

/-- The way that returns out of the loop leaves after the finally block, although the block only
logs. Where the finally block closes the stream, all ways release it. -/
theorem scan_exact_readAll :
    let s := openedSite readAll
    let s' := openedSite readOnce
    FinallyStays ["close"] "in" (statementsAmong s.later) ∧
    Acquires streamSetup s acquire "open" ∧
    scan ["close"] "in" s.later = .leaks ∧
    Runs ["close"] "in" (statementsAmong s.later) .exitsOpen ∧
    evaluate streamSetup s acquire = .found [leak s acquire "open"] ∧
    FinallyStays ["close"] "in" (statementsAmong s'.later) ∧
    Acquires streamSetup s' acquire "open" ∧
    scan ["close"] "in" s'.later = .released ∧
    (∀ e, Runs ["close"] "in" (statementsAmong s'.later) e ↔ e = .released) ∧
    evaluate streamSetup s' acquire = .found [] := by
  intro s s'
  have hstays : FinallyStays ["close"] "in" (statementsAmong s.later) :=
    finallyStays_of_verdicts (by decide +kernel)
  have hacquires : Acquires streamSetup s acquire "open" :=
    ⟨by decide +kernel, ⟨_, rfl, rfl⟩, rfl, by decide⟩
  have hleaks : scan ["close"] "in" s.later = .leaks := by decide +kernel
  have hscan := scan_exact ["close"] "in" s.later hstays
  have hexits := hscan.1.1 hleaks
  have hreport := (hscan.2.2.2 streamSetup s acquire "open" hacquires rfl rfl rfl).2
  have hstays' : FinallyStays ["close"] "in" (statementsAmong s'.later) :=
    finallyStays_of_verdicts (by decide +kernel)
  have hacquires' : Acquires streamSetup s' acquire "open" :=
    ⟨by decide +kernel, ⟨_, rfl, rfl⟩, rfl, by decide⟩
  have hreleased : scan ["close"] "in" s'.later = .released := by decide +kernel
  have hscan' := scan_exact ["close"] "in" s'.later hstays'
  have hways := hscan'.2.1.1 hreleased
  have hsilent := (hscan'.2.2.2 streamSetup s' acquire "open" hacquires' rfl rfl rfl).1
  exact ⟨hstays, hacquires, hleaks, hexits, hreport.2 ⟨.exitsOpen, hexits, by decide⟩, hstays',
    hacquires', hreleased, hways, hsilent.2 hways⟩

/-! ## Finally blocks that leak -/

/-- **A leak in a finally block is not seen.** Let the verdict on the finally block of a try
statement be *leaks*. Then the verdict on the statement is put together from those on its body and
its handlers, as if there were no finally block. But where verdicts on the lists inside are exact,
some way through the statement leaves the scope with the resource open as soon as one of them is not
*released*: by itself, or by coming to the finally block. -/
theorem flow_of_finally_leaks (releases : List String) (x : String) {t : Node}
    (ht : t.kind = .tryStmt) (hleaks : bodyFlow releases x .finallyBlock t.children = .leaks) :
    let fs := bodyFlow releases x .body t.children :: handlerFlows releases x t.children
    (flow releases x false t = .leaks ↔ .leaks ∈ fs) ∧
    (flow releases x false t = .stillOpen ↔ .leaks ∉ fs ∧ .stillOpen ∈ fs) ∧
    (flow releases x false t = .released ↔ ∀ f ∈ fs, f = .released) ∧
    ((∀ ns ∈ t.statementsIn .finallyBlock :: t.branches, FinallyStays releases x ns) →
      (Ends releases x t .exitsOpen ↔ ∃ f ∈ fs, f ≠ .released)) := by
  intro fs
  have hfs : fs = t.branches.map (verdict releases x) := by
    simp only [fs, Node.branches, ht, List.map_cons, List.map_map, bodyFlow_eq_verdict,
      handlerFlows_eq_verdicts, Function.comp_def]
  rw [bodyFlow_eq_verdict] at hleaks
  have hflow : flow releases x false t = .ways fs := by
    rw [flow_control (Node.isControl_of_try ht), hleaks, if_neg (by simp), hfs]
  rw [hflow]
  refine ⟨Flow.ways_eq_leaks_iff, Flow.ways_eq_stillOpen_iff, Flow.ways_eq_released_iff, ?_⟩
  intro hstays
  have hbranch : ∀ ns ∈ t.branches, (verdict releases x ns).Exact (Runs releases x ns) :=
    fun ns hns => verdict_exact ns (hstays ns (List.mem_cons_of_mem _ hns))
  have hmem : ∀ ns ∈ t.branches, verdict releases x ns ∈ fs := by
    intro ns hns
    rw [hfs]
    exact List.mem_map_of_mem hns
  have hexits : Runs releases x (t.statementsIn .finallyBlock) .exitsOpen :=
    (verdict_exact _ (hstays _ List.mem_cons_self)).eq_leaks_iff.1 hleaks
  have hends : Ends releases x t .exitsOpen ↔
      (∃ ns ∈ t.branches, Runs releases x ns .fallsThrough) ∨
      ∃ ns ∈ t.branches, Runs releases x ns .exitsOpen := by
    rw [ends_try_iff ht, afterFinally_exitsOpen]
    simp [hexits]
  rw [hends]
  constructor
  · intro h
    rcases h with ⟨ns, hns, hrun⟩ | ⟨ns, hns, hrun⟩
    · exact ⟨_, hmem ns hns, (hbranch ns hns).ne_released_iff.2 ⟨_, hrun, by decide⟩⟩
    · exact ⟨_, hmem ns hns, (hbranch ns hns).ne_released_iff.2 ⟨_, hrun, by decide⟩⟩
  · rintro ⟨f, hf, hne⟩
    rw [hfs] at hf
    obtain ⟨ns, hns, rfl⟩ := List.mem_map.1 hf
    obtain ⟨e, hrun, he⟩ := (hbranch ns hns).ne_released_iff.1 hne
    cases e with
    | released => exact absurd rfl he
    | exitsOpen => exact .inr ⟨ns, hns, hrun⟩
    | fallsThrough => exact .inl ⟨ns, hns, hrun⟩

/-- Reads in a try statement whose finally block may return. -/
def returnsFinally : Node := tryOf [streamCall "read"] [streamCall "close"] [mayLeave]

theorem flow_of_finally_leaks_read :
    returnsFinally.kind = .tryStmt ∧
    bodyFlow ["close"] "in" .finallyBlock returnsFinally.children = .leaks ∧
    (∀ ns ∈ returnsFinally.statementsIn .finallyBlock :: returnsFinally.branches,
      FinallyStays ["close"] "in" ns) ∧
    flow ["close"] "in" false returnsFinally = .stillOpen ∧
    Ends ["close"] "in" returnsFinally .exitsOpen := by
  have hleaks : bodyFlow ["close"] "in" .finallyBlock returnsFinally.children = .leaks := by
    decide +kernel
  have hverdicts : ∀ ns ∈ returnsFinally.statementsIn .finallyBlock :: returnsFinally.branches,
      ∀ n ∈ ns, ∀ t ∈ n.preorder Walk.everything, t.kind = .tryStmt →
        verdict ["close"] "in" (t.statementsIn .finallyBlock) ≠ .leaks := by
    decide +kernel
  have hstays : ∀ ns ∈ returnsFinally.statementsIn .finallyBlock :: returnsFinally.branches,
      FinallyStays ["close"] "in" ns :=
    fun ns hns => finallyStays_of_verdicts (hverdicts ns hns)
  obtain ⟨-, hopen, -, hends⟩ :=
    flow_of_finally_leaks ["close"] "in" (t := returnsFinally) rfl hleaks
  refine ⟨rfl, hleaks, hstays, hopen.2 (by decide +kernel), (hends hstays).2 ?_⟩
  decide +kernel

/-- The body comes to the finally block with the stream open, and there some way returns. The
verdict on the try statement is not *leaks*, and with the stream closed behind it the rule reports
nothing. -/
theorem finally_leak_lost :
    returnsFinally.kind = .tryStmt ∧
    bodyFlow ["close"] "in" .finallyBlock returnsFinally.children = .leaks ∧
    bodyFlow ["close"] "in" .body returnsFinally.children ≠ .released ∧
    Ends ["close"] "in" returnsFinally .exitsOpen ∧
    flow ["close"] "in" false returnsFinally ≠ .leaks ∧
    evaluate streamSetup (openedSite [returnsFinally, streamCall "close"]) acquire = .found [] := by
  have hread : Ends ["close"] "in" (streamCall "read") .fallsThrough :=
    (ends_simple_iff rfl).2 (by decide +kernel)
  have hreturn : Ends ["close"] "in" leave .exitsOpen :=
    (ends_simple_iff rfl).2 (by decide +kernel)
  have hbody : Runs ["close"] "in" (returnsFinally.statementsIn .body) .fallsThrough :=
    .goesOn hread .done
  have hfinally : Runs ["close"] "in" (returnsFinally.statementsIn .finallyBlock) .exitsOpen :=
    .stops (.branch (by decide) List.mem_cons_self (.stops hreturn (by decide))) (by decide)
  have hends : Ends ["close"] "in" returnsFinally .exitsOpen :=
    .triedThrough rfl List.mem_cons_self hbody hfinally
  exact ⟨rfl, by decide +kernel, by decide +kernel, hends, by decide +kernel, by decide +kernel⟩

end TreeLint.Rules.ResourceLeak
