import Mathlib.Data.ENat.Lattice
import TreeLint.Analysis
import TreeLint.Proofs.Visits

/-!
# The walk of the engine against the recursion

The engine walks a tree with a list of pending nodes and one trail that it cuts back to the depth
of the node whose turn it is. This file proves that the walk is the plain recursion of
`Node.visits`, cut off where an interruption hits.

**Theorem (`walk_eq_take`).** If the first `k` questions are answered with no, and the next one with
yes unless there is no node left to ask about, then the walk gathers exactly what the first `k`
visits give.

The proof is an induction along the walk with the invariant `Aligned`: the ancestors of every
pending node are the end of the trail, and those of a later pending node are the end of those of
an earlier one. Cutting the trail to the depth of a pending node then leaves its ancestors, and
what the visit of that node puts on the trail does not disturb the nodes after it.

The reports follow, on a walk that is never stopped and on a walk that is stopped at any point.
-/

namespace TreeLint

/-! ## Pending nodes and the trail -/

/-- A visit as the walk keeps it. -/
def Visit.pending (v : Visit) : Pending := ⟨v.node, v.ancestors.length, v.index⟩

theorem Visit.children_pending (v : Visit) : v.pending.children = v.children.map pending := by
  simp only [Pending.children, Visit.children, List.map_map]
  refine List.map_congr_left fun x _ => ?_
  simp [Visit.pending, Visit.index]

theorem cutTrail_of_suffix {ancestors trail : List Node} (h : ancestors <:+ trail) :
    cutTrail ancestors.length trail = ancestors := by
  obtain ⟨below, rfl⟩ := h
  rw [cutTrail, List.length_append, Nat.add_sub_cancel, List.drop_left]

/-- The pending visits fit the trail: the ancestors of each are its end, and those of later visits
are ends of those of earlier ones. -/
structure Aligned (trail : List Node) (vs : List Visit) : Prop where
  on_trail : ∀ v ∈ vs, v.ancestors <:+ trail
  nested : vs.Pairwise fun v w => w.ancestors <:+ v.ancestors

theorem aligned_root (root : Node) : Aligned [] [⟨[], [], root⟩] :=
  ⟨by simp, by simp⟩

/-- Visiting a node keeps the rest aligned: its children stand right below it, and the other
pending nodes below one of its ancestors. -/
theorem Aligned.step {trail : List Node} {v : Visit} {vs : List Visit}
    (h : Aligned trail (v :: vs)) : Aligned (v.node :: v.ancestors) (v.children ++ vs) := by
  obtain ⟨hv, hvs⟩ := List.pairwise_cons.1 h.nested
  have hchild : ∀ w ∈ v.children, w.ancestors = v.node :: v.ancestors := by
    intro w hw
    obtain ⟨i, r, c, -, rfl⟩ := Visit.mem_children.1 hw
    rfl
  have hrest : ∀ w ∈ vs, w.ancestors <:+ v.node :: v.ancestors := fun w hw =>
    (hv w hw).trans (List.suffix_cons v.node v.ancestors)
  constructor
  · intro w hw
    rcases List.mem_append.1 hw with hw | hw
    · rw [hchild w hw]
    · exact hrest w hw
  · refine List.pairwise_append.2 ⟨?_, hvs, fun w hw x hx => ?_⟩
    · exact List.pairwise_of_forall_mem_list fun w hw x hx => by rw [hchild w hw, hchild x hx]
    · rw [hchild w hw]
      exact hrest x hx

/-! ## Interruptions -/

namespace Interrupts

/-- Nothing stops the walk. -/
def never : Interrupts := {}

/-- How often the answer is no before it is yes for the first time. -/
noncomputable def patience (t : Interrupts) : ℕ∞ := ⨅ (i : ℕ) (_ : t.cancelled i = true), (i : ℕ∞)

theorem le_patience_iff {t : Interrupts} {k : ℕ} :
    k ≤ t.patience ↔ ∀ i < k, t.cancelled i = false := by
  rw [patience, le_iInf₂_iff]
  constructor
  · intro h i hi
    by_contra hyes
    have hki : k ≤ i := by simpa using h i (by simpa using hyes)
    exact absurd hi (Nat.not_lt.2 hki)
  · intro h i hyes
    by_contra hlt
    have hno := h i (by simpa using hlt)
    simp [hyes] at hno

theorem patience_eq_iff {t : Interrupts} {k : ℕ} :
    t.patience = k ↔ t.cancelled k = true ∧ ∀ i < k, t.cancelled i = false := by
  have hle : t.patience ≤ k ↔ ¬ ∀ i < k + 1, t.cancelled i = false := by
    rw [← le_patience_iff, not_le, Nat.cast_add, Nat.cast_one,
      ENat.lt_add_one_iff (ENat.natCast_ne_top k)]
  rw [le_antisymm_iff, hle, le_patience_iff, Nat.forall_lt_succ_right]
  cases t.cancelled k <;> simp +contextual

theorem stops_of_no_timeout {t : Interrupts} (ht : t.timeoutMs = none) (i : Nat) :
    t.stops i = t.cancelled i := by
  simp [stops, ht]

theorem stops_of_never_cancelled {t : Interrupts} (hc : ∀ i, t.cancelled i = false)
    (ht : t.timeoutMs = none) (i : Nat) : t.stops i = false := by
  rw [stops_of_no_timeout ht, hc]

theorem stops_of_zero_timeout {t : Interrupts} (ht : t.timeoutMs = some 0) (i : Nat) :
    t.stops i = true := by
  simp [stops, ht]

/-- Before the first `n` nodes the answer is no for a while, and then yes unless it is always
no. -/
theorem exists_first_stop (t : Interrupts) (n : Nat) :
    ∃ k ≤ n, (∀ j < k, t.stops j = false) ∧ (k < n → t.stops k = true) := by
  induction n with
  | zero => exact ⟨0, le_rfl, by simp, by simp⟩
  | succ n ih =>
    obtain ⟨k, hk, hno, hyes⟩ := ih
    by_cases hlt : k < n
    · exact ⟨k, by omega, hno, fun _ => hyes hlt⟩
    · obtain rfl : k = n := by omega
      by_cases hstop : t.stops k
      · exact ⟨k, by omega, hno, fun _ => hstop⟩
      · refine ⟨k + 1, le_rfl, fun j hj => ?_, fun h => absurd h (Nat.lt_irrefl _)⟩
        rcases Nat.lt_succ_iff_lt_or_eq.1 hj with hj | rfl
        · exact hno j hj
        · simpa using hstop

end Interrupts

/-! ## The run -/

namespace Engine

/-- What visits give, one after the other. -/
def gathered (e : Engine) (u : SourceUnit) (vs : List Visit) : Gathered where
  findings := vs.flatMap fun v => e.findingsAt (v.site u) v.node
  nodeCount := vs.length
  complexity := (vs.map (·.node.complexity)).sum

@[simp] theorem gathered_nil (e : Engine) (u : SourceUnit) : e.gathered u [] = {} := rfl

theorem gathered_cons (e : Engine) (u : SourceUnit) (v : Visit) (vs : List Visit) :
    e.gathered u (v :: vs) =
      { e.gathered u vs with
        findings := e.findingsAt (v.site u) v.node ++ (e.gathered u vs).findings
        nodeCount := (e.gathered u vs).nodeCount + 1
        complexity := v.node.complexity + (e.gathered u vs).complexity } := by
  simp [gathered]

theorem walk_of_stops (e : Engine) (u : SourceUnit) {t : Interrupts} {i : Nat}
    (hi : t.stops i = true) (trail : List Node) (v : Visit) (vs : List Visit) :
    e.walk u t i trail ((v :: vs).map Visit.pending) = { truncated := true } := by
  rw [List.map_cons, walk, if_pos hi]

/-- One step: the visit of the first pending node, and then the walk over what is pending after
it. -/
theorem walk_step (e : Engine) (u : SourceUnit) {t : Interrupts} {i : Nat}
    (hi : t.stops i = false) {trail : List Node} {v : Visit} {vs : List Visit}
    (h : Aligned trail (v :: vs)) :
    e.walk u t i trail ((v :: vs).map Visit.pending) =
      let after := e.walk u t (i + 1) (v.node :: v.ancestors)
        ((v.children ++ vs).map Visit.pending)
      { after with
        findings := e.findingsAt (v.site u) v.node ++ after.findings
        nodeCount := after.nodeCount + 1
        complexity := v.node.complexity + after.complexity } := by
  have hcut : cutTrail v.pending.depth trail = v.ancestors :=
    cutTrail_of_suffix (h.on_trail v (List.mem_cons_self ..))
  rw [List.map_cons, walk, if_neg (by simp [hi]), hcut, Visit.children_pending, ← List.map_append]
  rfl

/-- **The walk is the recursion, cut off at the first yes.** The numbers of the questions start at
`i`, since the walk is somewhere on its way. -/
theorem walk_eq_take (e : Engine) (u : SourceUnit) {t : Interrupts} {trail : List Node}
    {pending visits : List Visit} (h : Aligned trail pending)
    (hvisits : pending.flatMap Visit.within = visits) {i k : Nat}
    (hno : ∀ j < k, t.stops (i + j) = false) (hyes : k < visits.length → t.stops (i + k) = true) :
    e.walk u t i trail (pending.map Visit.pending) =
      { e.gathered u (visits.take k) with truncated := decide (k < visits.length) } := by
  -- The visits that are left lose their first with each step, whatever the shape of the tree.
  induction visits generalizing trail pending i k with
  | nil =>
    have hnil : pending = [] := by
      cases pending with
      | nil => rfl
      | cons v vs => simp [Visit.within_eq v] at hvisits
    subst hnil
    simp [walk]
  | cons w visits ih =>
    cases pending with
    | nil => simp at hvisits
    | cons v vs =>
      obtain ⟨rfl, hrest⟩ : v = w ∧ (v.children ++ vs).flatMap Visit.within = visits := by
        simpa [Visit.within_eq v] using hvisits
      cases k with
      | zero =>
        have hi : t.stops i = true := hyes (by simp)
        rw [walk_of_stops e u hi]
        simp
      | succ k =>
        have hi : t.stops i = false := hno 0 (by omega)
        have hafter := ih h.step hrest (i := i + 1) (k := k)
          (fun j hj => by simpa [Nat.add_assoc, Nat.add_comm 1] using hno (j + 1) (by omega))
          (fun hk => by simpa [Nat.add_assoc, Nat.add_comm 1] using hyes (by simpa using hk))
        rw [walk_step e u hi h, hafter, List.take_succ_cons, gathered_cons]
        simp

/-! ## Reports -/

/-- The report on a unit of which `vs` were visited. -/
def reportOn (e : Engine) (u : SourceUnit) (vs : List Visit) (truncated : Bool) : FileReport where
  file := u.path
  findings := vs.flatMap fun v => e.findingsAt (v.site u) v.node
  truncated := truncated
  metrics :=
    { linesOfCode := u.linesOfCode
      nodeCount := vs.length
      cyclomaticComplexity := (vs.map (·.node.complexity)).sum }

/-- The report of a walk that hears no `k` times, and then yes if it still asks. -/
theorem analyze_eq_take (e : Engine) {u : SourceUnit} {root : Node} (hu : u.tree = .ok root)
    {t : Interrupts} {k : Nat} (hno : ∀ j < k, t.stops j = false)
    (hyes : k < root.size → t.stops k = true) :
    e.analyze u t = e.reportOn u (root.visits.take k) (decide (k < root.size)) := by
  have hvisits : [⟨[], [], root⟩].flatMap Visit.within = root.visits := by
    simp [Node.visits, Visit.within]
  have hwalk := e.walk_eq_take u (aligned_root root) hvisits (i := 0) (k := k)
    (fun j hj => by simpa using hno j hj)
    (fun hk => by simpa using hyes (by rwa [Node.length_visits] at hk))
  have hpending : ([⟨[], [], root⟩] : List Visit).map Visit.pending = [⟨root, 0, 0⟩] := rfl
  rw [hpending, Node.length_visits] at hwalk
  simp only [analyze, hu, hwalk, reportOn, gathered]

/-- The report depends on when the walk is stopped, and not on why. -/
theorem analyze_congr (e : Engine) (u : SourceUnit) {t t' : Interrupts}
    (h : ∀ i, t'.stops i = t.stops i) : e.analyze u t' = e.analyze u t := by
  cases hu : u.tree with
  | error err => simp only [analyze, hu]
  | ok root =>
    obtain ⟨k, -, hno, hyes⟩ := t.exists_first_stop root.size
    rw [e.analyze_eq_take hu hno hyes, e.analyze_eq_take hu (fun j hj => (h j).trans (hno j hj))
      fun hk => (h k).trans (hyes hk)]

/-- A walk that hears no before each node visits them all. -/
theorem analyze_complete (e : Engine) {u : SourceUnit} {root : Node} (hu : u.tree = .ok root)
    {t : Interrupts} (hno : ∀ j < root.size, t.stops j = false) :
    e.analyze u t = e.reportOn u root.visits false := by
  have h := e.analyze_eq_take hu hno fun h => absurd h (Nat.lt_irrefl _)
  rw [← Node.length_visits, List.take_length] at h
  simpa using h

theorem analyze_of_isComplete (e : Engine) {u : SourceUnit} {root : Node} (hu : u.tree = .ok root)
    {t : Interrupts} (h : (e.analyze u t).isComplete) :
    e.analyze u t = e.reportOn u root.visits false := by
  obtain ⟨k, hk, hno, hyes⟩ := t.exists_first_stop root.size
  have hreport := e.analyze_eq_take hu hno hyes
  have hlast : k = root.size := by
    rw [hreport] at h
    simp only [FileReport.isComplete, reportOn, Bool.and_eq_true, Bool.not_eq_true',
      decide_eq_false_iff_not] at h
    omega
  subst hlast
  exact e.analyze_complete hu hno

theorem sum_complexity (ns : List Node) :
    (ns.map (·.complexity)).sum =
      ((ns.filter (·.isMeasured)).map fun n => 1 + n.decisionPoints).sum := by
  induction ns with
  | nil => rfl
  | cons n ns ih =>
    rw [List.map_cons, List.sum_cons, ih, Node.complexity]
    by_cases hn : n.isMeasured
    · rw [if_pos hn, List.filter_cons_of_pos hn, List.map_cons, List.sum_cons]
    · rw [if_neg hn, List.filter_cons_of_neg hn, Nat.zero_add]

theorem reportOn_eq (e : Engine) (u : SourceUnit) (vs : List Visit) (truncated : Bool) :
    e.reportOn u vs truncated =
      { file := u.path
        findings := vs.flatMap fun v =>
          (e.registry.detectorsFor v.node.kind).flatMap fun d =>
            (d.findings (v.site u) v.node (d.evaluate (v.site u) v.node)).map (e.finalize u)
        truncated
        parseFailure := none
        metrics :=
          { linesOfCode := u.linesOfCode
            nodeCount := vs.length
            cyclomaticComplexity :=
              (((vs.map (·.node)).filter (·.isMeasured)).map
                fun n => 1 + n.decisionPoints).sum } } := by
  rw [← sum_complexity, List.map_map]
  rfl

/-- **Without interruption the analysis is the recursion.** The findings are those of the visits
of the tree, one after the other and detector by detector in the order of registration. The visits
are the positions of the tree in pre-order, each with its node and with the nodes on the way to it
as ancestors. -/
theorem analyze_eq_visits (e : Engine) {u : SourceUnit} {root : Node} (hu : u.tree = .ok root)
    {t : Interrupts} (hc : ∀ i, t.cancelled i = false) (ht : t.timeoutMs = none) :
    e.analyze u t =
      { file := u.path
        findings := root.visits.flatMap fun v =>
          (e.registry.detectorsFor v.node.kind).flatMap fun d =>
            (d.findings (v.site u) v.node (d.evaluate (v.site u) v.node)).map (e.finalize u)
        truncated := false
        parseFailure := none
        metrics :=
          { linesOfCode := u.linesOfCode
            nodeCount := root.size
            cyclomaticComplexity :=
              (((root.visits.map (·.node)).filter (·.isMeasured)).map
                fun n => 1 + n.decisionPoints).sum } } ∧
    root.visits.map (·.node) = root.preorder Walk.everything ∧
    root.visits.Pairwise Visit.Before ∧
    ∀ v, v ∈ root.visits ↔
      root.at? v.path = some v.node ∧ v.ancestors = root.ancestorsAt v.path := by
  refine ⟨?_, root.map_node_visits, root.visits_ordered, fun v => Node.mem_visits_iff⟩
  rw [e.analyze_complete hu fun j _ => Interrupts.stops_of_never_cancelled hc ht j, reportOn_eq,
    Node.length_visits]

/-- A block with two children, and a node beside the block. -/
def forkTree : Node :=
  { kind := .program, span := ⟨1, 1, 2, 2⟩
    children :=
      [(.statement,
        { kind := .block, span := ⟨1, 1, 1, 4⟩
          children := [(.statement, .ident "a" ⟨1, 1, 1, 2⟩),
            (.statement, .ident "b" ⟨1, 3, 1, 4⟩)] }),
        (.statement, .ident "c" ⟨2, 1, 2, 2⟩)] }

def forkUnit : SourceUnit := .parsed "fork.js" "a b\nc" forkTree

/-- A detector that reports the kinds on the way to a node. -/
def pathDetector : Detector :=
  let rule : Rule := ⟨"sample/path", .low, .quality, "Path to a node"⟩
  .reporting rule [.block, .identifier] fun s n =>
    [s.finding rule n (String.intercalate "/" (s.ancestors.reverse.map (·.kind.name)))]

def pathEngine : Engine := ⟨⟨[pathDetector]⟩, true⟩

/-- The node after the block is again below the root alone. -/
theorem analyze_eq_visits_fork :
    forkUnit.tree = .ok forkTree ∧ (∀ i, Interrupts.never.cancelled i = false) ∧
    Interrupts.never.timeoutMs = none ∧
    (pathEngine.analyze forkUnit .never).findings.map (·.message) =
      ["program", "program/block", "program/block", "program"] := by
  refine ⟨rfl, fun _ => rfl, rfl, ?_⟩
  rw [(analyze_eq_visits pathEngine (u := forkUnit) rfl (fun _ => rfl) rfl).1]
  decide +kernel

/-! ## Interrupted walks -/

/-- Whatever stops the walk, the report is that of the nodes it counts. -/
theorem analyze_eq_counted (e : Engine) {u : SourceUnit} {root : Node} (hu : u.tree = .ok root)
    (t : Interrupts) :
    ∃ truncated, e.analyze u t =
      e.reportOn u (root.visits.take (e.analyze u t).metrics.nodeCount) truncated := by
  obtain ⟨k, hk, hno, hyes⟩ := t.exists_first_stop root.size
  have h := e.analyze_eq_take hu hno hyes
  have hcount : (e.analyze u t).metrics.nodeCount = k := by
    rw [h, reportOn, List.length_take_of_le (by rwa [Node.length_visits])]
  exact ⟨_, by rw [hcount, h]⟩

theorem findings_take_prefix (e : Engine) (u : SourceUnit) (vs : List Visit) (k : Nat)
    (b b' : Bool) : (e.reportOn u (vs.take k) b).findings <+: (e.reportOn u vs b').findings := by
  obtain ⟨rest, hrest⟩ := List.take_prefix k vs
  refine ⟨(e.reportOn u rest b').findings, ?_⟩
  simp only [reportOn]
  rw [← List.flatMap_append, hrest]

theorem analyze_never (e : Engine) {u : SourceUnit} {root : Node} (hu : u.tree = .ok root) :
    e.analyze u .never = e.reportOn u root.visits false :=
  e.analyze_complete hu fun _ _ => rfl

theorem analyze_of_patience_eq (e : Engine) {u : SourceUnit} {root : Node}
    (hu : u.tree = .ok root) {t : Interrupts} (ht : t.timeoutMs = none) {k : ℕ}
    (hk : t.patience = k) :
    e.analyze u t = e.reportOn u (root.visits.take k) (decide (k < root.size)) := by
  obtain ⟨hyes, hno⟩ := Interrupts.patience_eq_iff.1 hk
  refine e.analyze_eq_take hu (fun j hj => ?_) fun _ => ?_
  · rw [Interrupts.stops_of_no_timeout ht, hno j hj]
  · rw [Interrupts.stops_of_no_timeout ht, hyes]

/-- **An interrupted analysis is a prefix of the whole one.** If the answer is no at least once for
each node, the report is that of a walk that is never stopped. If it is yes after `k` times no
and before the end, the report is that of the first `k` visits. A time limit of 0 stops the walk
before the first node. -/
theorem analyze_of_patience (e : Engine) {u : SourceUnit} {root : Node} (hu : u.tree = .ok root) :
    (∀ t : Interrupts, t.timeoutMs = none → root.size ≤ t.patience →
      e.analyze u t = e.analyze u .never ∧ (e.analyze u t).truncated = false) ∧
    (∀ (t : Interrupts) (k : ℕ), t.timeoutMs = none → t.patience = k → k < root.size →
      e.analyze u t =
        { file := u.path
          findings := (root.visits.take k).flatMap fun v =>
            (e.registry.detectorsFor v.node.kind).flatMap fun d =>
              (d.findings (v.site u) v.node (d.evaluate (v.site u) v.node)).map (e.finalize u)
          truncated := true
          parseFailure := none
          metrics :=
            { linesOfCode := u.linesOfCode
              nodeCount := k
              cyclomaticComplexity :=
                ((((root.visits.take k).map (·.node)).filter (·.isMeasured)).map
                  fun n => 1 + n.decisionPoints).sum } } ∧
      (e.analyze u t).findings <+: (e.analyze u .never).findings) ∧
    ∀ t t' : Interrupts, t.timeoutMs = some 0 → t'.timeoutMs = none → t'.patience = 0 →
      e.analyze u t = e.analyze u t' := by
  refine ⟨fun t ht hsize => ?_, fun t k ht hk hlt => ⟨?_, ?_⟩, fun t t' ht ht' hk => ?_⟩
  · have hno : ∀ j < root.size, t.stops j = false := by
      intro j hj
      rw [Interrupts.stops_of_no_timeout ht, Interrupts.le_patience_iff.1 hsize j hj]
    rw [e.analyze_complete hu hno, e.analyze_never hu]
    exact ⟨rfl, rfl⟩
  · have hlen : (root.visits.take k).length = k :=
      List.length_take_of_le (by rw [Node.length_visits]; omega)
    rw [e.analyze_of_patience_eq hu ht hk, reportOn_eq, hlen]
    simp only [hlt, decide_true]
  · rw [e.analyze_of_patience_eq hu ht hk, e.analyze_never hu]
    exact e.findings_take_prefix u root.visits k _ _
  · have hk' : t'.patience = (0 : ℕ) := by simpa using hk
    rw [e.analyze_of_patience_eq hu ht' hk']
    exact e.analyze_eq_take hu (by simp) fun _ => Interrupts.stops_of_zero_timeout ht 0

/-- A walk that is stopped between the two children of the block. -/
theorem analyze_of_patience_fork :
    let t : Interrupts := { cancelled := fun i => decide (3 ≤ i) }
    forkUnit.tree = .ok forkTree ∧ t.timeoutMs = none ∧ t.patience = (3 : ℕ) ∧
      3 < forkTree.size ∧
      (pathEngine.analyze forkUnit t).findings.map (·.message) = ["program", "program/block"] := by
  intro t
  have hpatience : t.patience = (3 : ℕ) := Interrupts.patience_eq_iff.2 ⟨by decide, by decide⟩
  refine ⟨rfl, rfl, hpatience, by decide, ?_⟩
  have hcut := (analyze_of_patience pathEngine (u := forkUnit) rfl).2.1 t 3 rfl hpatience
    (by decide)
  rw [hcut.1]
  decide +kernel

end Engine

end TreeLint
