import Mathlib.Data.List.TakeWhile
import TreeLint.Proofs.Reach
import TreeLint.Proofs.RuleFindings

/-!
# One finding for a nest of loops

The detector of nested loops looks at a loop in two directions. Down from the loop it walks over
its body, as far as the scope goes, for an inner loop over the same collection that compares
elements. Up from the loop it looks for an outer loop over that collection, again as far as the
scope goes, and leaves the report to it.

**Theorem (`quadraticFindings_of_isComplete`).** Of two loops over one collection, one inside the other
and in its scope, the inner has no finding. A loop that compares elements and lies in the body of the
outermost of the loops around it gives that one a finding, and no other loop of the nest has one.

Both directions come down to `Visit.reaches`: the ancestors in scope are the visits that a scoped
walk comes from (`mem_ancestorsInScope_iff`), and the scoped descendants those that it comes to
(`mem_scopedDescendants_iff`).
-/

namespace TreeLint

/-! ## Scopes, upward and downward -/

theorem Site.ancestorsInScope_eq (s : Site) :
    s.ancestorsInScope = s.ancestors.takeWhile (Walk.withinScope ·.kind) := rfl

theorem Site.withinScope_of_mem {s : Site} {a : Node} (h : a ∈ s.ancestorsInScope) :
    Walk.withinScope a.kind = true := by
  have hkind := List.mem_takeWhile_imp h
  exact hkind

namespace Visit

variable {root : Node} {p v w : Visit}

/-- The ancestors in scope, up to the boundary, are where a scoped walk comes from. -/
theorem mem_ancestorsInScope_iff (u : SourceUnit) (hw : w ∈ root.visits) {a : Node} :
    a ∈ (w.site u).ancestorsInScope ↔
      Walk.withinScope a.kind = true ∧
        ∃ v ∈ root.visits, v.node = a ∧ v.reaches Walk.withinScope w = true := by
  constructor
  · intro ha
    obtain ⟨below, above, hsplit⟩ := List.append_of_mem ha
    have hanc : w.ancestors = below ++ a :: (above ++ w.ancestors.dropWhile
        (Walk.withinScope ·.kind)) := by
      rw [← List.cons_append, ← List.append_assoc, ← hsplit, Site.ancestorsInScope_eq]
      exact List.takeWhile_append_dropWhile.symm
    obtain ⟨v, hv, rfl, hpath, hlt, rfl⟩ := exists_visit_of_ancestors hw hanc
    have hbetween : ∀ b ∈ v.between w, b ∈ (w.site u).ancestorsInScope := fun b hb =>
      hsplit ▸ List.mem_append_left _ hb
    exact ⟨Site.withinScope_of_mem ha, v, hv, rfl,
      reaches_iff.2 ⟨hpath, hlt, fun b hb => Site.withinScope_of_mem (hbetween b hb)⟩⟩
  · rintro ⟨hself, v, hv, rfl, hreach⟩
    obtain ⟨hpath, hlt, hbetween⟩ := reaches_iff.1 hreach
    have hanc : (w.site u).ancestors = v.between w ++ v.node :: v.ancestors :=
      ancestors_of_lt hv hw hpath hlt
    rw [Site.ancestorsInScope_eq, hanc, List.takeWhile_append_of_pos hbetween, List.takeWhile_cons,
      if_pos hself]
    exact List.mem_append_right _ List.mem_cons_self

/-- The scoped descendants are where a scoped walk comes to. -/
theorem mem_scopedDescendants_iff (hv : v ∈ root.visits) {n : Node} :
    n ∈ v.node.scopedDescendants ↔
      ∃ w ∈ root.visits, v.reaches Walk.withinScope w = true ∧ w.node = n := by
  rw [Node.scopedDescendants, ← map_node_filter_reaches hv, List.mem_map]
  simp only [List.mem_filter, and_assoc]

/-- Whether `w` lies at or below the first body of `p`. -/
def HoldsInBody (p w : Visit) : Prop :=
  ∃ i, p.node.children.findIdx? (·.1 == .body) = some i ∧ p.path ++ [i] <+: w.path

/-- What is in the body of a node and in its scope is the body or a scoped descendant of it. -/
theorem mem_body_of_holdsInBody (hp : p ∈ root.visits) (hw : w ∈ root.visits)
    (hreach : p.reaches Walk.withinScope w = true) (hbody : p.HoldsInBody w) :
    ∃ body, p.node.child? .body = some body ∧ w.node ∈ body :: body.scopedDescendants := by
  obtain ⟨i, hi, hpath⟩ := hbody
  obtain ⟨hlt, hrole, hfirst⟩ := List.findIdx?_eq_some_iff_getElem.1 hi
  obtain ⟨r, body, hc⟩ : ∃ r body, p.node.children[i] = (r, body) := ⟨_, _, rfl⟩
  have hchild : p.node.child? .body = some body := by
    have hfind : p.node.children.find? (·.1 == .body) = some p.node.children[i] :=
      List.find?_eq_some_iff_getElem.2 ⟨hrole, i, hlt, rfl, fun j hj => by simpa using hfirst j hj⟩
    rw [Node.child?, hfind, hc, Option.map_some]
  let b : Visit := ⟨p.path ++ [i], p.node :: p.ancestors, body⟩
  have hb : b ∈ root.visits := mem_visits_of_mem_children hp
    (mem_children.2 ⟨i, r, body, by rw [List.getElem?_eq_getElem hlt, hc], rfl⟩)
  refine ⟨body, hchild, List.mem_cons.2 ?_⟩
  rcases hpath.length_le.lt_or_eq with hshort | heq
  · right
    have hstep : p.path.length < b.path.length := by simp [b]
    obtain ⟨-, -, hbw⟩ := (reaches_iff_of_between hp hb hw (List.prefix_append ..) hstep hpath
      hshort).1 hreach
    exact (mem_scopedDescendants_iff hb).2 ⟨w, hw, hbw, rfl⟩
  · left
    rw [← eq_of_path_eq hb hw (hpath.eq_of_length heq)]

end Visit

/-! ## The report at a loop -/

namespace Rules.QuadraticCandidate

variable {s : Site} {n : Node} {c : String}

theorem isLoopOver_iff :
    isLoopOver c n = true ↔ n.kind.isLoop = true ∧ loopCollection? n = some c := by
  rw [isLoopOver, Bool.and_eq_true, beq_iff_eq]

theorem withinScope_of_isLoopOver (h : isLoopOver c n = true) :
    Walk.withinScope n.kind = true := by
  have hloop := (isLoopOver_iff.1 h).1
  revert hloop
  cases n.kind <;> decide

theorem report_of_enclosed (h : isLoopOver c n = true)
    (houter : s.ancestorsInScope.any (isLoopOver c) = true) : report s n = [] := by
  rw [report, (isLoopOver_iff.1 h).2]
  exact if_pos houter

theorem length_report_of_innerLoop (h : isLoopOver c n = true)
    (houter : s.ancestorsInScope.any (isLoopOver c) = false)
    (hinner : ((n.child? .body).bind (innerLoop? c)).isSome) : (report s n).length = 1 := by
  obtain ⟨inner, hinner⟩ := Option.isSome_iff_exists.1 hinner
  rw [report, (isLoopOver_iff.1 h).2]
  simp [houter, hinner]

/-- The detector is asked about every node that it would report. -/
theorem report_of_not_kinds (h : detector.kinds.contains n.kind = false) : report s n = [] := by
  have hnone : loopCollection? n = none := by
    unfold loopCollection?
    split <;> simp_all [detector, Detector.reporting]
  rw [report, hnone]

/-! ## The outermost loop -/

/-- `p` is the outermost of the loops over a collection around `w`, in the scope of `w`. -/
structure IsOutermost (root : Node) (c : String) (p w : Visit) : Prop where
  mem : p ∈ root.visits
  loop : isLoopOver c p.node = true
  reaches : p.reaches Walk.withinScope w = true
  above : ∀ v ∈ root.visits, isLoopOver c v.node = true → v.reaches Walk.withinScope w = true →
    p.path <+: v.path

section Outermost

variable {root : Node} {p v w : Visit}

theorem exists_isOutermost (hv : v ∈ root.visits) (hloop : isLoopOver c v.node = true)
    (hreach : v.reaches Walk.withinScope w = true) : ∃ p, IsOutermost root c p w := by
  let loops : Set Visit :=
    {v | v ∈ root.visits ∧ isLoopOver c v.node = true ∧ v.reaches Walk.withinScope w = true}
  obtain ⟨p, ⟨hp, hloop, hreach⟩, hmin⟩ :=
    (measure fun v : Visit => v.path.length).wf.has_min loops ⟨v, hv, hloop, hreach⟩
  refine ⟨p, hp, hloop, hreach, fun v' hv' hloop' hreach' => ?_⟩
  have hle : p.path.length ≤ v'.path.length := Nat.not_lt.1 (hmin v' ⟨hv', hloop', hreach'⟩)
  exact List.prefix_of_prefix_length_le (Visit.reaches_iff.1 hreach).1
    (Visit.reaches_iff.1 hreach').1 hle

theorem IsOutermost.reaches_of_ne (h : IsOutermost root c p w) (hw : w ∈ root.visits)
    (hv : v ∈ root.visits) (hloop : isLoopOver c v.node = true)
    (hreach : v.reaches Walk.withinScope w = true) (hne : v ≠ p) :
    p.reaches Walk.withinScope v = true := by
  have hpath := h.above v hv hloop hreach
  rcases hpath.length_le.lt_or_eq with hlt | heq
  · exact (Visit.reaches_of_reaches_of_lt h.mem hv hw h.reaches hreach hlt).1
  · exact absurd (Visit.eq_of_path_eq hv h.mem (hpath.eq_of_length heq).symm) hne

/-- No loop over the collection is around the outermost one. -/
theorem IsOutermost.not_enclosed (h : IsOutermost root c p w) (hw : w ∈ root.visits)
    (u : SourceUnit) : (p.site u).ancestorsInScope.any (isLoopOver c) = false := by
  refine List.any_eq_false.2 fun a ha hloop => ?_
  obtain ⟨-, v, hv, rfl, hreach⟩ := (Visit.mem_ancestorsInScope_iff u h.mem).1 ha
  obtain ⟨hpath, hlt, -⟩ := Visit.reaches_iff.1 hreach
  obtain ⟨hpath', hlt', -⟩ := Visit.reaches_iff.1 h.reaches
  have hvw : v.reaches Walk.withinScope w = true :=
    (Visit.reaches_iff_of_between hv h.mem hw hpath hlt hpath' hlt').2
      ⟨hreach, withinScope_of_isLoopOver h.loop, h.reaches⟩
  exact absurd (h.above v hv hloop hvw).length_le (Nat.not_le.2 hlt)

/-- The outermost loop finds an inner one if `w` is such a loop. -/
theorem IsOutermost.innerLoop (h : IsOutermost root c p w) (hw : w ∈ root.visits)
    (hbody : p.HoldsInBody w) (hloop : isLoopOver c w.node = true)
    (hcompares : (w.node.child? .body).any comparesElements = true) :
    ((p.node.child? .body).bind (innerLoop? c)).isSome := by
  obtain ⟨body, hchild, hmem⟩ := Visit.mem_body_of_holdsInBody h.mem hw h.reaches hbody
  rw [hchild, Option.bind_some, innerLoop?, List.find?_isSome]
  exact ⟨w.node, hmem, by simp [hloop, hcompares]⟩

end Outermost

end Rules.QuadraticCandidate

/-! ## The findings of the rule -/

open Rules.QuadraticCandidate

namespace Engine

section Standard

variable {e : Engine} {s : Settings} {u : SourceUnit} {root : Node} {v w : Visit} {c : String}

/-- The findings of the rule at a visit are what the detector reports there, unless the rule is
switched off. -/
theorem quadraticFindingsAt_eq (he : Registry.ofSettings s = .ok e.registry) (u : SourceUnit)
    (v : Visit) :
    e.ruleFindingsAt rule.id u v =
      if s.analysis.disabledRules.contains rule.id then []
      else (report (v.site u) v.node).map (e.finalize u) := by
  have hmem : ∀ c, detector ∈ Registry.detectorsWith s.rules c := by
    simp [Registry.detectorsWith]
  refine (ruleFindingsAt_eq he hmem (by decide) u v).trans ?_
  refine ite_congr rfl (fun _ => rfl) fun _ => ?_
  cases hkinds : detector.kinds.contains v.node.kind with
  | true => exact if_pos hkinds
  | false =>
    rw [report_of_not_kinds hkinds]
    exact ite_self _

/-- The inner of two loops over one collection leaves the report to the outer. -/
theorem quadraticFindingsAt_of_reaches (he : Registry.ofSettings s = .ok e.registry)
    (hv : v ∈ root.visits) (hw : w ∈ root.visits) (hloop : isLoopOver c v.node = true)
    (hloop' : isLoopOver c w.node = true) (hreach : v.reaches Walk.withinScope w = true) :
    e.ruleFindingsAt rule.id u w = [] := by
  have houter : (w.site u).ancestorsInScope.any (isLoopOver c) = true :=
    List.any_eq_true.2 ⟨v.node, (Visit.mem_ancestorsInScope_iff u hw).2
      ⟨withinScope_of_isLoopOver hloop, v, hv, rfl, hreach⟩, hloop⟩
  rw [quadraticFindingsAt_eq he, report_of_enclosed hloop' houter]
  exact ite_self _

end Standard

/-- **One finding for a nest of loops.** In a tree that is walked to its end, of two loops over one
collection the one inside the other, and in its scope, has no finding. If a loop that compares
elements in its body has another loop over the collection around it, and lies in the body of the
outermost one, then that one has one finding and no other loop of the nest has any. -/
theorem quadraticFindings_of_isComplete (s : Settings) {e : Engine}
    (he : Registry.ofSettings s = .ok e.registry) {u : SourceUnit} {root : Node}
    (hu : u.tree = .ok root) {t : Interrupts} (ht : (e.analyze u t).isComplete) :
    (e.analyze u t).findings.filter (·.ruleId == rule.id) =
      root.visits.flatMap (e.ruleFindingsAt rule.id u) ∧
    ∀ c, ∀ w ∈ root.visits, isLoopOver c w.node →
      (∀ v ∈ root.visits, isLoopOver c v.node → v.reaches Walk.withinScope w →
        e.ruleFindingsAt rule.id u w = [] ∧ ∃ p, IsOutermost root c p w) ∧
      ∀ p, IsOutermost root c p w → p.HoldsInBody w →
        (w.node.child? .body).any comparesElements →
        rule.id ∉ s.analysis.disabledRules →
        (e.ruleFindingsAt rule.id u p).length = 1 ∧ e.ruleFindingsAt rule.id u w = [] ∧
          ∀ v ∈ root.visits, isLoopOver c v.node → v.reaches Walk.withinScope w → v ≠ p →
            e.ruleFindingsAt rule.id u v = [] := by
  refine ⟨?_, fun c w hw hloop => ⟨fun v hv hloop' hreach => ⟨?_, ?_⟩,
    fun p hp hbody hcompares hon => ⟨?_, ?_, fun v hv hloop' hreach hne => ?_⟩⟩⟩
  · exact filter_findings_of_isComplete hu ht rule.id
  · exact quadraticFindingsAt_of_reaches he hv hw hloop' hloop hreach
  · exact exists_isOutermost hv hloop' hreach
  · rw [quadraticFindingsAt_eq he, if_neg (by simpa using hon), List.length_map]
    exact length_report_of_innerLoop hp.loop (hp.not_enclosed hw u)
      (hp.innerLoop hw hbody hloop hcompares)
  · exact quadraticFindingsAt_of_reaches he hp.mem hw hp.loop hloop hp.reaches
  · exact quadraticFindingsAt_of_reaches he hp.mem hv hp.loop hloop'
      (hp.reaches_of_ne hw hv hloop' hreach hne)

/-- A loop over a collection with one statement in its body. -/
def loopOver (collection : String) (statement : Node) : Node :=
  let body : Node := (Node.leaf .block ⟨1, 1, 1, 9⟩).push .statement statement
  let head : Node := (Node.leaf .forEach ⟨1, 1, 1, 9⟩).push .iterable (.ident collection ⟨1, 5, 1, 6⟩)
  head.push .body body

/-- A loop that compares elements. -/
def comparingLoop : Node :=
  loopOver "items" (.binaryOf "==" (.ident "x" ⟨1, 7, 1, 8⟩) (.ident "y" ⟨1, 8, 1, 9⟩) ⟨1, 7, 1, 9⟩)

/-- Three loops, of which the outer and the inner go over one collection. -/
def nestTree : Node := loopOver "items" (loopOver "others" comparingLoop)

def nestUnit : SourceUnit := .parsed "nest.js" "for items" nestTree

/-- The finding is at the outer loop, although the inner does not stand right in its body. -/
theorem quadraticFindings_of_isComplete_three :
    let s : Settings := { rules := Registry.plainRules }
    let e : Engine := ⟨.plain, true⟩
    let outer : Visit := ⟨[], [], nestTree⟩
    let inner : Visit := ⟨[1, 0, 1, 0], nestTree.ancestorsAt [1, 0, 1, 0], comparingLoop⟩
    Registry.ofSettings s = .ok e.registry ∧ nestUnit.tree = .ok nestTree ∧
      (e.analyze nestUnit .never).isComplete ∧ inner ∈ nestTree.visits ∧
      isLoopOver "items" inner.node ∧ IsOutermost nestTree "items" outer inner ∧
      outer.HoldsInBody inner ∧ (inner.node.child? .body).any comparesElements ∧
      rule.id ∉ s.analysis.disabledRules ∧
      (e.ruleFindingsAt rule.id nestUnit outer).length = 1 ∧
      e.ruleFindingsAt rule.id nestUnit inner = [] := by
  intro s e outer inner
  have hcomplete : (e.analyze nestUnit .never).isComplete := by
    rw [e.analyze_never (u := nestUnit) rfl]
    rfl
  have hinner : inner ∈ nestTree.visits := Node.mem_visits_iff.2 ⟨rfl, rfl⟩
  have hloop : isLoopOver "items" inner.node := by decide +kernel
  have houter : IsOutermost nestTree "items" outer inner :=
    ⟨Node.mem_visits_iff.2 ⟨rfl, rfl⟩, by decide +kernel, by decide +kernel,
      fun v _ _ _ => List.nil_prefix⟩
  have hbody : outer.HoldsInBody inner := ⟨1, rfl, by decide⟩
  have hcompares : (inner.node.child? .body).any comparesElements := by decide +kernel
  obtain ⟨-, hnest⟩ := quadraticFindings_of_isComplete s (e := e) (u := nestUnit) rfl rfl hcomplete
  obtain ⟨hone, hnone, -⟩ :=
    (hnest "items" inner hinner hloop).2 outer houter hbody hcompares List.not_mem_nil
  exact ⟨rfl, rfl, hcomplete, hinner, hloop, houter, hbody, hcompares, List.not_mem_nil, hone,
    hnone⟩

end Engine

end TreeLint
