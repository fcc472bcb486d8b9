import Mathlib.Data.Set.Basic
import TreeLint.Pipeline
import TreeLint.Proofs.Aggregate
import TreeLint.Proofs.Bounds
import TreeLint.Proofs.KindIndex
import TreeLint.Proofs.Walk

/-!
# Failures of detectors stay where they are

A detector may fail on a node, with an error or by stopping without an answer. The failure becomes
one finding at the node, and nothing else of the analysis changes.

**Isolation.** Take two runs over one unit, of detectors that differ in one place: the second run
has there a detector that agrees with the first one's outside a set of nodes, and fails on the
nodes of the set. Then the second report is the first one in which, at each node of the set, the
findings of that detector are replaced by one finding for the failure.

To say "replaced in place", the findings of a report are cut into *blocks*, one for each visit and
each detector that is asked there. The two runs have the same blocks in the same order, and a
block differs only if it belongs to the exchanged detector and to a node of the set
(`blocks_withFault`).

**Loss.** The report of a whole run does not keep every failure. All failures are findings of one
rule, so two of them at the same span of the same file are repeats for the aggregation, and only
the first is left.
-/

namespace TreeLint

/-! ## Failures -/

namespace Detector

/-- The error of an outcome, if it is a failure. -/
def errorOf? (d : Detector) : Outcome → Option DetectionError
  | .found _ => none
  | .failed e => some e
  | .crashed reason => some (.crash d.id (reason.getD noReason))

/-- The failure of a detector on a node. -/
def errorAt? (d : Detector) (s : Site) (n : Node) : Option DetectionError :=
  d.errorOf? (d.evaluate s n)

/-- The wording of a failure. -/
def faultMessage (d : Detector) (n : Node) (e : DetectionError) : String :=
  "Detector '" ++ d.id ++ "' failed on " ++ n.kind.name ++ " node: " ++ e.message

/-- A failure counts as one finding, whatever its cause. -/
theorem findings_of_errorAt {d : Detector} {s : Site} {n : Node} {err : DetectionError}
    (h : d.errorAt? s n = some err) :
    d.findings s n (d.evaluate s n) = [d.faultFinding s n err] := by
  unfold errorAt? at h
  cases ho : d.evaluate s n with
  | found fs => simp [ho, errorOf?] at h
  | failed e =>
    obtain rfl : e = err := by simpa [ho, errorOf?] using h
    rfl
  | crashed reason =>
    obtain rfl : .crash d.id (reason.getD noReason) = err := by simpa [ho, errorOf?] using h
    rfl

theorem findings_congr {d d' : Detector} (h : d'.rule = d.rule) (s : Site) (n : Node)
    (o : Outcome) : d'.findings s n o = d.findings s n o := by
  cases o <;> simp [findings, faultFinding, id, h]

end Detector

/-- The finding that is reported for a failure, in the place that its node has in the text. -/
structure Finding.IsFault (f : Finding) (u : SourceUnit) (n : Node) (message : String) : Prop where
  ruleId : f.ruleId = "internal/detector-fault"
  severity : f.severity = .low
  category : f.category = .internal
  file : f.file = u.path
  span : f.span = u.clamp n.span
  message : f.message = message

theorem Engine.isFault_finalize (e : Engine) (u : SourceUnit) (d : Detector) (v : Visit)
    (err : DetectionError) :
    (e.finalize u (d.faultFinding (v.site u) v.node err)).IsFault u v.node
      (d.faultMessage v.node err) := by
  obtain ⟨snippet, h⟩ := e.finalize_eq u (d.faultFinding (v.site u) v.node err)
  rw [h]
  exact ⟨rfl, rfl, rfl, rfl, rfl, rfl⟩

/-! ## Blocks -/

/-- The findings of one detector at one visit. -/
structure Block where
  visit : Visit
  /-- The place of the detector in the order of registration. -/
  slot : Nat
  findings : List Finding

namespace Engine

/-- What a detector gives at a visit. -/
def contribution (e : Engine) (u : SourceUnit) (v : Visit) (d : Detector) : List Finding :=
  (d.findings (v.site u) v.node (d.evaluate (v.site u) v.node)).map (e.finalize u)

theorem contribution_of_errorAt (e : Engine) {u : SourceUnit} {v : Visit} {d : Detector}
    {err : DetectionError} (h : d.errorAt? (v.site u) v.node = some err) :
    e.contribution u v d = [e.finalize u (d.faultFinding (v.site u) v.node err)] := by
  rw [contribution, Detector.findings_of_errorAt h, List.map_singleton]

/-- The blocks of a visit: one for each detector that is asked about nodes of the kind. -/
def blocksAt (e : Engine) (u : SourceUnit) (v : Visit) : List Block :=
  (e.registry.detectors.zipIdx.filter fun (d, _) => d.kinds.contains v.node.kind).map
    fun (d, j) => ⟨v, j, e.contribution u v d⟩

/-- The blocks of a tree, visit after visit. -/
def blocks (e : Engine) (u : SourceUnit) (root : Node) : List Block :=
  root.visits.flatMap (e.blocksAt u)

theorem flatMap_findings_blocksAt (e : Engine) (u : SourceUnit) (v : Visit) :
    (e.blocksAt u v).flatMap (·.findings) = e.findingsAt (v.site u) v.node := by
  have hfilter : e.registry.detectorsFor v.node.kind =
      (e.registry.detectors.zipIdx.filter fun (d, _) => d.kinds.contains v.node.kind).map
        Prod.fst := by
    calc e.registry.detectorsFor v.node.kind
        = (e.registry.detectors.zipIdx.map Prod.fst).filter (·.kinds.contains v.node.kind) := by
          rw [List.zipIdx_map_fst, Registry.detectorsFor_eq]
      _ = _ := List.filter_map
  rw [blocksAt, List.flatMap_map, findingsAt, hfilter, List.flatMap_map]
  rfl

theorem flatMap_findings_blocks (e : Engine) (u : SourceUnit) (root : Node) :
    (e.blocks u root).flatMap (·.findings) =
      root.visits.flatMap fun v => e.findingsAt (v.site u) v.node := by
  rw [blocks, List.flatMap_assoc]
  simp only [flatMap_findings_blocksAt]

end Engine

/-! ## Exchanging a detector -/

/-- The block with one finding in place of its own, if it is a block of slot `i` at one of the
positions `F`. -/
def Block.withFault (i : Nat) (F : Set (List Nat)) [DecidablePred (· ∈ F)]
    (fault : Visit → Finding) (b : Block) : Block :=
  if b.slot = i ∧ b.visit.path ∈ F then { b with findings := [fault b.visit] } else b

theorem zipIdx_set {α : Type*} (xs : List α) (i : Nat) (a : α) :
    (xs.set i a).zipIdx = xs.zipIdx.map fun (x, j) => (if j = i then a else x, j) := by
  refine List.ext_getElem? fun j => ?_
  rw [List.getElem?_zipIdx, List.getElem?_set', List.getElem?_map, List.getElem?_zipIdx]
  by_cases hij : i = j
  · subst hij
    cases xs[i]? <;> simp
  · cases xs[j]? <;> simp [hij, Ne.symm hij]

namespace Engine

section Exchange

variable {ds : List Detector} {i : Nat} {d d' : Detector}

theorem mem_blocksAt {e : Engine} {u : SourceUnit} {v : Visit} {b : Block}
    (hb : b ∈ e.blocksAt u v) : ∃ d, e.registry.detectors[b.slot]? = some d ∧ b.visit = v ∧
      b.findings = e.contribution u v d := by
  obtain ⟨⟨d, j⟩, hj, rfl⟩ := List.mem_map.1 hb
  exact ⟨d, List.mk_mem_zipIdx_iff_getElem?.1 (List.mem_of_mem_filter hj), rfl, rfl⟩

/-- The blocks at one visit, when the detector in slot `i` is exchanged for one of the same kinds:
those of slot `i` hold what the other detector gives. -/
theorem blocksAt_set (hi : ds[i]? = some d) (hkinds : d'.kinds = d.kinds) (snippets : Bool)
    (u : SourceUnit) (v : Visit) :
    blocksAt ⟨⟨ds.set i d'⟩, snippets⟩ u v =
      (blocksAt ⟨⟨ds⟩, snippets⟩ u v).map fun b =>
        if b.slot = i then
          { b with findings := contribution ⟨⟨ds⟩, snippets⟩ u v d' }
        else b := by
  let exchange : Detector × Nat → Detector × Nat := fun (x, j) => (if j = i then d' else x, j)
  let asked : Detector × Nat → Bool := fun (x, _) => x.kinds.contains v.node.kind
  -- The exchange does not change which detectors are asked.
  have hasked : ∀ x ∈ ds.zipIdx, asked (exchange x) = asked x := by
    rintro ⟨x, j⟩ hx
    by_cases hj : j = i
    · subst hj
      obtain rfl : d = x := Option.some.inj (hi.symm.trans (List.mk_mem_zipIdx_iff_getElem?.1 hx))
      simp [asked, exchange, hkinds]
    · simp [asked, exchange, hj]
  have hfilter : ((ds.set i d').zipIdx.filter asked) = (ds.zipIdx.filter asked).map exchange := by
    rw [zipIdx_set, List.filter_map]
    exact congrArg (List.map exchange) (List.filter_congr hasked)
  show ((ds.set i d').zipIdx.filter asked).map _ = ((ds.zipIdx.filter asked).map _).map _
  rw [hfilter, List.map_map, List.map_map]
  refine List.map_congr_left fun ⟨x, j⟩ _ => ?_
  by_cases hj : j = i
  · simp only [Function.comp_apply, exchange, if_pos hj]
    rfl
  · simp only [Function.comp_apply, exchange, if_neg hj]
    rfl

/-- The blocks at one visit, when the exchanged detector agrees outside `F` and fails on `F`. -/
theorem blocksAt_withFault (hi : ds[i]? = some d) (hrule : d'.rule = d.rule)
    (hkinds : d'.kinds = d.kinds) (snippets : Bool) (u : SourceUnit) (F : Set (List Nat))
    [DecidablePred (· ∈ F)] {fault : Visit → Finding} {v : Visit}
    (hout : v.path ∉ F → d'.evaluate (v.site u) v.node = d.evaluate (v.site u) v.node)
    (hin : v.path ∈ F → contribution ⟨⟨ds⟩, snippets⟩ u v d' = [fault v]) :
    blocksAt ⟨⟨ds.set i d'⟩, snippets⟩ u v =
      (blocksAt ⟨⟨ds⟩, snippets⟩ u v).map (Block.withFault i F fault) := by
  rw [blocksAt_set hi hkinds]
  refine List.map_congr_left fun b hb => ?_
  obtain ⟨x, hx, rfl, hfindings⟩ := mem_blocksAt hb
  by_cases hslot : b.slot = i
  · have hxd : x = d := Option.some.inj (hx.symm.trans (hslot ▸ hi))
    rw [if_pos hslot, Block.withFault]
    by_cases hF : b.visit.path ∈ F
    · rw [if_pos ⟨hslot, hF⟩, hin hF]
    · have hsame : contribution ⟨⟨ds⟩, snippets⟩ u b.visit d' = b.findings := by
        rw [hfindings, hxd, contribution, contribution, hout hF, Detector.findings_congr hrule]
      rw [if_neg (fun h => hF h.2), hsame]
  · rw [if_neg hslot, Block.withFault, if_neg fun h => hslot h.1]

/-- The blocks of a tree, when the exchanged detector agrees outside `F` and fails on `F`. -/
theorem blocks_withFault (hi : ds[i]? = some d) (hrule : d'.rule = d.rule)
    (hkinds : d'.kinds = d.kinds) (snippets : Bool) (u : SourceUnit) (root : Node)
    (F : Set (List Nat)) [DecidablePred (· ∈ F)] {fault : Visit → Finding}
    (hout : ∀ v ∈ root.visits, v.path ∉ F →
      d'.evaluate (v.site u) v.node = d.evaluate (v.site u) v.node)
    (hin : ∀ v ∈ root.visits, v.path ∈ F →
      contribution ⟨⟨ds⟩, snippets⟩ u v d' = [fault v]) :
    blocks ⟨⟨ds.set i d'⟩, snippets⟩ u root =
      (blocks ⟨⟨ds⟩, snippets⟩ u root).map (Block.withFault i F fault) := by
  rw [blocks, blocks, List.map_flatMap]
  exact List.flatMap_congr fun v hv =>
    blocksAt_withFault hi hrule hkinds snippets u F (hout v hv) (hin v hv)

/-- **A detector that fails costs only its own findings.** Let the second registry be the first with
the detector in slot `i` exchanged for one of the same rule and kinds, which agrees with it outside
the positions `F` and fails on `F`. The second report is the first one with each block of slot
`i` at a node of `F` replaced by the one finding that stands for the failure. -/
theorem analyze_isolates_faults (hi : ds[i]? = some d) (hrule : d'.rule = d.rule)
    (hkinds : d'.kinds = d.kinds) (snippets : Bool) {u : SourceUnit} {root : Node}
    (hu : u.tree = .ok root) (F : Set (List Nat)) [DecidablePred (· ∈ F)]
    (hout : ∀ v ∈ root.visits, v.path ∉ F →
      d'.evaluate (v.site u) v.node = d.evaluate (v.site u) v.node)
    (hin : ∀ v ∈ root.visits, v.path ∈ F → (d'.errorAt? (v.site u) v.node).isSome)
    {t : Interrupts} (hc : ∀ j, t.cancelled j = false) (ht : t.timeoutMs = none) :
    let before : Engine := ⟨⟨ds⟩, snippets⟩
    let after : Engine := ⟨⟨ds.set i d'⟩, snippets⟩
    ∃ fault : Visit → Finding,
      (∀ v ∈ root.visits, v.path ∈ F → ∃ err, d'.errorAt? (v.site u) v.node = some err ∧
        (fault v).IsFault u v.node (d'.faultMessage v.node err)) ∧
      (before.analyze u t).findings = (before.blocks u root).flatMap (·.findings) ∧
      after.analyze u t =
        { before.analyze u t with
          findings :=
            ((before.blocks u root).map (Block.withFault i F fault)).flatMap (·.findings) } ∧
      (after.analyze u t).truncated = false := by
  intro before after
  let fault : Visit → Finding := fun v =>
    before.finalize u
      (d'.faultFinding (v.site u) v.node ((d'.errorAt? (v.site u) v.node).getD default))
  have hfault : ∀ v ∈ root.visits, v.path ∈ F →
      ∃ err, d'.errorAt? (v.site u) v.node = some err ∧
        fault v = before.finalize u (d'.faultFinding (v.site u) v.node err) := by
    intro v hv hF
    obtain ⟨err, herr⟩ := Option.isSome_iff_exists.1 (hin v hv hF)
    exact ⟨err, herr, by simp [fault, herr]⟩
  -- `fault` is defined on every visit, but only its values on `F` go into the blocks.
  have hblocks : after.blocks u root =
      (before.blocks u root).map (Block.withFault i F fault) := by
    refine blocks_withFault hi hrule hkinds snippets u root F hout fun v hv hF => ?_
    obtain ⟨err, herr, hv'⟩ := hfault v hv hF
    rw [hv', contribution_of_errorAt _ herr]
  have hno : ∀ j < root.size, t.stops j = false := fun j _ =>
    Interrupts.stops_of_never_cancelled hc ht j
  rw [before.analyze_complete hu hno, after.analyze_complete hu hno]
  refine ⟨fault, fun v hv hF => ?_, ?_, ?_, rfl⟩
  · obtain ⟨err, herr, hv'⟩ := hfault v hv hF
    exact ⟨err, herr, hv' ▸ before.isFault_finalize u d' v err⟩
  · rw [flatMap_findings_blocks]
    rfl
  · rw [← hblocks, flatMap_findings_blocks]
    rfl

/-- A detector that reports the names of identifiers. -/
def nameDetector : Detector :=
  let rule : Rule := ⟨"sample/name", .low, .quality, "Name of a node"⟩
  .reporting rule [.identifier] fun s n => [s.finding rule n n.nameText]

/-- The detector of paths, without an answer on the identifier `a`. -/
def shyDetector : Detector :=
  { pathDetector with
    evaluate := fun s n =>
      if n.isIdentifier "a" then .crashed none else pathDetector.evaluate s n }

/-- The position of the identifier `a`. -/
def firstLeaf : Set (List Nat) := {path | path = [0, 0]}

instance : DecidablePred (· ∈ firstLeaf) := fun path =>
  inferInstanceAs (Decidable (path = [0, 0]))

/-- The failure stands between the findings of its neighbours, and the other detector is heard on
the same node. -/
theorem analyze_isolates_faults_fork :
    let before : Engine := ⟨⟨[pathDetector, nameDetector]⟩, true⟩
    let after : Engine := ⟨⟨[shyDetector, nameDetector]⟩, true⟩
    (∀ v ∈ forkTree.visits, v.path ∉ firstLeaf → shyDetector.evaluate (v.site forkUnit) v.node =
      pathDetector.evaluate (v.site forkUnit) v.node) ∧
    (∀ v ∈ forkTree.visits, v.path ∈ firstLeaf →
      (shyDetector.errorAt? (v.site forkUnit) v.node).isSome) ∧
    (∃ fault : Visit → Finding, (after.analyze forkUnit .never).findings =
      ((before.blocks forkUnit forkTree).map (Block.withFault 0 firstLeaf fault)).flatMap
        (·.findings)) ∧
    (after.analyze forkUnit .never).findings.map (·.ruleId) =
      ["sample/path", "internal/detector-fault", "sample/name", "sample/path", "sample/name",
        "sample/path", "sample/name"] := by
  intro before after
  have hout : ∀ v ∈ forkTree.visits, v.path ∉ firstLeaf →
      shyDetector.evaluate (v.site forkUnit) v.node =
        pathDetector.evaluate (v.site forkUnit) v.node := by
    decide +kernel
  have hin : ∀ v ∈ forkTree.visits, v.path ∈ firstLeaf →
      (shyDetector.errorAt? (v.site forkUnit) v.node).isSome := by
    decide +kernel
  have hi : [pathDetector, nameDetector][0]? = some pathDetector := rfl
  have hrule : shyDetector.rule = pathDetector.rule := rfl
  have hisolated := analyze_isolates_faults hi hrule rfl true (u := forkUnit) rfl firstLeaf hout hin
    (t := .never) (fun _ => rfl) rfl
  obtain ⟨fault, -, -, hafter, -⟩ := hisolated
  refine ⟨hout, hin, ⟨fault, congrArg FileReport.findings hafter⟩, ?_⟩
  rw [after.analyze_complete (u := forkUnit) rfl fun _ _ => rfl]
  decide +kernel

end Exchange

end Engine

/-! ## Failures in the report of a run -/

namespace Pipeline

/-- What a run finds, before it is put together. -/
def rawFindings (p : Pipeline) (jobs : List Job) : List Finding :=
  jobs.flatMap fun j => (p.analyzeUnit j).findings

/-- The visits of the walk of a job. -/
def visited (p : Pipeline) (j : Job) : List Visit :=
  match j.unit.tree with
  | .ok root => root.visits.take (p.analyzeUnit j).metrics.nodeCount
  | .error _ => []

/-- Without a time limit every node is visited unless someone cancels. -/
theorem visited_of_no_timeout {p : Pipeline} (ht : p.settings.analysis.fileTimeoutMs = none)
    {j : Job} (hc : ∀ i, j.cancelled i = false) {root : Node} (hu : j.unit.tree = .ok root) :
    p.visited j = root.visits := by
  have hno : ∀ i, (p.interrupts j).stops i = false := Interrupts.stops_of_never_cancelled hc ht
  simp only [visited, hu, analyzeUnit, p.engine.analyze_complete hu fun i _ => hno i]
  exact List.take_length

theorem contribution_subset_rawFindings {p : Pipeline} {jobs : List Job} {j : Job}
    (hj : j ∈ jobs) {v : Visit} (hv : v ∈ p.visited j) {d : Detector}
    (hd : d ∈ p.registry.detectorsFor v.node.kind) :
    p.engine.contribution j.unit v d ⊆ p.rawFindings jobs := by
  intro f hf
  cases htree : j.unit.tree with
  | error e => simp [visited, htree] at hv
  | ok root =>
    obtain ⟨truncated, hreport⟩ := p.engine.analyze_eq_counted htree (p.interrupts j)
    simp only [visited, htree] at hv
    refine List.mem_flatMap.2 ⟨j, hj, ?_⟩
    rw [analyzeUnit, hreport]
    exact List.mem_flatMap.2 ⟨v, hv, List.mem_flatMap.2 ⟨d, hd, hf⟩⟩

/-- The key of the failures at a visit. They share it, whichever detector failed. -/
def faultKey (u : SourceUnit) (v : Visit) : Finding.Key :=
  ⟨Detector.faultRule.id, u.path, u.clamp v.node.span⟩

theorem key_finalize_faultFinding (e : Engine) (u : SourceUnit) (v : Visit) (d : Detector)
    (err : DetectionError) :
    (e.finalize u (d.faultFinding (v.site u) v.node err)).key = faultKey u v := by
  obtain ⟨hrule, -, -, hfile, hspan, -⟩ := e.isFault_finalize u d v err
  rw [Finding.key, hrule, hfile, hspan]
  rfl

/-- Where a detector failed there is a first finding with the key of the failure. -/
theorem exists_first_fault {p : Pipeline} {jobs : List Job} {j : Job} (hj : j ∈ jobs) {v : Visit}
    (hv : v ∈ p.visited j) {d : Detector} (hd : d ∈ p.registry.detectorsFor v.node.kind)
    {err : DetectionError} (herr : d.errorAt? (v.site j.unit) v.node = some err) :
    ∃ first, (p.rawFindings jobs).find? (·.key == faultKey j.unit v) = some first := by
  let fault := p.engine.finalize j.unit (d.faultFinding (v.site j.unit) v.node err)
  have hraw : fault ∈ p.rawFindings jobs := by
    refine contribution_subset_rawFindings hj hv hd ?_
    rw [p.engine.contribution_of_errorAt herr]
    exact List.mem_singleton_self fault
  have hkey : fault.key = faultKey j.unit v := key_finalize_faultFinding p.engine j.unit v d err
  exact Option.isSome_iff_exists.1 (List.find?_isSome.2 ⟨fault, hraw, by simp [hkey]⟩)

theorem run_eq (p : Pipeline) (jobs : List Job) (suppressions : List Suppression) :
    ∃ report, p.run false jobs suppressions = .ok report ∧
      report.findings = (aggregate (p.rawFindings jobs) suppressions).findings := by
  refine ⟨_, rfl, ?_⟩
  rw [RunReport.ofReports, List.flatMap_map]
  rfl

/-- **Which failures a run reports.** In a run without suppressions, let a detector fail on a
visited node. Of all raw findings with the key of that failure, the final list holds the first and
no other. So the failure is reported in its own words iff the first of them has these words. This
is so however long the walks take; every node is visited where nobody cancels and there is no time
limit. -/
theorem fault_reported_iff (p : Pipeline) (jobs : List Job) :
    (p.settings.analysis.fileTimeoutMs = none → ∀ j : Job, (∀ i, j.cancelled i = false) →
      ∀ root, j.unit.tree = .ok root → p.visited j = root.visits) ∧
    ∃ report, p.run false jobs [] = .ok report ∧
      ∀ j ∈ jobs, ∀ v ∈ p.visited j, ∀ d ∈ p.registry.detectorsFor v.node.kind, ∀ err,
        d.errorAt? (v.site j.unit) v.node = some err →
        ∃ first, (p.rawFindings jobs).find? (·.key == faultKey j.unit v) = some first ∧
          (∀ f, f ∈ report.findings ∧ f.key = faultKey j.unit v ↔ f = first) ∧
          ((∃ f ∈ report.findings, f.key = faultKey j.unit v ∧
              f.message = d.faultMessage v.node err) ↔
            first.message = d.faultMessage v.node err) := by
  refine ⟨fun ht j hc root hu => visited_of_no_timeout ht hc hu, ?_⟩
  obtain ⟨report, hrun, hreport⟩ := p.run_eq jobs []
  refine ⟨report, hrun, fun j hj v hv d hd err herr => ?_⟩
  obtain ⟨first, hfirst⟩ := exists_first_fault hj hv hd herr
  have hmem : ∀ f, f ∈ report.findings ∧ f.key = faultKey j.unit v ↔ f = first := by
    intro f
    rw [hreport]
    exact mem_aggregate_key_iff (by rwa [filter_isSuppressed_nil])
  refine ⟨first, hfirst, hmem, ?_⟩
  constructor
  · rintro ⟨f, hf, hkey, hmessage⟩
    rwa [← (hmem f).1 ⟨hf, hkey⟩]
  · intro hmessage
    obtain ⟨hf, hkey⟩ := (hmem first).2 rfl
    exact ⟨first, hf, hkey, hmessage⟩

/-- A detector that fails on every program. -/
def brokenDetector (id : String) : Detector :=
  ⟨⟨id, .low, .quality, "Broken"⟩, [.program], fun _ _ => .failed (.fault id "broken")⟩

/-- The only node of the unit on which two detectors fail. -/
def brokenVisit : Visit := ⟨[], [], .leaf .program ⟨1, 1, 1, 2⟩⟩

def brokenUnit : SourceUnit := .parsed "x.js" "x" brokenVisit.node

/-- That unit in a run that nobody cancels. -/
def brokenJob : Job := ⟨brokenUnit, fun _ => false, fun i => 3 * i⟩

def brokenPipeline : Pipeline :=
  ⟨⟨[brokenDetector "sample/a", brokenDetector "sample/b"]⟩, {}, .high⟩

theorem visited_brokenJob : brokenPipeline.visited brokenJob = [brokenVisit] := by
  have htree : brokenJob.unit.tree = .ok brokenVisit.node := rfl
  rw [visited_of_no_timeout rfl (fun _ => rfl) htree]
  rfl

theorem find?_rawFindings_broken :
    ((brokenPipeline.rawFindings [brokenJob]).find?
      (·.key == faultKey brokenUnit brokenVisit)).map (·.message) =
      some "Detector 'sample/a' failed on program node: Detector sample/a failed: broken" := by
  have hanalyze : brokenPipeline.analyzeUnit brokenJob =
      brokenPipeline.engine.reportOn brokenUnit brokenVisit.node.visits false :=
    brokenPipeline.engine.analyze_complete rfl fun _ _ => rfl
  rw [rawFindings, List.flatMap_singleton, hanalyze]
  decide +kernel

/-- Of two detectors that fail on one node, the first is reported. -/
theorem fault_reported_first :
    ∃ report, brokenPipeline.run false [brokenJob] [] = .ok report ∧
      ∃ f ∈ report.findings, f.key = faultKey brokenUnit brokenVisit ∧
        f.message = (brokenDetector "sample/a").faultMessage brokenVisit.node
          (.fault "sample/a" "broken") := by
  obtain ⟨-, report, hrun, hall⟩ := fault_reported_iff brokenPipeline [brokenJob]
  obtain ⟨first, hfirst, -, hiff⟩ := hall brokenJob (by simp) brokenVisit
    (by simp [visited_brokenJob]) (brokenDetector "sample/a")
    (by simp [brokenPipeline, Registry.detectorsFor_eq, brokenDetector, brokenVisit, Node.leaf])
    (.fault "sample/a" "broken") rfl
  refine ⟨report, hrun, hiff.2 ?_⟩
  have hmessage := find?_rawFindings_broken
  rw [show faultKey brokenUnit brokenVisit = faultKey brokenJob.unit brokenVisit from rfl,
    hfirst] at hmessage
  exact (Option.some.inj hmessage).trans (by decide +kernel)

/-- Of two detectors that fail on one node, the second is not reported. -/
theorem second_fault_lost :
    brokenVisit ∈ brokenPipeline.visited brokenJob ∧
    brokenDetector "sample/b" ∈ brokenPipeline.registry.detectorsFor brokenVisit.node.kind ∧
    (brokenDetector "sample/b").errorAt? (brokenVisit.site brokenUnit) brokenVisit.node =
      some (.fault "sample/b" "broken") ∧
    ∃ report, brokenPipeline.run false [brokenJob] [] = .ok report ∧
      ¬ ∃ f ∈ report.findings, f.key = faultKey brokenUnit brokenVisit ∧
        f.message = (brokenDetector "sample/b").faultMessage brokenVisit.node
          (.fault "sample/b" "broken") := by
  obtain ⟨report, hrun, hreport⟩ := brokenPipeline.run_eq [brokenJob] []
  refine ⟨by simp [visited_brokenJob],
    by simp [brokenPipeline, Registry.detectorsFor_eq, brokenDetector, brokenVisit, Node.leaf], rfl,
    report, hrun, ?_⟩
  rintro ⟨f, hf, hkey, hmessage⟩
  rw [hreport, mem_aggregate_iff, filter_isSuppressed_nil, hkey] at hf
  have hfirst := find?_rawFindings_broken
  rw [hf, Option.map_some, hmessage] at hfirst
  revert hfirst
  decide +kernel

end Pipeline

end TreeLint
