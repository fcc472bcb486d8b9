import TreeLint.Registry
import TreeLint.Tree.Scope

/-!
# Analysis of one unit

One walk goes over the tree of a unit, each node before its children and the children in
declaration order, and asks at each node the detectors for its kind. The walk keeps a list of
pending nodes with their depths, and the trail of nodes from the last visited one up to the root;
the trail is cut back to the depth of the node whose turn it is, which leaves its ancestors.

Before each node the walk asks whether it should stop. If so, the report holds what was found
until then and is marked as truncated. A detector that fails costs nothing but its own answer:
the failure becomes a finding at the node.
-/

namespace TreeLint

/-! ## Reports on files -/

/-- Sizes of a unit. -/
structure FileMetrics where
  linesOfCode : Nat := 0
  nodeCount : Nat := 0
  /-- One for each method, constructor and function, and one for each of their decisions. -/
  cyclomaticComplexity : Nat := 0
deriving DecidableEq, Inhabited, Repr

/-- What came of one unit, before findings are put together. -/
structure FileReport where
  file : String
  findings : List Finding := []
  /-- The walk stopped early. -/
  truncated : Bool := false
  /-- Why there was no tree. -/
  parseFailure : Option String := none
  metrics : FileMetrics := {}
deriving DecidableEq, Inhabited, Repr

/-- Whether the whole tree was looked at. -/
def FileReport.isComplete (r : FileReport) : Bool := !r.truncated && r.parseFailure.isNone

/-! ## Reasons to stop -/

/-- What the walk is told before each node: the answers are numbered from 0. -/
structure Interrupts where
  /-- Whether someone asked to stop. -/
  cancelled : Nat → Bool := fun _ => false
  /-- How long the walk may take. -/
  timeoutMs : Option Nat := none
  /-- How long the walk has taken. -/
  elapsedMs : Nat → Nat := fun _ => 0

/-- Whether the walk stops before the node with number `i`. -/
def Interrupts.stops (t : Interrupts) (i : Nat) : Bool :=
  t.cancelled i || t.timeoutMs.any (· ≤ t.elapsedMs i)

/-! ## Single nodes -/

/-- What a run of the engine depends on. -/
structure Engine where
  registry : Registry
  /-- Whether findings show their source line. -/
  snippets : Bool := true

namespace Engine

/-- A finding as it is reported: inside the text, and with its source line if it has none. -/
def finalize (e : Engine) (u : SourceUnit) (f : Finding) : Finding :=
  let f := if u.contains f.span then f else { f with span := u.clamp f.span }
  if e.snippets && f.snippet.isNone then
    match (u.lineText? f.span.startLine).map Text.trim with
    | some (c :: line) => { f with snippet := some (String.ofList (c :: line)) }
    | _ => f
  else f

/-- The findings at one node. -/
def findingsAt (e : Engine) (s : Site) (n : Node) : List Finding :=
  (e.registry.detectorsFor n.kind).flatMap fun d =>
    (d.findings s n (d.evaluate s n)).map (e.finalize s.unit)

end Engine

/-- Whether the complexity of a file counts the node. -/
def Node.isMeasured (n : Node) : Bool :=
  match n.kind with
  | .method | .constructor | .function => true
  | _ => false

theorem Node.isMeasured_iff {n : Node} :
    n.isMeasured = true ↔ n.kind = .method ∨ n.kind = .constructor ∨ n.kind = .function := by
  rw [isMeasured]
  cases n.kind <;> simp

/-- What the node adds to the complexity of its file. -/
def Node.complexity (n : Node) : Nat := if n.isMeasured then 1 + n.decisionPoints else 0

/-! ## The walk -/

/-- A node whose turn will come. -/
structure Pending where
  node : Node
  /-- The number of its ancestors. -/
  depth : Nat
  /-- Its position among the children of its parent. -/
  index : Nat

/-- What a walk has gathered. -/
structure Gathered where
  findings : List Finding := []
  nodeCount : Nat := 0
  complexity : Nat := 0
  truncated : Bool := false
deriving DecidableEq, Inhabited, Repr

/-- The last `depth` entries of a trail that starts at the nearest node. -/
def cutTrail (depth : Nat) (trail : List Node) : List Node := trail.drop (trail.length - depth)

/-- The children of a node as pending nodes. -/
def Pending.children (p : Pending) : List Pending :=
  p.node.children.zipIdx.map fun ((_, c), i) => ⟨c, p.depth + 1, i⟩

/-- The number of nodes below and at pending nodes. -/
def Pending.sizeSum (ps : List Pending) : Nat := Node.sizeSum (ps.map (·.node))

theorem Pending.sizeSum_children_lt (p : Pending) : sizeSum p.children < p.node.size := by
  have h : p.children.map (·.node) = p.node.subnodes := by
    calc p.children.map (·.node)
        = (p.node.children.zipIdx.map Prod.fst).map (·.2) := by
          simp only [Pending.children, List.map_map, Function.comp_def]
      _ = p.node.subnodes := by rw [List.zipIdx_map_fst, Node.subnodes]
  rw [sizeSum, h]
  exact p.node.sizeSum_subnodes_lt

namespace Engine

/-- The walk over the pending nodes, of which the first is the node with number `i`. -/
def walk (e : Engine) (u : SourceUnit) (t : Interrupts) :
    (i : Nat) → (trail : List Node) → List Pending → Gathered
  | _, _, [] => {}
  | i, trail, p :: rest =>
    if t.stops i then { truncated := true }
    else
      let ancestors := cutTrail p.depth trail
      let here := e.findingsAt ⟨u, ancestors, p.index⟩ p.node
      let after := walk e u t (i + 1) (p.node :: ancestors) (p.children ++ rest)
      { after with
        findings := here ++ after.findings
        nodeCount := after.nodeCount + 1
        complexity := p.node.complexity + after.complexity }
termination_by _ _ ps => Pending.sizeSum ps
decreasing_by
  have := p.sizeSum_children_lt
  simp only [Pending.sizeSum, List.map_append, List.map_cons, Node.sizeSum,
    Node.sizeSum_append] at this ⊢
  omega

/-- The report on a unit. A unit without tree has no findings. -/
def analyze (e : Engine) (u : SourceUnit) (t : Interrupts) : FileReport :=
  match u.tree with
  | .error err =>
    { file := u.path
      parseFailure := some err.message
      metrics := { linesOfCode := u.linesOfCode } }
  | .ok root =>
    let g := e.walk u t 0 [] [⟨root, 0, 0⟩]
    { file := u.path
      findings := g.findings
      truncated := g.truncated
      metrics :=
        { linesOfCode := u.linesOfCode
          nodeCount := g.nodeCount
          cyclomaticComplexity := g.complexity } }

end Engine

end TreeLint
