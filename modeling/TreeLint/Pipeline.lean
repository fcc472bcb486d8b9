import TreeLint.Report.Run

/-!
# Runs over many units

A pipeline holds the registry, the settings and the gate of a run. Units are analyzed on their
own, so their reports do not depend on the order in which that happens; each unit hears on its
own when it should stop. A run that is cancelled before it starts gives no report, one that is
cancelled later gives the reports that there are by then.

When that is, and how long each walk takes, is for the surroundings to say: a job holds a unit
together with the answers that its walk gets.

A token is the way to cancel: someone raises it between runs, or while a node is visited, and
every later question is answered with yes.
-/

namespace TreeLint

/-- A unit to analyze, and what its walk is told before each node. -/
structure Job where
  unit : SourceUnit
  /-- Whether the run is cancelled by then. -/
  cancelled : Nat → Bool
  /-- The time since the walk began. -/
  elapsedMs : Nat → Nat

/-- The means to run an analysis. -/
structure Pipeline where
  registry : Registry
  settings : Settings
  /-- The lowest severity that fails a run. -/
  gate : Severity

namespace Pipeline

/-- A pipeline with a given registry; the settings have to name a severity as gate. -/
def new (registry : Registry) (settings : Settings) : Except PipelineError Pipeline :=
  let name := settings.analysis.gateName
  match Severity.ofName? name with
  | some gate => .ok ⟨registry, settings, gate⟩
  | none => .error (.settings (.invalid "analysis.fail_on" (Severity.unknownMessage name)))

/-- A pipeline with the built-in detectors. -/
def ofSettings (settings : Settings) : Except PipelineError Pipeline :=
  match Registry.ofSettings settings with
  | .ok registry => new registry settings
  | .error e => .error (.registry e)

def engine (p : Pipeline) : Engine := ⟨p.registry, p.settings.analysis.showsSnippets⟩

/-- What stops the walk of a job: that it is cancelled, or the time limit of the settings. -/
def interrupts (p : Pipeline) (j : Job) : Interrupts where
  cancelled := j.cancelled
  timeoutMs := p.settings.analysis.fileTimeoutMs
  elapsedMs := j.elapsedMs

def analyzeUnit (p : Pipeline) (j : Job) : FileReport := p.engine.analyze j.unit (p.interrupts j)

/-- A run over jobs. The threads that share the work do not show here, and neither does
`PipelineError.threadPool`, the answer where they cannot be had. -/
def run (p : Pipeline) (cancelledBefore : Bool) (jobs : List Job)
    (suppressions : List Suppression) : Except PipelineError RunReport :=
  if cancelledBefore then .error .cancelled
  else .ok (.ofReports (jobs.map p.analyzeUnit) suppressions p.gate)

end Pipeline

/-! ## Tokens -/

/-- A token, and the nodes at whose visit someone raises it. -/
structure Token where
  raised : Bool := false
  raisedAt : Node → Bool := fun _ => false

namespace Token

/-- The nodes of a unit in the order of visits. -/
def visits (u : SourceUnit) : List Node := u.root?.elim [] fun n => n :: n.descendants

/-- The answers that the walk over a unit hears: yes from the node on after which the token was
raised. -/
def answers (t : Token) (u : SourceUnit) : Nat → Bool :=
  let asks := (visits u).map t.raisedAt
  fun i => t.raised || (asks.take i).any id

/-- The token after the first `count` nodes of a unit were visited. -/
def afterVisits (t : Token) (u : SourceUnit) (count : Nat) : Token :=
  { t with raised := t.raised || ((visits u).take count).any t.raisedAt }

/-- The reports on units that are analyzed one after the other, each with its clock, and the token
after that. -/
def analyzeInOrder (t : Token) (p : Pipeline) (clock : SourceUnit → Nat → Nat) :
    List SourceUnit → List FileReport × Token
  | [] => ([], t)
  | u :: us =>
    let report := p.analyzeUnit ⟨u, t.answers u, clock u⟩
    let (reports, last) := (t.afterVisits u report.metrics.nodeCount).analyzeInOrder p clock us
    (report :: reports, last)

/-- A run over units one after the other, and the token after it. -/
def run (t : Token) (p : Pipeline) (clock : SourceUnit → Nat → Nat) (units : List SourceUnit)
    (suppressions : List Suppression) : Except PipelineError RunReport × Token :=
  if t.raised then (.error .cancelled, t)
  else
    let (reports, last) := t.analyzeInOrder p clock units
    (.ok (.ofReports reports suppressions p.gate), last)

end Token

end TreeLint
