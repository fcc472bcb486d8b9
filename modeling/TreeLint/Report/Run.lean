import TreeLint.Analysis
import TreeLint.Report.Aggregate

/-!
# Reports on runs

The report on a run is the final list of findings, a summary of each file, and the severity from
which on a finding fails the run.
-/

namespace TreeLint

/-- What is said of one file. -/
structure FileSummary where
  file : String
  truncated : Bool
  parseFailure : Option String
  linesOfCode : Nat
  cyclomaticComplexity : Nat
deriving DecidableEq, Inhabited, Repr

/-- The summary of a file's report. -/
def FileSummary.ofReport (r : FileReport) : FileSummary :=
  { file := r.file
    truncated := r.truncated
    parseFailure := r.parseFailure
    linesOfCode := r.metrics.linesOfCode
    cyclomaticComplexity := r.metrics.cyclomaticComplexity }

/-- Whether a run passed. -/
inductive RunStatus where
  | clean | gateFailed
deriving DecidableEq, Inhabited, Repr

/-- The name of a status in reports. -/
def RunStatus.name : RunStatus → String
  | .clean => "clean"
  | .gateFailed => "gate_failed"

/-- What is said of a run apart from its findings. -/
structure RunSummary where
  metrics : Metrics
  files : List FileSummary
  /-- The lowest severity that fails the run. -/
  gate : Severity
deriving DecidableEq, Inhabited, Repr

namespace RunSummary

/-- The number of files. -/
def totalFiles (s : RunSummary) : Nat := s.files.length

/-- The number of lines that are not blank. -/
def totalLines (s : RunSummary) : Nat := s.files.foldr (fun f n => f.linesOfCode + n) 0

/-- A run fails when a finding is at or above the gate. -/
def status (s : RunSummary) : RunStatus :=
  if 0 < s.metrics.atOrAbove s.gate then .gateFailed else .clean

/-- The files whose walk stopped early. -/
def truncatedFiles (s : RunSummary) : List String :=
  (s.files.filter (·.truncated)).map (·.file)

/-- The files without tree. -/
def failedFiles (s : RunSummary) : List String :=
  (s.files.filter (·.parseFailure.isSome)).map (·.file)

end RunSummary

/-- The report on a run. -/
structure RunReport where
  findings : List Finding
  summary : RunSummary
deriving DecidableEq, Inhabited, Repr

/-- The report on a run from the reports on its files. -/
def RunReport.ofReports (reports : List FileReport) (suppressions : List Suppression)
    (gate : Severity) : RunReport :=
  let all := aggregate (reports.flatMap (·.findings)) suppressions
  { findings := all.findings
    summary := { metrics := all.metrics, files := reports.map .ofReport, gate } }

end TreeLint
