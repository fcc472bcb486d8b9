import TreeLint.Finding.Suppression

/-!
# Aggregation

Aggregation turns the raw findings of a run into the final list: suppressed findings are left
out, of several repeats only the first stays, and the rest is sorted. Suppressions come before
the removal of repeats, so a suppressed repeat counts once for each occurrence.
-/

namespace TreeLint

/-- A number for each severity. -/
structure SeverityCounts where
  low : Nat := 0
  medium : Nat := 0
  high : Nat := 0
  critical : Nat := 0
deriving DecidableEq, Inhabited, Repr

namespace SeverityCounts

/-- The number for a severity. -/
def get (c : SeverityCounts) : Severity → Nat
  | .low => c.low
  | .medium => c.medium
  | .high => c.high
  | .critical => c.critical

/-- How often each severity occurs. -/
def ofFindings (fs : List Finding) : SeverityCounts :=
  let count (s : Severity) := fs.countP (·.severity == s)
  ⟨count .low, count .medium, count .high, count .critical⟩

end SeverityCounts

/-- A number for each category. -/
structure CategoryCounts where
  security : Nat := 0
  performance : Nat := 0
  quality : Nat := 0
  internal : Nat := 0
deriving DecidableEq, Inhabited, Repr

namespace CategoryCounts

/-- The number for a category. -/
def get (c : CategoryCounts) : Category → Nat
  | .security => c.security
  | .performance => c.performance
  | .quality => c.quality
  | .internal => c.internal

/-- How often each category occurs. -/
def ofFindings (fs : List Finding) : CategoryCounts :=
  let count (c : Category) := fs.countP (·.category == c)
  ⟨count .security, count .performance, count .quality, count .internal⟩

end CategoryCounts

/-- The numbers that go with a final list. -/
structure Metrics where
  total : Nat := 0
  bySeverity : SeverityCounts := {}
  byCategory : CategoryCounts := {}
  /-- The raw findings that a suppression covered. -/
  suppressed : Nat := 0
  /-- The repeats that were left out. -/
  duplicatesRemoved : Nat := 0
deriving DecidableEq, Inhabited, Repr

/-- The number of findings at or above a severity. -/
def Metrics.atOrAbove (m : Metrics) (gate : Severity) : Nat :=
  (Severity.all.filter fun s => gate.rank ≤ s.rank).foldr (fun s n => m.bySeverity.get s + n) 0

/-- The final findings and their numbers. -/
structure Aggregated where
  findings : List Finding
  metrics : Metrics
deriving DecidableEq, Inhabited, Repr

/-- Whether some suppression covers the finding. -/
def isSuppressed (suppressions : List Suppression) (f : Finding) : Bool :=
  suppressions.any (·.covers f)

/-- The list without repeats of its own findings or of those seen before. -/
def firsts (seen : List Finding.Key) : List Finding → List Finding
  | [] => []
  | f :: fs => if seen.contains f.key then firsts seen fs else f :: firsts (f.key :: seen) fs

/-- The final list of a run. -/
def aggregate (raw : List Finding) (suppressions : List Suppression) : Aggregated :=
  let kept := raw.filter fun f => !isSuppressed suppressions f
  let unique := firsts [] kept
  let findings := unique.mergeSort Finding.ble
  { findings
    metrics :=
      { total := findings.length
        bySeverity := .ofFindings findings
        byCategory := .ofFindings findings
        suppressed := raw.length - kept.length
        duplicatesRemoved := kept.length - unique.length } }

end TreeLint
