import TreeLint.Finding.Rule
import TreeLint.Tree.Span

/-!
# Findings

A finding is one place where a rule matched. Two findings are repeats of each other when they
agree on rule, file and span, whatever else they say; reports list findings by severity, the
most severe first, then by place.
-/

namespace TreeLint

/-- One reported place of a rule. -/
structure Finding where
  ruleId : String
  severity : Severity
  category : Category
  file : String
  span : Span
  message : String
  snippet : Option String := none
  fixHint : Option String := none
deriving DecidableEq, Inhabited, Repr

/-- What two repeats of a finding have in common. -/
structure Finding.Key where
  ruleId : String
  file : String
  span : Span
deriving DecidableEq, Inhabited, Repr

namespace Finding

/-- A finding of a rule, with the severity of the rule and no hint. -/
def ofRule (rule : Rule) (file : String) (span : Span) (message : String) : Finding :=
  { ruleId := rule.id, severity := rule.severity, category := rule.category, file, span, message }

def withHint (f : Finding) (hint : String) : Finding := { f with fixHint := some hint }

def withSeverity (f : Finding) (severity : Severity) : Finding := { f with severity }

/-- What the finding shares with its repeats. -/
def key (f : Finding) : Key := ⟨f.ruleId, f.file, f.span⟩

/-- The order of reports: severity descending, then file, start line, start column, rule id, end
line and end column ascending. -/
def order (f g : Finding) : Ordering :=
  (compare g.severity.rank f.severity.rank).then <|
  (compare f.file g.file).then <|
  (compare f.span.startLine.toNat g.span.startLine.toNat).then <|
  (compare f.span.startCol.toNat g.span.startCol.toNat).then <|
  (compare f.ruleId g.ruleId).then <|
  (compare f.span.endLine.toNat g.span.endLine.toNat).then <|
  compare f.span.endCol.toNat g.span.endCol.toNat

/-- Whether `f` may stand before `g` in a report. -/
def ble (f g : Finding) : Bool := (f.order g).isLE

end Finding

end TreeLint
