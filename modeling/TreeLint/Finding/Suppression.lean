import TreeLint.Finding.Basic
import TreeLint.Text.Lines

/-!
# Suppressions and the directives that declare them

A suppression silences the findings of one rule, or of all rules, in one file, on a line or
inside a span. Source texts declare suppressions in comments (a marker word behind `//`, `#`, `--`
or `/*`, then an optional list of rule ids and, after `--`, a reason) and in annotations
(`@SuppressWarnings("id")`). A directive that stands alone on its line is about the next line, one
that trails code about its own.
-/

namespace TreeLint

/-- The rules that a suppression silences. -/
inductive RuleSelector where
  | any
  | rule (id : String)
deriving DecidableEq, Inhabited, Repr

def RuleSelector.covers : RuleSelector → String → Bool
  | .any, _ => true
  | .rule id, ruleId => id == ruleId

/-- Where in its file a suppression applies. -/
inductive SuppressionScope where
  /-- The findings that start on the line. -/
  | line (n : UInt32)
  /-- The findings inside the span. -/
  | span (s : Span)
deriving DecidableEq, Inhabited, Repr

/-- A request not to report some findings. -/
structure Suppression where
  file : String
  rule : RuleSelector
  scope : SuppressionScope
deriving DecidableEq, Inhabited, Repr

namespace Suppression

/-- Whether findings with this key are silenced. What else a finding says does not matter. -/
def coversKey (s : Suppression) (k : Finding.Key) : Bool :=
  s.file == k.file && s.rule.covers k.ruleId &&
    match s.scope with
    | .line n => k.span.startLine == n
    | .span outer => outer.encloses k.span

def covers (s : Suppression) (f : Finding) : Bool := s.coversKey f.key

end Suppression

/-! ## Directives -/

/-- What one line declares. -/
structure Directive where
  selectors : List RuleSelector
  /-- Whether nothing but the directive is on the line. -/
  standalone : Bool
deriving DecidableEq, Inhabited, Repr

namespace Directive

/-- The word that makes a comment a directive. -/
def marker : List Char := "faultline-ignore".toList

def openers : List (List Char) := ["//".toList, "#".toList, "--".toList, "/*".toList]

/-- What stands before the earliest comment opener. -/
def beforeComment? (s : List Char) : Option (List Char) :=
  (openers.filterMap fun o => (Text.breakOn o s).map (·.1)).foldl
    (fun best before =>
      match best with
      | none => some before
      | some b => if before.length < b.length then some before else some b)
    none

/-- The rule ids after the marker: up to the end of the comment or the start of the reason, cut at
commas and blanks. -/
def ignoredIds (after : List Char) : List String :=
  let body := Text.upTo "--".toList (Text.upTo "*/".toList (Text.trim after))
  ((Text.pieces (fun c => c == ',' || Text.isBlank c) body).filter (· != [])).map String.ofList

/-- The directive of a comment. The marker counts only behind a comment opener. -/
def ofComment? (line : List Char) : Option Directive :=
  match Text.breakOn marker line with
  | none => none
  | some (before, after) =>
    match beforeComment? before with
    | none => none
    | some code =>
      let ids := ignoredIds after
      let selectors := if ids.isEmpty then [.any] else ids.map .rule
      some ⟨selectors, Text.allBlank code⟩

/-- Every other element, from the second on. -/
def oddElements : List (List Char) → List (List Char)
  | _ :: b :: rest => b :: oddElements rest
  | _ => []

/-- The directive of an annotation. -/
def ofAnnotation? (line : List Char) : Option Directive :=
  match Text.after? "@SuppressWarnings(".toList (Text.trimStart line) with
  | none => none
  | some rest =>
    match Text.breakOn [')'] rest with
    | none => none
    | some (args, after) =>
      let ids := (oddElements (Text.pieces (· == '"') args)).filter (· != [])
      if ids.isEmpty then none
      else some ⟨ids.map fun id => .rule (String.ofList id), Text.allBlank after⟩

/-- The directive on a line; a comment comes before an annotation. -/
def ofLine? (line : List Char) : Option Directive := (ofComment? line).or (ofAnnotation? line)

/-- The suppressions that a directive on line `n` declares. -/
def suppressions (file : String) (n : Nat) (d : Directive) : List Suppression :=
  let target := UInt32.ofNat (if d.standalone then n + 1 else n)
  d.selectors.map fun rule => ⟨file, rule, .line target⟩

end Directive

/-- The suppressions that the lines declare, the first of them being line `n`. -/
def suppressionsFrom (file : String) : (n : Nat) → List (List Char) → List Suppression
  | _, [] => []
  | n, line :: rest =>
    ((Directive.ofLine? line).elim [] (·.suppressions file n)) ++ suppressionsFrom file (n + 1) rest

/-- The suppressions that a source text declares, in order. -/
def suppressionsOf (file text : String) : List Suppression :=
  suppressionsFrom file 1 (Text.lines text.toList)

end TreeLint
