import TreeLint.Error
import TreeLint.Language
import TreeLint.Text.Lines
import TreeLint.Text.Offsets
import TreeLint.Tree.Node

/-!
# Source units

A source unit is one analyzed file: its path, its text, and either its syntax tree or the reason
why there is none. Lines are counted from 1 and are read from the text with a table of the
positions where they start, so every text has at least one line. Spans may come from anywhere;
`contains` says whether a span lies in the text, and `clamp` moves one into it.
-/

namespace TreeLint

/-- One file of a run. -/
structure SourceUnit where
  path : String
  text : String
  tree : Except ParseError Node

namespace SourceUnit

/-- A file with its tree. -/
def parsed (path text : String) (root : Node) : SourceUnit := ⟨path, text, .ok root⟩

/-- A file without a tree. -/
def failed (path text : String) (e : ParseError) : SourceUnit := ⟨path, text, .error e⟩

/-- The language of the file, if its path shows one. -/
def language? (u : SourceUnit) : Option Language := Language.ofPath? u.path

/-- The tree, if there is one. -/
def root? (u : SourceUnit) : Option Node := u.tree.toOption

/-- Why there is no tree. -/
def failure? (u : SourceUnit) : Option String :=
  match u.tree with
  | .ok _ => none
  | .error e => some e.message

/-! ## Lines -/

/-- The rows of the text without the carriage returns at their ends. -/
def rows (u : SourceUnit) : List (List Char) := (Text.rows u.text.toList).map Text.chop

/-- The positions where the lines start, in bytes. -/
def lineStarts (u : SourceUnit) : List Nat := Text.lineStarts u.text.toList

/-- The number of lines; the empty text has one. -/
def lineCount (u : SourceUnit) : UInt32 := UInt32.ofNat u.lineStarts.length

/-- The number of lines that are not blank. -/
def linesOfCode (u : SourceUnit) : Nat :=
  (Text.lines u.text.toList).countP fun line => !Text.allBlank line

/-- Where line `i`, counted from 0, is in the text: it ends one byte before the next line starts,
and the last line ends with the text. -/
def lineRange? (u : SourceUnit) (i : Nat) : Option (Nat × Nat) :=
  u.lineStarts[i]?.map fun start =>
    (start, (u.lineStarts[i + 1]?).elim (Text.byteLength u.text.toList) (· - 1))

/-- The text of a line, counted from 1, without its line break. -/
def lineText? (u : SourceUnit) (line : UInt32) : Option (List Char) :=
  match line.toNat with
  | 0 => none
  | i + 1 =>
    (u.lineRange? i).bind fun (start, stop) =>
      (Text.slice? u.text.toList start stop).map Text.chop

/-- The largest column on a line: one past its last character. -/
def lineWidth (u : SourceUnit) (line : UInt32) : UInt32 :=
  match u.lineText? line with
  | some s => UInt32.ofNat s.length + 1
  | none => 1

/-! ## Bounds -/

/-- Whether the span lies in the text. -/
def contains (u : SourceUnit) (s : Span) : Bool :=
  1 ≤ s.startLine && s.startLine ≤ s.endLine && s.endLine ≤ u.lineCount && 1 ≤ s.startCol &&
    s.startCol ≤ u.lineWidth s.startLine && s.endCol ≤ u.lineWidth s.endLine

/-- The value in `lo … hi` that is nearest to `x`. -/
def within (lo hi x : UInt32) : UInt32 := if x < lo then lo else if hi < x then hi else x

/-- The span moved into the text, coordinate by coordinate. -/
def clamp (u : SourceUnit) (s : Span) : Span :=
  let startLine := within 1 u.lineCount s.startLine
  let endLine := within startLine u.lineCount s.endLine
  let startCol := within 1 (u.lineWidth startLine) s.startCol
  let width := u.lineWidth endLine
  let endCol := if s.endCol ≤ width then s.endCol else width
  { startLine, startCol, endLine, endCol }

end SourceUnit

end TreeLint
