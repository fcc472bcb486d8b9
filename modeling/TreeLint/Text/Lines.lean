import TreeLint.Text.Blank
import TreeLint.Text.Search

/-!
# Lines of a text

Two views of the lines of a text. `rows` cuts at every newline, so a text that ends in one has an
empty last row, and the empty text has one row. `lines` gives the lines that a reader would
count: a final newline ends the last line and starts no new one, the empty text has no line, and
one carriage return before a newline belongs to the line break.
-/

namespace TreeLint.Text

/-- The pieces of the text between its newlines. -/
def rows (s : List Char) : List (List Char) := pieces (· == '\n') s

/-- A row without the carriage returns it ends with. -/
def chop (row : List Char) : List Char := dropEndWhile (· == '\r') row

/-- A line without one carriage return before its newline. -/
def dropReturn (line : List Char) : List Char :=
  if line.getLast? = some '\r' then line.dropLast else line

/-- The lines of a text, without their line breaks. A carriage return that no newline follows
is part of its line. -/
def lines (s : List Char) : List (List Char) :=
  let rs := rows s
  let ended := rs.dropLast.map dropReturn
  match rs.getLast? with
  | some (c :: rest) => ended ++ [c :: rest]
  | _ => ended

end TreeLint.Text
