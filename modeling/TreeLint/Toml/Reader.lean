import TreeLint.Toml.Quoted
import TreeLint.Toml.Scalar

/-!
# Reading TOML

A text is a sequence of statements, one on a line: a header, or a key with its value. Reading
goes from the front; each reader gives what it has read and what is left. `readEntries?` gives
the table of the whole text, or `none` if the text is not TOML or defines a key twice.

Arrays and tables in braces may be nested less than `nestingLimit` levels deep, and a dotted key
has fewer parts than that.
-/

namespace TreeLint.Toml

/-- So many levels are too many. -/
def nestingLimit : Nat := 80

/-! ## Blanks and comments -/

/-- The text without the blanks that it starts with. -/
def skipSpaces (s : List Char) : List Char := s.dropWhile isSpace

/-- The text without the comment that it may start with. -/
def skipComment : List Char → List Char
  | '#' :: s => s.dropWhile isPlain
  | s => s

/-- What follows the end of a line: blanks, a comment, and a line break or the end of the
text. -/
def afterLine? (s : List Char) : Option (List Char) :=
  match skipComment (skipSpaces s) with
  | [] => some []
  | rest => afterBreak? rest

/-- The text without the blanks, line breaks and comments that it starts with. A comment ends
with its line. -/
def skipFiller (s : List Char) : List Char := go (s.length + 1) s
where
  /-- Passes at most `fuel` lines. -/
  go : (fuel : Nat) → List Char → List Char
    | 0, s => s
    | fuel + 1, s =>
      match afterBreak? (skipComment (skipSpaces s)) with
      | some rest => go fuel rest
      | none => skipSpaces s

/-! ## Keys -/

/-- Whether a key may hold the character without quotes. -/
def isKeyChar (c : Char) : Bool := c.isAlphanum || c == '-' || c == '_'

/-- One part of a key. -/
def readKeyPart? (s : List Char) : Option (String × List Char) :=
  match readLine? s with
  | some found => some found
  | none =>
    let name := s.takeWhile isKeyChar
    if name.isEmpty then none else some (String.ofList name, s.dropWhile isKeyChar)

/-- The parts of a key, with points between them: those before the last, and the last. The fuel
bounds the number of parts. -/
def readKey? : (fuel : Nat) → List Char → Option ((List String × String) × List Char)
  | 0, _ => none
  | fuel + 1, s =>
    match readKeyPart? (skipSpaces s) with
    | none => none
    | some (part, rest) =>
      match skipSpaces rest with
      | '.' :: more =>
        (readKey? fuel more).map fun ((path, last), rest) => ((part :: path, last), rest)
      | rest => some (([], part), rest)

def key? (s : List Char) : Option ((List String × String) × List Char) :=
  readKey? (nestingLimit - 1) s

/-! ## Values -/

/-- The items of an array, after its opening bracket. Every round consumes a character. -/
def items? (item : List Char → Option (Value × List Char)) :
    (fuel : Nat) → List Char → Option (List Value × List Char)
  | 0, _ => none
  | fuel + 1, s =>
    match skipFiller s with
    | ']' :: rest => some ([], rest)
    | s =>
      match item s with
      | none => none
      | some (v, rest) =>
        match skipFiller rest with
        | ',' :: rest => (items? item fuel rest).map fun (vs, rest) => (v :: vs, rest)
        | ']' :: rest => some ([v], rest)
        | _ => none

/-- A key and its value. -/
def pair? (item : List Char → Option (Value × List Char)) (s : List Char) :
    Option ((List String × String) × Value × List Char) :=
  match key? s with
  | some (key, '=' :: rest) => (item (skipSpaces rest)).map fun (v, rest) => (key, v, rest)
  | _ => none

/-- The pairs of a table in braces, after the opening brace and for as long as there are commas.
Every round consumes a character. -/
def pairs? (item : List Char → Option (Value × List Char)) :
    (fuel : Nat) → Entries → List Char → Option (Entries × List Char)
  | 0, _, _ => none
  | fuel + 1, entries, s =>
    match pair? item s with
    | none => none
    | some ((path, last), v, rest) =>
      match entries.put path last v, skipSpaces rest with
      | some entries, ',' :: rest => pairs? item fuel entries rest
      | some entries, '}' :: rest => some (entries, rest)
      | _, _ => none

/-- A value that starts here, with at most `depth` levels of arrays and tables in braces. -/
def value? : (depth : Nat) → List Char → Option (Value × List Char)
  | depth, s =>
    match s with
    | [] => none
    | '[' :: rest =>
      match depth with
      | 0 => none
      | depth + 1 =>
        (items? (value? depth) (rest.length + 1) rest).map fun (vs, rest) => (.array vs, rest)
    | '{' :: rest =>
      match depth, skipSpaces rest with
      | 0, _ => none
      | _ + 1, '}' :: rest => some (.table .braces [], rest)
      | depth + 1, rest =>
        (pairs? (value? depth) (rest.length + 1) [] rest).map fun (es, rest) =>
          (.table .braces es, rest)
    | c :: _ =>
      if c == '"' || c == '\x27' then (readQuoted? s).map fun (t, rest) => (.text t, rest)
      else readWord? s

/-! ## Statements -/

/-- One statement. -/
inductive Statement where
  /-- A key and its value. -/
  | pair (path : List String) (last : String) (v : Value)
  /-- A header `[path.last]`. -/
  | table (path : List String) (last : String)
  /-- A header `[[path.last]]`. -/
  | row (path : List String) (last : String)

/-- A statement that starts here, without the end of its line. -/
def statement? : List Char → Option (Statement × List Char)
  | '[' :: '[' :: s =>
    match key? s with
    | some ((path, last), ']' :: ']' :: rest) => some (.row path last, rest)
    | _ => none
  | '[' :: s =>
    match key? s with
    | some ((path, last), ']' :: rest) => some (.table path last, rest)
    | _ => none
  | s =>
    (pair? (value? (nestingLimit - 1)) s).map fun ((path, last), v, rest) =>
      (.pair path last v, rest)

/-- All statements of a text. Every round consumes a character. -/
def statements? : (fuel : Nat) → List Char → Option (List Statement)
  | 0, _ => none
  | fuel + 1, s =>
    match skipSpaces s with
    | [] => some []
    | c :: s =>
      match afterLine? (c :: s) with
      | some rest => statements? fuel rest
      | none =>
        match statement? (c :: s) with
        | none => none
        | some (st, rest) =>
          match afterLine? rest with
          | some rest => (statements? fuel rest).map (st :: ·)
          | none => none

/-- A text that is being read: its table so far, and the path of the last header. -/
structure Draft where
  entries : Entries := []
  header : List String := []

/-- The draft after one more statement. -/
def Draft.step? (d : Draft) : Statement → Option Draft
  | .pair path last v =>
    (d.entries.putUnder d.header path last v).map fun entries => { d with entries }
  | .table path last =>
    (d.entries.openTable path last).map fun entries => ⟨entries, path ++ [last]⟩
  | .row path last => (d.entries.openRow path last).map fun entries => ⟨entries, path ++ [last]⟩

/-- The table of a whole text, which may start with a byte order mark. -/
def readEntries? (text : String) : Option Entries :=
  let s := match text.toList with
    | '\ufeff' :: s => s
    | s => s
  match statements? (s.length + 1) s with
  | some sts => (sts.foldlM Draft.step? {}).map Draft.entries
  | none => none

end TreeLint.Toml
