import TreeLint.Decimal.Reader

/-!
# Quoted texts of TOML

A text stands between double quotes, where a backslash starts an escape, or between single
quotes, where all characters stand for themselves. Three quotes instead of one let the text go
over several lines. A control character other than the tab has to be escaped.

`readQuoted?` reads any of the four forms. `quote` chooses a form that needs no escapes if there
is one: it tries double quotes, single quotes, three double and three single quotes in turn.
-/

namespace TreeLint.Toml

/-- Whether a character may stand for itself in a text or a comment. -/
def isPlain (c : Char) : Bool := c == '\t' || (' ' ≤ c && c != '\x7f')

/-- Whether a character is a blank between the parts of a line. -/
def isSpace (c : Char) : Bool := c == ' ' || c == '\t'

/-- What follows a line break; `none` if there is none here. -/
def afterBreak? : List Char → Option (List Char)
  | '\n' :: s => some s
  | '\r' :: '\n' :: s => some s
  | _ => none

/-! ## Reading -/

/-- The character of a code point with so many hexadecimal digits, and their number. -/
def codePoint? (count : Nat) (s : List Char) : Option (Char × Nat) :=
  let digits := s.take count
  if digits.length < count then none
  else
    match Decimal.natOfDigits? 16 digits with
    | some n => if n.isValidChar then some (Char.ofNat n, count) else none
    | none => none

/-- What follows a backslash: the character that it stands for and how many characters it is
written with. -/
def escape? : List Char → Option (Char × Nat)
  | 'b' :: _ => some ('\x08', 1)
  | 't' :: _ => some ('\t', 1)
  | 'n' :: _ => some ('\n', 1)
  | 'f' :: _ => some ('\x0c', 1)
  | 'r' :: _ => some ('\r', 1)
  | '"' :: _ => some ('"', 1)
  | '\\' :: _ => some ('\\', 1)
  | 'u' :: s => (codePoint? 4 s).map fun (c, n) => (c, n + 1)
  | 'U' :: s => (codePoint? 8 s).map fun (c, n) => (c, n + 1)
  | _ => none

/-- The rest of a text on one line, after its opening quote. -/
def lineText? (quote : Char) (s : List Char) : Option (List Char × List Char) :=
  match s with
  | [] => none
  | c :: s =>
    if c == quote then some ([], s)
    else if c == '\\' && quote == '"' then
      match escape? s with
      | some (e, n) => (lineText? quote (s.drop n)).map fun (t, rest) => (e :: t, rest)
      | none => none
    else if isPlain c then (lineText? quote s).map fun (t, rest) => (c :: t, rest)
    else none
termination_by s.length
decreasing_by all_goals simp only [List.length_cons, List.length_drop]; omega

/-- The text without the blanks and line breaks that it starts with. -/
def skipLines : List Char → List Char
  | ' ' :: s => skipLines s
  | '\t' :: s => skipLines s
  | '\n' :: s => skipLines s
  | '\r' :: '\n' :: s => skipLines s
  | s => s

/-- What is left after a backslash at the end of a line: the next line that is not blank. -/
def joinLines? (s : List Char) : Option (List Char) :=
  (afterBreak? (s.dropWhile isSpace)).map skipLines

/-- The rest of a text over several lines, after its opening quotes. One or two quotes are part
of the text, also right before the three that end it. The fuel bounds the number of steps. -/
def blockText? (quote : Char) : (fuel : Nat) → List Char → Option (List Char × List Char)
  | 0, _ => none
  | _ + 1, [] => none
  | fuel + 1, c :: s =>
    let more (part : List Char) (rest : List Char) : Option (List Char × List Char) :=
      (blockText? quote fuel rest).map fun (t, rest) => (part ++ t, rest)
    if c == quote then
      let quotes := (c :: s).takeWhile (· == quote)
      let rest := (c :: s).dropWhile (· == quote)
      if quotes.length < 3 then more quotes rest
      else if quotes.length < 6 then some (quotes.drop 3, rest)
      else none
    else if c == '\\' && quote == '"' then
      match joinLines? s with
      | some rest => more [] rest
      | none => (escape? s).bind fun (e, n) => more [e] (s.drop n)
    else
      match afterBreak? (c :: s) with
      | some rest => more ['\n'] rest
      | none => if isPlain c then more [c] s else none

/-- A text over several lines, after its opening quotes. A line break right after them does not
count. -/
def block? (quote : Char) (s : List Char) : Option (List Char × List Char) :=
  let s := (afterBreak? s).getD s
  blockText? quote (s.length + 1) s

/-- A text on one line. -/
def readLine? : List Char → Option (String × List Char)
  | '"' :: s => (lineText? '"' s).map fun (t, rest) => (String.ofList t, rest)
  | '\x27' :: s => (lineText? '\x27' s).map fun (t, rest) => (String.ofList t, rest)
  | _ => none

/-- A text in any of the four forms. -/
def readQuoted? : List Char → Option (String × List Char)
  | '"' :: '"' :: '"' :: s => (block? '"' s).map fun (t, rest) => (String.ofList t, rest)
  | '\x27' :: '\x27' :: '\x27' :: s =>
    (block? '\x27' s).map fun (t, rest) => (String.ofList t, rest)
  | s => readLine? s

/-! ## Writing -/

/-- The length of the longest run of a character. -/
def longestRun (c : Char) (s : List Char) : Nat := go 0 0 s
where
  /-- Goes on with the longest run so far and the length of the present one. -/
  go : (best current : Nat) → List Char → Nat
    | best, current, [] => max best current
    | best, current, d :: s => if d == c then go best (current + 1) s else go (max best current) 0 s

/-- Whether a character can be written in double quotes only. -/
def isControl (c : Char) : Bool := !isPlain c && c != '\n'

/-- Four hexadecimal digits. -/
def hex4 (n : Nat) : List Char :=
  let digits := (Nat.toDigits 16 n).map Char.toUpper
  List.replicate (4 - digits.length) '0' ++ digits

/-- A character between double quotes, a quote apart. -/
def escapeChar (breaks : Bool) : Char → List Char
  | '\x08' => ['\\', 'b']
  | '\t' => ['\\', 't']
  | '\n' => if breaks then ['\n'] else ['\\', 'n']
  | '\x0c' => ['\\', 'f']
  | '\r' => ['\\', 'r']
  | '\\' => ['\\', '\\']
  | c => if isPlain c then [c] else '\\' :: 'u' :: hex4 c.toNat

/-- A text between double quotes: after `allowed` quotes in a row the next one is escaped. -/
def escapeText (breaks : Bool) (allowed : Nat) : (run : Nat) → List Char → List Char
  | _, [] => []
  | run, c :: s =>
    if c == '"' then
      if run < allowed then c :: escapeText breaks allowed (run + 1) s
      else '\\' :: '"' :: escapeText breaks allowed 0 s
    else
      let written := escapeChar breaks c
      written ++ escapeText breaks allowed 0 s

/-- A text in quotes. -/
def quote (text : String) : String :=
  let s := text.toList
  let breaks := s.contains '\n'
  let controls := s.any isControl
  let backslash := s.contains '\\'
  let doubles := longestRun '"' s
  let singles := longestRun '\x27' s
  let lead := if breaks then "\n" else ""
  let block := "\"\"\"" ++ lead ++ String.ofList (escapeText true 2 0 s) ++ "\"\"\""
  if !controls && !backslash && doubles == 0 && !breaks then
    "\"" ++ String.ofList (escapeText false 0 0 s) ++ "\""
  else if !controls && singles == 0 && !breaks then "'" ++ text ++ "'"
  else if !controls && !backslash && doubles ≤ 2 then block
  else if !controls && singles ≤ 2 then "'''" ++ lead ++ text ++ "'''"
  else if breaks then block
  else "\"" ++ String.ofList (escapeText false 0 0 s) ++ "\""

end TreeLint.Toml
