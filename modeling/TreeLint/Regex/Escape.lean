import TreeLint.Regex.Flags
import TreeLint.Text.Search

/-!
# Escapes

What stands after a backslash: the code of a character, a class, an anchor, or a character that
would otherwise have a meaning. Digits stand for nothing, since there are no references to
groups.
-/

namespace TreeLint.Regex

/-- What one escape or one character stands for. -/
inductive Atom where
  /-- A character; `byByte` says that it was written as the code of one byte. -/
  | char (c : Char) (byByte : Bool)
  | set (s : CharSet)
  | anchor (a : Anchor)
deriving DecidableEq, Inhabited, Repr

/-- What stands before a closing brace, and what follows it. -/
def braced? (f : Flags) : (fuel : Nat) → List Char → Option (List Char × List Char)
  | 0, _ => none
  | fuel + 1, s =>
    match f.skip s with
    | [] => none
    | c :: rest =>
      if c == '}' then some ([], rest)
      else (braced? f fuel rest).map fun (inner, after) => (c :: inner, after)

/-- The character of a code point, if there is one. -/
def charOf? (n : Nat) : Option Char := if n.isValidChar then some (Char.ofNat n) else none

/-- A given number of hexadecimal digits. -/
def hexDigits? (f : Flags) : (count : Nat) → (value : Nat) → List Char → Option (Nat × List Char)
  | 0, value, s => some (value, s)
  | _ + 1, _, [] => none
  | count + 1, value, c :: s =>
    match Decimal.digitValue? 16 c with
    | some d => hexDigits? f count (value * 16 + d) (f.skip s)
    | none => none

/-- The character that `\x`, `\u` or `\U` stands for, after that letter: so many hexadecimal
digits, or any number of them in braces. -/
def hexEscape? (f : Flags) (count : Nat) (s : List Char) : Option (Atom × List Char) :=
  match f.skip s with
  | '{' :: rest =>
    (braced? f (rest.length + 1) rest).bind fun (digits, after) =>
      ((Decimal.natOfDigits? 16 digits).bind charOf?).map fun c => (.char c false, after)
  | rest =>
    (hexDigits? f count 0 rest).bind fun (n, after) =>
      (charOf? n).map fun c => (.char c (count == 2), after)

/-- The property that a text in braces names: the name of one, or a family and a value. That the
value should differ is not heeded. -/
def namedProperty? (name : List Char) : Option CharSet :=
  match Text.breakOn ['!', '='] name with
  | some (family, value) => Unicode.propertyValue? family value
  | none =>
    match Text.breakOn [':'] name with
    | some (family, value) => Unicode.propertyValue? family value
    | none =>
      match Text.breakOn ['='] name with
      | some (family, value) => Unicode.propertyValue? family value
      | none => Unicode.property? name

/-- The set that `\p` or `\P` stands for, after that letter: a name of one character, or one in
braces. There are no properties without Unicode. -/
def propertyEscape? (f : Flags) (negated : Bool) (s : List Char) : Option (Atom × List Char) :=
  let named? : Option (Option CharSet × List Char) := match f.skip s with
    | [] => none
    | '{' :: rest =>
      (braced? f (rest.length + 1) rest).map fun (name, after) => (namedProperty? name, after)
    | c :: rest => some (Unicode.property? [c], rest)
  match named? with
  | some (some set, after) =>
    if f.unicode then (f.closeNegate? negated set).map fun set => (.set set, after) else none
  | _ => none

/-- Whether the character can be part of the name of a word boundary. -/
def isBoundaryChar (c : Char) : Bool := c.isAlpha || c == '-'

/-- The characters of the name of a word boundary, and what follows them. -/
def boundaryName (f : Flags) : (fuel : Nat) → List Char → List Char × List Char
  | 0, s => ([], s)
  | _ + 1, [] => ([], [])
  | fuel + 1, c :: s =>
    if isBoundaryChar c then
      let (name, rest) := boundaryName f fuel (f.skip s)
      (c :: name, rest)
    else ([], c :: s)

/-- The word boundary that a name in braces after `\b` selects; a brace that starts no name is
left to be read as a repetition. -/
def boundary? (f : Flags) (s : List Char) : Option (Anchor × List Char) :=
  let w := f.word
  match s with
  | '{' :: inner =>
    match f.skip inner with
    | [] => none
    | c :: rest =>
      if isBoundaryChar c then
        match boundaryName f (rest.length + 1) (c :: rest) with
        | (name, '}' :: after) =>
          match String.ofList name with
          | "start" => some (.wordStart w, after)
          | "end" => some (.wordEnd w, after)
          | "start-half" => some (.wordStartHalf w, after)
          | "end-half" => some (.wordEndHalf w, after)
          | _ => none
        | _ => none
      else some (.wordBoundary w, s)
  | _ => some (.wordBoundary w, s)

/-- Whether a backslash before the character makes it stand for itself. -/
def isEscapable (c : Char) : Bool :=
  c.toNat < 128 && !c.isAlphanum && c != '<' && c != '>'

/-- A class that one letter stands for, or its complement. -/
def classEscape? (f : Flags) (c : Char) : Option (Option CharSet) :=
  match c with
  | 'd' => some (some f.digit)
  | 's' => some (some f.blank)
  | 'w' => some (some f.word)
  | 'D' => some (f.negate? true f.digit)
  | 'S' => some (f.negate? true f.blank)
  | 'W' => some (f.negate? true f.word)
  | _ => none

/-- The character that one letter stands for. -/
def charEscape? (c : Char) : Option Char :=
  match c with
  | 'a' => some '\x07'
  | 'f' => some '\x0c'
  | 't' => some '\t'
  | 'n' => some '\n'
  | 'r' => some '\r'
  | 'v' => some '\x0b'
  | _ => if isEscapable c then some c else none

/-- What the text after a backslash stands for. -/
def escape? (f : Flags) : List Char → Option (Atom × List Char)
  | [] => none
  | c :: s =>
    match c with
    | 'x' => hexEscape? f 2 s
    | 'u' => hexEscape? f 4 s
    | 'U' => hexEscape? f 8 s
    | 'p' => propertyEscape? f false s
    | 'P' => propertyEscape? f true s
    | 'A' => some (.anchor .textStart, s)
    | 'z' => some (.anchor .textEnd, s)
    | 'b' => (boundary? f s).map fun (a, rest) => (.anchor a, rest)
    | 'B' => some (.anchor (.noWordBoundary f.word), s)
    | '<' => some (.anchor (.wordStart f.word), s)
    | '>' => some (.anchor (.wordEnd f.word), s)
    | _ =>
      match classEscape? f c with
      | some set => set.map fun set => (.set set, s)
      | none => (charEscape? c).map fun c => (.char c false, s)

end TreeLint.Regex
