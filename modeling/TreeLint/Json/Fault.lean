/-!
# What can be wrong with a JSON text

A text is read from the front, in one pass, into a value of a known shape. Whatever is found wrong
first ends the reading: the text may be no JSON from some byte on, or it may be JSON of another
shape. `Fault` tells the two apart.

A place in the text is given by the number of bytes after it, which a reader knows without knowing
what it has read already. `Place.ofLeft` turns that number into a line and a column.
-/

namespace TreeLint.Json

/-- Why a text is no JSON. -/
inductive Mishap where
  | endInValue | endInList | endInObject | endInText
  | wantsColon | wantsListEnd | wantsObjectEnd | wantsValue | wantsWord
  | keyNoText | commaBeforeEnd | textAfterEnd
  | badEscape | cutSurrogate | loneSurrogate | controlChar
  | badNumber | hugeNumber
  | tooDeep
deriving DecidableEq, Inhabited, Repr

def Mishap.message : Mishap → String
  | .endInValue => "EOF while parsing a value"
  | .endInList => "EOF while parsing a list"
  | .endInObject => "EOF while parsing an object"
  | .endInText => "EOF while parsing a string"
  | .wantsColon => "expected `:`"
  | .wantsListEnd => "expected `,` or `]`"
  | .wantsObjectEnd => "expected `,` or `\x7d`"
  | .wantsValue => "expected value"
  | .wantsWord => "expected ident"
  | .keyNoText => "key must be a string"
  | .commaBeforeEnd => "trailing comma"
  | .textAfterEnd => "trailing characters"
  | .badEscape => "invalid escape"
  | .cutSurrogate => "unexpected end of hex escape"
  | .loneSurrogate => "lone leading surrogate in hex escape"
  | .controlChar => "control character (\\u0000-\\u001F) found while parsing a string"
  | .badNumber => "invalid number"
  | .hugeNumber => "number out of range"
  | .tooDeep => "recursion limit exceeded"

/-- What ends the reading of a text. -/
inductive Fault where
  /-- The text is no JSON; so many bytes of it are left after the place. -/
  | text (m : Mishap) (left : Nat)
  /-- The text is JSON so far, but not of the shape that is wanted. -/
  | shape
deriving DecidableEq, Inhabited, Repr

/-- What a reader gives: a value and what is left of the text, or a fault. -/
abbrev Result (α : Type) := Except Fault (α × List Char)

/-- The number of bytes of a text. -/
def byteCount (s : List Char) : Nat := s.foldr (fun c n => c.utf8Size + n) 0

/-- A mishap that the first byte of `s` shows, or the end of the text if nothing is left. -/
def failAt {α : Type} (m : Mishap) (s : List Char) : Except Fault α :=
  .error (.text m (byteCount s - 1))

/-- A mishap right before `s`. -/
def failBefore {α : Type} (m : Mishap) (s : List Char) : Except Fault α :=
  .error (.text m (byteCount s))

/-! ## Places -/

/-- A place in a text: a line, counted from 1, and a number of bytes of it. -/
structure Place where
  line : Nat
  column : Nat
deriving DecidableEq, Inhabited, Repr

namespace Place

/-- The place that `count` bytes lead to from `here`. -/
def advance (here : Place) : (count : Nat) → List Char → Place
  | _, [] => here
  | count, c :: s =>
    if count < c.utf8Size then ⟨here.line, here.column + count⟩
    else if c == '\n' then advance ⟨here.line + 1, 0⟩ (count - c.utf8Size) s
    else advance ⟨here.line, here.column + c.utf8Size⟩ (count - c.utf8Size) s

/-- The place in a text after which so many bytes are left. -/
def ofLeft (text : List Char) (left : Nat) : Place :=
  advance ⟨1, 0⟩ (byteCount text - left) text

end Place

/-! ## Between the parts of a text -/

/-- Whether the character may stand between the parts of a text. -/
def isFiller (c : Char) : Bool := c == ' ' || c == '\n' || c == '\t' || c == '\r'

/-- The text without the filler that it starts with. -/
def skipFiller (s : List Char) : List Char := s.dropWhile isFiller

/-- A word, letter by letter. -/
def word : (letters : List Char) → List Char → Except Fault (List Char)
  | [], s => .ok s
  | _ :: _, [] => failAt .endInValue []
  | w :: ws, c :: s => if c == w then word ws s else failAt .wantsWord (c :: s)

/-- The colon after a key. -/
def colon (s : List Char) : Except Fault (List Char) :=
  match skipFiller s with
  | [] => failAt .endInObject []
  | ':' :: rest => .ok rest
  | rest => failAt .wantsColon rest

end TreeLint.Json
