/-!
# Positions in bytes

Positions in a text are counted in the bytes of its UTF-8 form, in which a character takes one to
four of them. So a position may lie between two characters or inside one, and only a part of the
text that starts and ends between characters is a text again: `slice?` gives nothing else.

`lineStarts` is the table of the positions where lines start: the start of the text, and the
position after each newline.
-/

namespace TreeLint.Text

/-- The number of bytes of a text. -/
def byteLength : List Char → Nat
  | [] => 0
  | c :: s => c.utf8Size + byteLength s

/-- The text after its first `n` bytes, if a character ends there. -/
def dropBytes? : (n : Nat) → List Char → Option (List Char)
  | 0, s => some s
  | _ + 1, [] => none
  | n + 1, c :: s => if c.utf8Size ≤ n + 1 then dropBytes? (n + 1 - c.utf8Size) s else none

/-- The first `n` bytes of a text, if a character ends there. -/
def takeBytes? : (n : Nat) → List Char → Option (List Char)
  | 0, _ => some []
  | _ + 1, [] => none
  | n + 1, c :: s =>
    if c.utf8Size ≤ n + 1 then (takeBytes? (n + 1 - c.utf8Size) s).map (c :: ·) else none

/-- The part of a text between two positions. There is none if one of them is inside a character or
past the end, or if they are in the wrong order. -/
def slice? (s : List Char) (start stop : Nat) : Option (List Char) :=
  if start ≤ stop then (dropBytes? start s).bind (takeBytes? (stop - start)) else none

/-- The positions of the newlines of a text that starts at `offset`. -/
def newlineOffsets (offset : Nat) : List Char → List Nat
  | [] => []
  | c :: s =>
    let later := newlineOffsets (offset + c.utf8Size) s
    if c == '\n' then offset :: later else later

/-- The positions where the lines of a text start. -/
def lineStarts (s : List Char) : List Nat := 0 :: (newlineOffsets 0 s).map (· + 1)

end TreeLint.Text
