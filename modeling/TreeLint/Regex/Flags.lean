import TreeLint.Regex.Pattern
import TreeLint.Text.Blank
import TreeLint.Unicode.CaseFold
import TreeLint.Unicode.Property

/-!
# Flags

Flags say what the parts of a pattern stand for: whether case counts, whether anchors look at
lines, whether classes are those of Unicode or of ASCII. Without Unicode nothing may match a part
of a character, so what would stand for single bytes beyond ASCII stands for nothing at all.

In verbose mode blanks do not count, and `#` starts a comment that ends with the line.
-/

namespace TreeLint.Regex

/-- What the flags say at one place of the pattern. -/
structure Flags where
  ignoreCase : Bool := false
  multiLine : Bool := false
  dotAll : Bool := false
  lazyFirst : Bool := false
  unicode : Bool := true
  returns : Bool := false
  verbose : Bool := false
deriving DecidableEq, Inhabited, Repr

/-- The text without leading blanks and comments. -/
def skipSpace : (inComment : Bool) → List Char → List Char
  | _, [] => []
  | true, c :: s => skipSpace (c != '\n') s
  | false, c :: s =>
    if Text.isBlank c then skipSpace false s
    else if c == '#' then skipSpace true s
    else c :: s

/-- The ASCII digits. -/
def asciiDigit : CharSet := .range 48 57

/-- The ASCII digits, letters and underscore. -/
def asciiWord : CharSet := ⟨[(48, 57), (65, 90), (95, 95), (97, 122)]⟩

/-- The ASCII blanks. -/
def asciiBlank : CharSet := ⟨[(9, 13), (32, 32)]⟩

namespace Flags

/-- The flags with one of them set or cleared. -/
def set? (f : Flags) (c : Char) (value : Bool) : Option Flags :=
  match c with
  | 'i' => some { f with ignoreCase := value }
  | 'm' => some { f with multiLine := value }
  | 's' => some { f with dotAll := value }
  | 'U' => some { f with lazyFirst := value }
  | 'u' => some { f with unicode := value }
  | 'R' => some { f with returns := value }
  | 'x' => some { f with verbose := value }
  | _ => none

/-- What is left to read when blanks and comments do not count. -/
def skip (f : Flags) (s : List Char) : List Char := if f.verbose then skipSpace false s else s

/-- A set as it counts under the flags: closed under case if case is ignored. -/
def close (f : Flags) (s : CharSet) : CharSet :=
  if f.ignoreCase then if f.unicode then s.anyCase else s.anyCaseAscii else s

/-- A set or its complement. Without Unicode there is no complement. -/
def negate? (f : Flags) (negated : Bool) (s : CharSet) : Option CharSet :=
  if negated then if f.unicode then some s.compl else none else some s

/-- A set closed under case, or the complement of that. -/
def closeNegate? (f : Flags) (negated : Bool) (s : CharSet) : Option CharSet :=
  f.negate? negated (f.close s)

/-- The decimal digits. -/
def digit (f : Flags) : CharSet := if f.unicode then Unicode.digit else asciiDigit

def blank (f : Flags) : CharSet := if f.unicode then Unicode.blank else asciiBlank

/-- The word characters. -/
def word (f : Flags) : CharSet := if f.unicode then Unicode.word else asciiWord

/-- What `.` stands for. -/
def dot? (f : Flags) : Option CharSet :=
  if !f.unicode then none
  else if f.dotAll then some .all
  else if f.returns then some (CharSet.ofCodes [10, 13]).compl
  else some (CharSet.single '\n').compl

/-- What a character stands for. `byByte` says that it was written as the code of one byte. -/
def literal? (f : Flags) (c : Char) (byByte : Bool) : Option Pattern :=
  if f.unicode then some (if f.ignoreCase then .ofSet (.orbit c) else .literal [c])
  else if byByte && 0x7F < c.toNat then none
  else some (if f.ignoreCase then .ofSet (CharSet.single c).anyCaseAscii else .literal [c])

/-- What a character in brackets stands for. -/
def bracketChar? (f : Flags) (c : Char) : Option Nat :=
  if !f.unicode && 0x7F < c.toNat then none else some c.toNat

/-- What `^` stands for. -/
def caret (f : Flags) : Anchor := if f.multiLine then .lineStart f.returns else .textStart

/-- What `$` stands for. -/
def dollar (f : Flags) : Anchor := if f.multiLine then .lineEnd f.returns else .textEnd

end Flags

end TreeLint.Regex
