import TreeLint.Decimal.Reader
import TreeLint.Text.Blank
import TreeLint.Tree.Node

/-!
# Values of number literals

Number literals keep their source text. Their value ignores digit separators `_`, the suffixes
that languages put on numbers (`L`, `f`, `d`, `m`, `u` and their capitals), and understands
hexadecimal integers of 64 bits.
-/

namespace TreeLint

/-- The letters that may follow the digits of a hexadecimal literal. -/
def isHexSuffix (c : Char) : Bool := c == 'L' || c == 'l'

/-- The letters that may follow the digits of a decimal literal. -/
def isNumberSuffix (c : Char) : Bool := "LlfFdDmMuU".toList.contains c

/-- A hexadecimal integer that fits into 64 bits with a sign. -/
def hexValue? (ds : List Char) : Option Float :=
  match Decimal.intOfDigits? 16 (Text.dropEndWhile isHexSuffix ds) with
  | some i => if -0x8000000000000000 ≤ i && i < 0x8000000000000000 then some (Decimal.ofInt i) else none
  | none => none

/-- The value of a literal without its minus sign. -/
def unsignedValue? : List Char → Option Float
  | '0' :: 'x' :: ds => hexValue? ds
  | '0' :: 'X' :: ds => hexValue? ds
  | ds => Decimal.read? (Text.dropEndWhile isNumberSuffix ds)

/-- The value of the text of a number literal. -/
def literalValue? (text : String) : Option Float :=
  match text.toList.filter (· != '_') with
  | '-' :: ds => (unsignedValue? ds).map (- ·)
  | ds => unsignedValue? ds

/-- The value of a number literal; other nodes have none. -/
def Node.numberValue? (n : Node) : Option Float :=
  if n.kind == .numberLiteral then literalValue? n.valueText else none

end TreeLint
