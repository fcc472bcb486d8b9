import TreeLint.Text.Blank
import TreeLint.Text.Search

/-!
# Simple type names

Front ends write types with generics, array brackets and qualifiers. Rules look types up by
their simple name: `HashMap` for `java.util.HashMap<String, List<X>>`.
-/

namespace TreeLint

def isQualifierEnd (c : Char) : Bool := c == '.' || c == ':'

/-- What follows the last qualifier. -/
def unqualified (s : List Char) : List Char :=
  (s.reverse.takeWhile (!isQualifierEnd ·)).reverse

/-- The simple name of a type: cut off the generics, trim blanks, drop array brackets, and keep
what follows the last qualifier, in this order. -/
def simpleTypeChars (s : List Char) : List Char :=
  unqualified (Text.dropEndCopies ['[', ']'] (Text.trim (Text.upTo ['<'] s)))

/-- The simple name of a type. -/
def simpleType (s : String) : String := String.ofList (simpleTypeChars s.toList)

end TreeLint
