import TreeLint.Regex.Match
import TreeLint.Regex.Reader
import TreeLint.Regex.Size

/-!
# Patterns from strings

A string stands for a pattern if it can be read as one and the pattern is not too large to be
matched.
-/

namespace TreeLint.Regex

/-- The pattern that a string stands for. -/
def ofString? (text : String) : Option Pattern := (read? text.toList).filter Pattern.fits

end TreeLint.Regex
