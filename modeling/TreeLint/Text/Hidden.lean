import TreeLint.Unicode.Recent

/-!
# Characters that do not show

Which characters show by themselves in a listing. Of ASCII all but the controls do, the space
among them; beyond ASCII it is a matter of Unicode.
-/

namespace TreeLint.Text

/-- Whether the character does not show by itself. -/
def isHidden (c : Char) : Bool :=
  let n := c.toNat
  if n < 0x80 then n < 0x20 || n == 0x7F else Unicode.hidden.mem c

end TreeLint.Text
