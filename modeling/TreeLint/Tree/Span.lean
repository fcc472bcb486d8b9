/-!
# Source spans

A span is a pair of positions, each a line and a column, both counted from 1 and both included.
Coordinates are 32-bit words. Spans are ordered by start line, start column, end line and end
column, in this order.
-/

namespace TreeLint

/-- A range of the source text; both ends belong to it. -/
structure Span where
  startLine : UInt32 := 0
  startCol : UInt32 := 0
  endLine : UInt32 := 0
  endCol : UInt32 := 0
deriving DecidableEq, Inhabited, Repr

namespace Span

/-- The coordinates in the order that decides between spans. -/
def key (s : Span) : List Nat :=
  [s.startLine.toNat, s.startCol.toNat, s.endLine.toNat, s.endCol.toNat]

/-- The order of keys: by the first entry in which they differ, a shorter key before a longer
one. -/
def keyLe : List Nat → List Nat → Bool
  | [], _ => true
  | _ :: _, [] => false
  | a :: as, b :: bs => a < b || (a == b && keyLe as bs)

/-- Positions in reading order: by line, then by column. -/
def posLe (line col line' col' : UInt32) : Bool := line < line' || (line == line' && col ≤ col')

/-- Whether `inner` lies within `outer`. -/
def encloses (outer inner : Span) : Bool :=
  posLe outer.startLine outer.startCol inner.startLine inner.startCol &&
    posLe inner.endLine inner.endCol outer.endLine outer.endCol

/-- The written form `startLine:startCol-endLine:endCol`. -/
def render (s : Span) : String :=
  s!"{s.startLine.toNat}:{s.startCol.toNat}-{s.endLine.toNat}:{s.endCol.toNat}"

/-- Whether `s` comes before `t` or is equal to it: the first coordinate in which they differ
decides. -/
def ble (s t : Span) : Bool := keyLe s.key t.key

end Span

end TreeLint
