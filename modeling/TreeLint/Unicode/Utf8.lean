/-!
# Characters as bytes

UTF-8 writes a character as one to four bytes. A range of characters is cut into parts, each of
which is a range of first bytes, followed by a range of second bytes, and so on: `byteRanges`
lists them in order. The cuts are where the number of bytes changes, where code points are no
characters, and where a part would not start and end with a full block of 64, 4096 or 262144
code points.
-/

namespace TreeLint.Unicode

/-- The bytes of a code point. -/
def encode (n : Nat) : List Nat :=
  if n < 0x80 then [n]
  else if n < 0x800 then [0xC0 + n / 64, 0x80 + n % 64]
  else if n < 0x10000 then [0xE0 + n / 4096, 0x80 + n / 64 % 64, 0x80 + n % 64]
  else [0xF0 + n / 262144, 0x80 + n / 4096 % 64, 0x80 + n / 64 % 64, 0x80 + n % 64]

/-- Where a range is cut at the end of a code length: the end of the first part and the start of
the second. -/
def cutAtLength? (lo hi : Nat) : Option (Nat × Nat) :=
  ([0x7F, 0x7FF, 0xFFFF].find? fun last => lo ≤ last && last < hi).map fun last => (last, last + 1)

/-- Where a range is cut so that its parts fill blocks of the given size. -/
def cutAtBlock? (lo hi block : Nat) : Option (Nat × Nat) :=
  if lo / block = hi / block then none
  else if lo % block != 0 then
    let start := (lo / block + 1) * block
    some (start - 1, start)
  else if hi % block != block - 1 then
    let start := hi / block * block
    some (start - 1, start)
  else none

/-- Where a range is cut first. -/
def cut? (lo hi : Nat) : Option (Nat × Nat) :=
  if lo < 0xE000 && 0xD7FF < hi then some (0xD7FF, 0xE000)
  else
    match cutAtLength? lo hi with
    | some cut => some cut
    | none => if hi ≤ 0x7F then none else [64, 4096, 262144].findSome? (cutAtBlock? lo hi)

/-- The parts of a range of characters as ranges of bytes. A range is cut at most ten times in a
row: once at the gap, three times by length, twice for each size of block. -/
def byteRangesWith : (fuel : Nat) → (lo hi : Nat) → List (List (Nat × Nat))
  | 0, _, _ => []
  | fuel + 1, lo, hi =>
    if hi < lo then []
    else
      match cut? lo hi with
      | some (last, first) => byteRangesWith fuel lo last ++ byteRangesWith fuel first hi
      | none => [(encode lo).zip (encode hi)]

/-- The parts of a range of characters as ranges of bytes, in order. -/
def byteRanges (lo hi : Nat) : List (List (Nat × Nat)) := byteRangesWith 12 lo hi

end TreeLint.Unicode
