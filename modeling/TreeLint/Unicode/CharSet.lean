import TreeLint.Decimal.Reader

/-!
# Sets of characters

A set of characters is a list of ranges of code points in ascending order; ranges that touch or
overlap are written as one. The operations go through the ranges of their arguments once, from
left to right.

No character has a code point from D800 to DFFF, so the characters next to each other there are
D7FF and E000 (`next`, `prev`). Two ranges that meet across that gap stay two ranges.
-/

namespace TreeLint

/-- A set of characters, as ascending ranges of code points. -/
structure CharSet where
  ranges : List (Nat × Nat)
deriving DecidableEq, Inhabited, Repr

namespace CharSet

/-- The code point of the character after the one at `n`. -/
def next (n : Nat) : Nat := if n = 0xD7FF then 0xE000 else n + 1

/-- The code point of the character before the one at `n`. -/
def prev (n : Nat) : Nat := if n = 0xE000 then 0xD7FF else n - 1

def greatest : Nat := 0x10FFFF

/-! ## Ranges in order -/

/-- Puts `a` and what follows it into an ascending list; `rest` puts in what follows `a`. -/
def mergeFrom (a : Nat × Nat) (as : List (Nat × Nat)) (rest : List (Nat × Nat) → List (Nat × Nat)) :
    List (Nat × Nat) → List (Nat × Nat)
  | [] => a :: as
  | b :: bs => if b.1 < a.1 then b :: mergeFrom a as rest bs else a :: rest (b :: bs)

/-- Two ascending lists as one. -/
def merge : List (Nat × Nat) → List (Nat × Nat) → List (Nat × Nat)
  | [], bs => bs
  | a :: as, bs => mergeFrom a as (merge as) bs

/-- An ascending list after the range `r`, in which ranges that touch or overlap are one. -/
def coalesceFrom (r : Nat × Nat) : List (Nat × Nat) → List (Nat × Nat)
  | [] => [r]
  | s :: ss =>
    if s.1 ≤ r.2 + 1 then coalesceFrom (r.1, max r.2 s.2) ss else r :: coalesceFrom s ss

/-- An ascending list in which ranges that touch or overlap are one. -/
def coalesce : List (Nat × Nat) → List (Nat × Nat)
  | [] => []
  | r :: rs => coalesceFrom r rs

/-- The set of the characters in any of the ranges, which may be in any order. -/
def ofRanges (rs : List (Nat × Nat)) : CharSet :=
  ⟨coalesce (rs.foldr (fun r sorted => merge [r] sorted) [])⟩

/-- The set of the characters with these code points. -/
def ofCodes (ns : List Nat) : CharSet := ofRanges (ns.map fun n => (n, n))

/-! ## The sets and their operations -/

def empty : CharSet := ⟨[]⟩

def range (lo hi : Nat) : CharSet := ⟨[(lo, hi)]⟩

def single (c : Char) : CharSet := range c.toNat c.toNat

def all : CharSet := range 0 greatest

/-- Whether the code point lies in one of the ascending ranges. -/
def memRanges (n : Nat) : List (Nat × Nat) → Bool
  | [] => false
  | (lo, hi) :: rs => if n < lo then false else n ≤ hi || memRanges n rs

/-- Whether the code point belongs to the set. -/
def memCode (s : CharSet) (n : Nat) : Bool := memRanges n s.ranges

def mem (s : CharSet) (c : Char) : Bool := s.memCode c.toNat

def isEmpty (s : CharSet) : Bool := s.ranges.isEmpty

/-- The character of a set that has just one. -/
def only? (s : CharSet) : Option Char :=
  match s.ranges with
  | [(lo, hi)] => if lo = hi ∧ lo.isValidChar then some (Char.ofNat lo) else none
  | _ => none

/-- Whether all members are in ASCII. -/
def isAscii (s : CharSet) : Bool := s.ranges.all fun (_, hi) => hi ≤ 0x7F

def union (a b : CharSet) : CharSet := ⟨coalesce (merge a.ranges b.ranges)⟩

/-- The characters in any of the sets. -/
def unions (ss : List CharSet) : CharSet := ss.foldr union empty

/-- What the range `a` shares with ascending ranges, followed by what `rest` gives for those that
may reach beyond it. -/
def interFrom (a : Nat × Nat) (rest : List (Nat × Nat) → List (Nat × Nat)) :
    List (Nat × Nat) → List (Nat × Nat)
  | [] => []
  | b :: bs =>
    let shared := (max a.1 b.1, min a.2 b.2)
    let others := if a.2 < b.2 then rest (b :: bs) else interFrom a rest bs
    if shared.1 ≤ shared.2 then shared :: others else others

/-- What two lists of ascending ranges share. -/
def interRanges : List (Nat × Nat) → List (Nat × Nat) → List (Nat × Nat)
  | [], _ => []
  | a :: as, bs => interFrom a (interRanges as) bs

def inter (a b : CharSet) : CharSet := ⟨interRanges a.ranges b.ranges⟩

/-- What the ascending ranges leave of the range from `lo` to `hi`, followed by what `rest` gives
for those that may reach beyond it. -/
def diffFrom (rest : List (Nat × Nat) → List (Nat × Nat)) :
    (lo hi : Nat) → List (Nat × Nat) → List (Nat × Nat)
  | lo, hi, [] => (lo, hi) :: rest []
  | lo, hi, b :: bs =>
    if b.2 < lo then diffFrom rest lo hi bs
    else if hi < b.1 then (lo, hi) :: rest (b :: bs)
    else
      let others := if b.2 < hi then diffFrom rest (next b.2) hi bs else rest (b :: bs)
      if lo < b.1 then (lo, prev b.1) :: others else others

/-- What the second list leaves of the first. -/
def diffRanges : List (Nat × Nat) → List (Nat × Nat) → List (Nat × Nat)
  | [], _ => []
  | (lo, hi) :: as, bs => diffFrom (diffRanges as) lo hi bs

/-- The characters in the first set that are not in the second. -/
def diff (a b : CharSet) : CharSet := ⟨diffRanges a.ranges b.ranges⟩

/-- The characters in just one of the sets. -/
def symDiff (a b : CharSet) : CharSet := (a.union b).diff (a.inter b)

/-- The ranges between ascending ranges, the first of which starts after `last`. Where two
ranges meet across the gap in the code points there is none; the two characters next to the gap
stand in its place. -/
def gapsAfter (last : Nat) : List (Nat × Nat) → List (Nat × Nat)
  | [] => if last < greatest then [(next last, greatest)] else []
  | (lo, hi) :: rs => (min (next last) (prev lo), max (next last) (prev lo)) :: gapsAfter hi rs

/-- The characters that are not in the set. -/
def compl (s : CharSet) : CharSet :=
  match s.ranges with
  | [] => all
  | (lo, hi) :: rs =>
    let gaps := gapsAfter hi rs
    if 0 < lo then ⟨(0, prev lo) :: gaps⟩ else ⟨gaps⟩

/-! ## Written sets -/

/-- The ranges that a text lists: hexadecimal code points, or two of them with a hyphen between
for a range, divided by blanks. `first` is the start of a range whose end is being read, and
`code` is what was read of a code point. -/
def readRanges : (first : Option Nat) → (code : Option Nat) → List Char → List (Nat × Nat)
  | first, code, [] =>
    match code with
    | some n => [(first.getD n, n)]
    | none => []
  | first, code, c :: s =>
    if c == '-' then readRanges code none s
    else
      match Decimal.digitValue? 16 c, code with
      | some d, _ => readRanges first (some (code.getD 0 * 16 + d)) s
      | none, some n => (first.getD n, n) :: readRanges none none s
      | none, none => readRanges first none s

/-- The set that a text lists, in ascending order. -/
def ofText (text : String) : CharSet := ⟨readRanges none none text.toList⟩

end CharSet

end TreeLint
