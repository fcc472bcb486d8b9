import TreeLint.Decimal.Shortest

/-!
# Reading numbers

The grammar of a decimal number: an optional sign, digits with an optional point among, before
or after them, and an optional exponent; or, in any case of letters, `inf`, `infinity` or `nan`.
A number that no double represents becomes the nearest double.
-/

namespace TreeLint.Decimal

/-- The value of a digit in a base up to sixteen. -/
def digitValue? (base : Nat) (c : Char) : Option Nat :=
  let n := c.toNat
  let v? :=
    if 48 ≤ n && n ≤ 57 then some (n - 48)
    else if 97 ≤ n && n ≤ 102 then some (n - 87)
    else if 65 ≤ n && n ≤ 70 then some (n - 55)
    else none
  v?.filter (· < base)

/-- The value of a non-empty list of digits; `none` if anything else is among them. -/
def natOfDigits? (base : Nat) (s : List Char) : Option Nat :=
  if s.isEmpty then none
  else s.foldlM (fun acc c => (digitValue? base c).map (acc * base + ·)) 0

/-- An optional sign: whether it is a minus, and what follows it. -/
def splitSign : List Char → Bool × List Char
  | '-' :: s => (true, s)
  | '+' :: s => (false, s)
  | s => (false, s)

/-- An integer with an optional sign and at least one digit. -/
def intOfDigits? (base : Nat) (s : List Char) : Option Int :=
  let (negative, ds) := splitSign s
  (natOfDigits? base ds).map fun n => if negative then -(n : Int) else n

/-- The double nearest to `digits * 10^exponent`. Magnitudes that are certain to be infinite or
zero are not computed with. -/
def nearestDec (negative : Bool) (digits : Nat) (exponent : Int) : Float :=
  let top : Int := digitCount digits + exponent
  if digits == 0 || top < -330 then nearest negative 0 1
  else if 310 < top then nearest negative (Nat.pow 10 310) 1
  else nearest negative (digits * Nat.pow 10 exponent.toNat) (Nat.pow 10 (-exponent).toNat)

/-- The digits before and after the point, with what follows them. -/
def splitPoint (s : List Char) : List Char × List Char × List Char :=
  let whole := s.takeWhile Char.isDigit
  match s.dropWhile Char.isDigit with
  | '.' :: rest => (whole, rest.takeWhile Char.isDigit, rest.dropWhile Char.isDigit)
  | rest => (whole, [], rest)

/-- An exponent, which is the rest of the text; no text means zero. -/
def exponent? : List Char → Option Int
  | [] => some 0
  | c :: s => if c == 'e' || c == 'E' then intOfDigits? 10 s else none

/-- A number without sign. -/
def magnitude? (negative : Bool) (s : List Char) : Option Float :=
  let word := s.map Char.toLower
  if word == "nan".toList then some (Float.ofBits (infinityBits + 1))
  else if word == "inf".toList || word == "infinity".toList then
    some (Float.ofBits (if negative then infinityBits ||| signBit else infinityBits))
  else
    let (whole, fraction, rest) := splitPoint s
    match natOfDigits? 10 (whole ++ fraction), exponent? rest with
    | some digits, some e => some (nearestDec negative digits (e - fraction.length))
    | _, _ => none

/-- The double that a text stands for. -/
def read? (s : List Char) : Option Float :=
  let (negative, rest) := splitSign s
  magnitude? negative rest

end TreeLint.Decimal
