import TreeLint.Decimal.Binary
import TreeLint.Decimal.Reader
import TreeLint.Json.Fault

/-!
# Numbers of JSON

A number is read digit by digit into sixty-four bits; digits that do not fit any more only count.
`readNumber` tells a natural number that fits from any other number. A number that is larger than
every double is refused, even where no number is wanted. `passNumber` passes over a number and
looks at its form only.
-/

namespace TreeLint.Json

/-- A natural number that fits into 64 bits, or another number. -/
inductive Number where
  | natural (n : Nat)
  | other
deriving DecidableEq, Inhabited, Repr

def maxSignificand : Nat := 0xFFFFFFFFFFFFFFFF

/-- The largest exponent that is computed with. -/
def maxExponent : Nat := 0x7FFFFFFF

/-- The significand after as many digits as fit, and the number of these. -/
def absorb : (significand count : Nat) → (digits : List Char) → Nat × Nat
  | significand, count, [] => (significand, count)
  | significand, count, c :: digits =>
    let next := significand * 10 + (c.toNat - 48)
    if next ≤ maxSignificand then absorb next (count + 1) digits else (significand, count)

/-- The double nearest to a natural number, as a natural number; `none` if there is none. -/
def roundNat? (n : Nat) : Option Nat :=
  match Decimal.Datum.ofBits (Decimal.nearestBits n 1) with
  | .finite _ b => some (b.mantissa * Nat.pow 2 b.exponent.toNat / Nat.pow 2 (-b.exponent).toNat)
  | _ => none

/-- Whether `significand * 10^exponent` is past the largest double. The power and the significand
are rounded before they are multiplied, and there is no power past `10^308`. -/
def isHuge (significand : Nat) (exponent : Int) : Bool :=
  match exponent with
  | .negSucc _ => false
  | .ofNat e =>
    significand != 0 &&
      (308 < e ||
        match roundNat? significand, roundNat? (Nat.pow 10 e) with
        | some s, some p => (roundNat? (s * p)).isNone
        | _, _ => true)

/-- Refuses a number that is too large, right before `s`. -/
def checkSize (significand : Nat) (exponent : Int) (s : List Char) : Result Number :=
  if isHuge significand exponent then failBefore .hugeNumber s else .ok (.other, s)

/-- The digits of an exponent, whose value so far is `e`. An exponent that is too large to compute
with leaves nothing but zero or a number that is too large. -/
def exponentDigits (significand : Nat) (start : Int) (negative : Bool) :
    (e : Nat) → List Char → Result Number
  | e, [] => checkSize significand (if negative then start - e else start + e) []
  | e, c :: s =>
    if c.isDigit then
      let next := e * 10 + (c.toNat - 48)
      if maxExponent < next then
        if significand != 0 && !negative then failBefore .hugeNumber s
        else .ok (.other, s.dropWhile Char.isDigit)
      else exponentDigits significand start negative next s
    else checkSize significand (if negative then start - e else start + e) (c :: s)

/-- An exponent, after its letter. -/
def readExponent (significand : Nat) (start : Int) (s : List Char) : Result Number :=
  let (negative, s) := Decimal.splitSign s
  match s with
  | [] => failAt .endInValue []
  | c :: rest =>
    if c.isDigit then exponentDigits significand start negative (c.toNat - 48) rest
    else failAt .badNumber s

def isExponentMark (c : Char) : Bool := c == 'e' || c == 'E'

/-- What may follow the digits of a number that is no natural number. -/
def readTail (significand : Nat) (exponent : Int) (s : List Char) : Result Number :=
  match s with
  | [] => checkSize significand exponent []
  | c :: rest =>
    if isExponentMark c then readExponent significand exponent rest
    else checkSize significand exponent s

/-- The decimals of a number, after the point. -/
def readDecimals (significand : Nat) (exponent : Int) (s : List Char) : Result Number :=
  let digits := s.takeWhile Char.isDigit
  let rest := s.dropWhile Char.isDigit
  if digits.isEmpty then
    if s.isEmpty then failAt .endInValue [] else failAt .badNumber s
  else
    let (significand, count) := absorb significand 0 digits
    readTail significand (exponent - count) rest

/-- What follows the digits before the point. `dropped` digits did not fit. -/
def afterDigits (negative : Bool) (significand dropped : Nat) (s : List Char) : Result Number :=
  match s with
  | '.' :: rest => readDecimals significand dropped rest
  | _ =>
    if s.head?.any isExponentMark || 0 < dropped then readTail significand dropped s
    else .ok (if negative then .other else .natural significand, s)

/-- A number, after its sign. -/
def readNumber (negative : Bool) (s : List Char) : Result Number :=
  match s with
  | [] => failAt .endInValue []
  | c :: rest =>
    if c == '0' then
      if rest.head?.any Char.isDigit then failAt .badNumber rest
      else afterDigits negative 0 0 rest
    else if c.isDigit then
      let digits := s.takeWhile Char.isDigit
      let (significand, count) := absorb 0 0 digits
      afterDigits negative significand (digits.length - count) (s.dropWhile Char.isDigit)
    else failAt .badNumber s

/-! ## Passing over -/

/-- Passes over an exponent, after its letter. -/
def passExponent (s : List Char) : Except Fault (List Char) :=
  let (_, s) := Decimal.splitSign s
  if s.head?.any Char.isDigit then .ok (s.dropWhile Char.isDigit) else failAt .badNumber s

/-- Passes over the exponent that a number may end with. -/
def passTail (s : List Char) : Except Fault (List Char) :=
  match s with
  | [] => .ok []
  | c :: rest => if isExponentMark c then passExponent rest else .ok s

/-- Passes over what follows the digits before the point. -/
def passAfterDigits (s : List Char) : Except Fault (List Char) :=
  match s with
  | '.' :: rest =>
    if rest.head?.any Char.isDigit then passTail (rest.dropWhile Char.isDigit)
    else failAt .badNumber rest
  | _ => passTail s

/-- Passes over a number, after its sign. -/
def passNumber (s : List Char) : Except Fault (List Char) :=
  match s with
  | [] => failAt .badNumber []
  | c :: rest =>
    if c == '0' then
      if rest.head?.any Char.isDigit then failAt .badNumber rest else passAfterDigits rest
    else if c.isDigit then passAfterDigits (rest.dropWhile Char.isDigit)
    else failAt .badNumber s

end TreeLint.Json
