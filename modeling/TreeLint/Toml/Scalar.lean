import TreeLint.Decimal.Reader
import TreeLint.Toml.Value

/-!
# Numbers, dates and truth values of TOML

These are written without quotes, so that each of them is a word: it ends at a blank, a comma, a
closing bracket, a comment or the end of the line. `Value.ofWord?` says what a word stands for.

An integer has to fit into 64 bits. Digits may be grouped by single underscores. A float that is
too large for a double is refused, one that is too small for a double is the negative infinity.
-/

namespace TreeLint.Toml

/-- Whether a character ends a word. -/
def endsWord (c : Char) : Bool := " \t\n\r#,]\x7d".toList.contains c

/-! ## Numbers -/

/-- Digits without the underscores that group them, each of which stands between two digits. -/
def ungroup? (base : Nat) : List Char → Option (List Char)
  | [] => none
  | [c] => if (Decimal.digitValue? base c).isSome then some [c] else none
  | c :: '_' :: s =>
    if (Decimal.digitValue? base c).isSome then (ungroup? base s).map (c :: ·) else none
  | c :: s => if (Decimal.digitValue? base c).isSome then (ungroup? base s).map (c :: ·) else none

/-- The digits of a decimal number, which does not start with a needless zero. -/
def decimalDigits? (s : List Char) : Option (List Char) :=
  match s with
  | '0' :: _ :: _ => none
  | _ => ungroup? 10 s

/-- An integer in a range of 64 bits. -/
def integer? (i : Int) : Option Value :=
  if -0x8000000000000000 ≤ i && i < 0x8000000000000000 then some (.integer i) else none

/-- An integer in a base other than ten, after the letter of the base. -/
def basedInteger? (base : Nat) (s : List Char) : Option Value :=
  match (ungroup? base s).bind (Decimal.natOfDigits? base) with
  | some n => integer? n
  | none => none

/-- A decimal integer. -/
def decimalInteger? (s : List Char) : Option Value :=
  let (negative, digits) := Decimal.splitSign s
  match (decimalDigits? digits).bind (Decimal.natOfDigits? 10) with
  | some n => integer? (if negative then -(n : Int) else n)
  | none => none

/-- The exponent of a float with its letter, the underscores removed; it may be empty. -/
def exponentDigits? : List Char → Option (List Char)
  | [] => some []
  | c :: s =>
    if c == 'e' || c == 'E' then
      match s with
      | '-' :: digits => (ungroup? 10 digits).map (['e', '-'] ++ ·)
      | '+' :: digits => (ungroup? 10 digits).map ('e' :: ·)
      | digits => (ungroup? 10 digits).map ('e' :: ·)
    else none

/-- Whether the exponent of a float starts with the character. -/
def isExponentMark (c : Char) : Bool := c == 'e' || c == 'E'

/-- The digits of a float without its sign, the underscores removed. There is a point between
digits or an exponent, or else it is an integer. -/
def floatDigits? (s : List Char) : Option (List Char) :=
  let mantissa := s.takeWhile (!isExponentMark ·)
  let exponent := s.dropWhile (!isExponentMark ·)
  let whole := mantissa.takeWhile (· != '.')
  match mantissa.dropWhile (· != '.') with
  | '.' :: fraction =>
    match decimalDigits? whole, ungroup? 10 fraction, exponentDigits? exponent with
    | some w, some f, some e => some (w ++ '.' :: f ++ e)
    | _, _, _ => none
  | _ =>
    match exponent.isEmpty, decimalDigits? whole, exponentDigits? exponent with
    | false, some w, some e => some (w ++ e)
    | _, _, _ => none

def float? (s : List Char) : Option Value :=
  let (negative, magnitude) := Decimal.splitSign s
  if magnitude == "inf".toList || magnitude == "nan".toList then
    (Decimal.magnitude? negative magnitude).map .float
  else
    match (floatDigits? magnitude).bind (Decimal.magnitude? negative) with
    | some x =>
      match Decimal.Datum.ofFloat x with
      | .infinite false => none
      | _ => some (.float x)
    | none => none

/-! ## Dates and times -/

/-- A number of exactly so many digits in a range, and what follows it. -/
def fixedDigits? (count low high : Nat) (s : List Char) : Option (Nat × List Char) :=
  let digits := s.take count
  if digits.length < count then none
  else
    match Decimal.natOfDigits? 10 digits with
    | some n => if low ≤ n && n ≤ high then some (n, s.drop count) else none
    | none => none

/-- What follows a character that has to stand here. -/
def expect? (c : Char) : List Char → Option (List Char)
  | d :: s => if d == c then some s else none
  | [] => none

/-- The number of days of a month. -/
def daysIn (year month : Nat) : Nat :=
  if month == 2 then
    if year % 4 == 0 && (year % 100 != 0 || year % 400 == 0) then 29 else 28
  else if [4, 6, 9, 11].contains month then 30 else 31

/-- What follows a date. -/
def afterDate? (s : List Char) : Option (List Char) := do
  let (year, s) ← fixedDigits? 4 0 9999 s
  let (month, s) ← fixedDigits? 2 1 12 (← expect? '-' s)
  let (_, s) ← fixedDigits? 2 1 (daysIn year month) (← expect? '-' s)
  return s

/-- What follows a time of day. There may be a leap second and any number of decimals. -/
def afterTime? (s : List Char) : Option (List Char) := do
  let (_, s) ← fixedDigits? 2 0 23 s
  let (_, s) ← fixedDigits? 2 0 59 (← expect? ':' s)
  let (_, s) ← fixedDigits? 2 0 60 (← expect? ':' s)
  match s with
  | '.' :: rest => if rest.head?.any Char.isDigit then return rest.dropWhile Char.isDigit else none
  | _ => return s

/-- Whether the text is the offset of a time zone, or empty. -/
def isOffset : List Char → Bool
  | [] => true
  | ['Z'] => true
  | ['z'] => true
  | c :: s =>
    (c == '+' || c == '-') &&
      ((fixedDigits? 2 0 23 s).bind fun (_, s) =>
        (expect? ':' s).bind fun s => fixedDigits? 2 0 59 s).any fun (_, s) => s.isEmpty

/-- Whether the text is a time of day, with or without an offset. -/
def isOffsetTime (s : List Char) : Bool := (afterTime? s).any isOffset

/-- Whether a word is a date, a time of day, or both with a letter between them. -/
def isMoment (s : List Char) : Bool :=
  match afterDate? s with
  | some [] => true
  | some (c :: time) => (c == 'T' || c == 't') && isOffsetTime time
  | none => afterTime? s == some []

/-! ## Words -/

/-- What a word stands for. -/
def Value.ofWord? (word : List Char) : Option Value :=
  match word with
  | ['t', 'r', 'u', 'e'] => some (.boolean true)
  | ['f', 'a', 'l', 's', 'e'] => some (.boolean false)
  | '0' :: 'x' :: s => basedInteger? 16 s
  | '0' :: 'o' :: s => basedInteger? 8 s
  | '0' :: 'b' :: s => basedInteger? 2 s
  | _ =>
    if isMoment word then some (.moment (String.ofList word))
    else
      match decimalInteger? word with
      | some v => some v
      | none => float? word

/-- A value that is written as a word, and what follows it. A date and a time of day with one
blank between them are one value. -/
def readWord? (s : List Char) : Option (Value × List Char) :=
  let word := s.takeWhile (!endsWord ·)
  let rest := s.dropWhile (!endsWord ·)
  let alone := (Value.ofWord? word).map fun v => (v, rest)
  match afterDate? word, rest with
  | some [], ' ' :: after =>
    let time := after.takeWhile (!endsWord ·)
    if isOffsetTime time then
      some (.moment (String.ofList (word ++ ' ' :: time)), after.dropWhile (!endsWord ·))
    else alone
  | _, _ => alone

end TreeLint.Toml
