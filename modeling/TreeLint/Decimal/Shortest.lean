import TreeLint.Decimal.Binary

/-!
# The fewest digits that read back

Among the decimals that round to a given double, `shortest` takes one with as few digits as
possible, and of those the nearest one; of two equally near ones the larger. The reals that
round to the double form an interval around it, whose ends belong to it when the mantissa is
even. For one digit, two digits and so on, only the two neighbours of the double on that decimal
grid have to be tried.
-/

namespace TreeLint.Decimal

/-- The decimal `digits * 10^exponent`. -/
structure Dec where
  digits : Nat
  exponent : Int
deriving DecidableEq, Repr

/-- Compares `a * 10^i` with `n * 2^j`. -/
def compareScaled (a : Nat) (i : Int) (n : Nat) (j : Int) : Ordering :=
  compare (a * Nat.pow 10 i.toNat * Nat.pow 2 (-j).toNat)
    (n * Nat.pow 2 j.toNat * Nat.pow 10 (-i).toNat)

/-- Whether the decimal rounds to the double: it lies between the midpoints toward the two
neighbours of the double. -/
def Binary.readsBack (x : Binary) (d : Dec) : Bool :=
  let low := if x.narrowBelow then 4 * x.mantissa - 1 else 4 * x.mantissa - 2
  let high := 4 * x.mantissa + 2
  let closed := x.mantissa % 2 == 0
  let l := compareScaled d.digits d.exponent low (x.exponent - 2)
  let h := compareScaled d.digits d.exponent high (x.exponent - 2)
  (l == .gt || (closed && l == .eq)) && (h == .lt || (closed && h == .eq))

/-- A positive double as a ratio of natural numbers. -/
def Binary.ratio (x : Binary) : Nat × Nat :=
  (x.mantissa * Nat.pow 2 x.exponent.toNat, Nat.pow 2 (-x.exponent).toNat)

/-- The number of decimal digits of a natural number; zero has one. -/
def digitCount (n : Nat) : Nat := (Nat.toDigits 10 n).length

/-- The least `j` from `j` on with `den ≤ num * 10^j`, among the first `fuel` ones. -/
def liftTen (num den : Nat) : (fuel j : Nat) → Nat
  | 0, j => j
  | fuel + 1, j => if den ≤ num * Nat.pow 10 j then j else liftTen num den fuel (j + 1)

/-- The largest `e` with `10^e ≤ num / den`, for a positive ratio above `10^(-400)`. -/
def floorLogTen (num den : Nat) : Int :=
  if den ≤ num then (digitCount (num / den) : Int) - 1 else -(liftTen num den 400 1 : Int)

/-- The neighbour of the double on the grid `10^k` that reads back, if there is one. -/
def Binary.onGrid? (x : Binary) (k : Int) : Option Dec :=
  let (num, den) := x.ratio
  let num' := num * Nat.pow 10 (-k).toNat
  let den' := den * Nat.pow 10 k.toNat
  let low : Dec := ⟨num' / den', k⟩
  let high : Dec := ⟨num' / den' + 1, k⟩
  match x.readsBack low, x.readsBack high with
  | true, true => if 2 * (num' % den') < den' then some low else some high
  | true, false => some low
  | false, true => some high
  | false, false => none

/-- The first grid with a hit, from `n` digits on. -/
def Binary.search (x : Binary) (top : Int) : (fuel n : Nat) → Dec
  | 0, n => ⟨0, n⟩
  | fuel + 1, n =>
    match x.onGrid? (top + 1 - n) with
    | some d => d
    | none => x.search top fuel (n + 1)

/-- The shortest decimal that reads back as the double. Seventeen digits always suffice. -/
def Binary.shortest (x : Binary) : Dec :=
  if x.mantissa == 0 then ⟨0, 0⟩
  else
    let (num, den) := x.ratio
    x.search (floorLogTen num den) 17 1

end TreeLint.Decimal
