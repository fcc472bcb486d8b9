/-!
# Double-precision values as mantissa and exponent

A finite double is `m * 2^q` for a natural number `m` and an integer `q`. `Binary.ofBits` reads
the two off the 64 bits of a double. `nearestBits` goes the other way: it gives the bits of the
double nearest to a ratio of natural numbers, computed exactly, a tie going to the even
mantissa.
-/

namespace TreeLint.Decimal

/-- A finite, non-negative double, `mantissa * 2^exponent`. -/
structure Binary where
  mantissa : Nat
  exponent : Int
  /-- The double below is half as far away as the double above. -/
  narrowBelow : Bool
deriving DecidableEq, Repr

/-- A double by its class. -/
inductive Datum where
  | nan
  | infinite (negative : Bool)
  | finite (negative : Bool) (magnitude : Binary)

/-- The leading bit of a normal mantissa, `2^52`, which the fraction leaves out. -/
def hiddenBit : Nat := 0x10000000000000

/-- The class of a double, read off its bits: a sign, eleven bits of exponent and fifty-two of
fraction. -/
def Datum.ofBits (bits : UInt64) : Datum :=
  let negative := bits >>> 63 == 1
  let e := ((bits >>> 52) &&& 0x7FF).toNat
  let f := (bits &&& 0xFFFFFFFFFFFFF).toNat
  if e == 0x7FF then
    if f == 0 then .infinite negative else .nan
  else if e == 0 then .finite negative ⟨f, -1074, false⟩
  else .finite negative ⟨hiddenBit + f, (e : Int) - 1075, f == 0 && 1 < e⟩

/-- The class of a double. -/
def Datum.ofFloat (x : Float) : Datum := .ofBits x.toBits

/-- The quotient rounded to the nearest natural number, a tie to the even one. -/
def divNearest (num den : Nat) : Nat :=
  let q := num / den
  let r := num % den
  if den < 2 * r || (den == 2 * r && q % 2 == 1) then q + 1 else q

/-- The ratio `num / den` multiplied by `2^k`, as a ratio. -/
def scaleTwo (num den : Nat) (k : Int) : Nat × Nat :=
  (num * Nat.pow 2 k.toNat, den * Nat.pow 2 (-k).toNat)

/-- The largest `e` with `2^e ≤ num / den`, for a positive ratio. -/
def floorLogTwo (num den : Nat) : Int :=
  let e := (num.log2 : Int) - den.log2
  let (n, d) := scaleTwo num den (-e)
  if d ≤ n then e else e - 1

def infinityBits : UInt64 := 0x7FF0000000000000

def signBit : UInt64 := 0x8000000000000000

/-- The bits of the double nearest to `num / den`; a ratio past the largest double becomes the
infinity. -/
def nearestBits (num den : Nat) : UInt64 :=
  if num == 0 then 0
  else
    let q := max (floorLogTwo num den - 52) (-1074)
    let (n, d) := scaleTwo num den (-q)
    let m := divNearest n d
    -- A mantissa below 2^52 is subnormal; one that rounded up to 2^53 carries into the exponent.
    let bits := if m < hiddenBit then m else (q + 1075).toNat * hiddenBit + (m - hiddenBit)
    if infinityBits.toNat ≤ bits then infinityBits else UInt64.ofNat bits

/-- The double nearest to `num / den`, with a sign. -/
def nearest (negative : Bool) (num den : Nat) : Float :=
  let bits := nearestBits num den
  Float.ofBits (if negative then bits ||| signBit else bits)

/-- The double nearest to a natural number. -/
def ofNat (n : Nat) : Float := nearest false n 1

/-- The double nearest to an integer. -/
def ofInt (i : Int) : Float := nearest (i < 0) i.natAbs 1

/-- The integer part of a double, toward zero; a value outside `lo … hi` becomes the nearer end
and a NaN becomes zero. -/
def toIntWithin (lo hi : Int) (x : Float) : Int :=
  match Datum.ofFloat x with
  | .nan => 0
  | .infinite negative => if negative then lo else hi
  | .finite negative b =>
    let whole := b.mantissa * Nat.pow 2 b.exponent.toNat / Nat.pow 2 (-b.exponent).toNat
    let i : Int := if negative then -whole else whole
    max lo (min hi i)

end TreeLint.Decimal
