import TreeLint.Decimal.Shortest

/-!
# Writing doubles

Doubles are written positionally, never with an exponent: the shortest digits that read back,
a point where one is needed, and zeros to fill up. What differs from one kind of output to the
next (how a whole number ends, how a NaN is spelled) is a `Style`.
-/

namespace TreeLint.Decimal

/-- The choices of an output format. -/
structure Style where
  /-- What follows the digits of a whole number. -/
  whole : String
  /-- The spelling of a value that is no number. -/
  nan : String
  /-- The spelling of the infinity, after its sign. -/
  infinity : String

/-- In messages a whole number has no point: `100`, `0.5`, `-0`, `NaN`, `inf`. -/
def Style.message : Style := ⟨"", "NaN", "inf"⟩

/-- In settings files a double always shows that it is one: `100.0`, `0.5`, `nan`, `inf`. -/
def Style.settings : Style := ⟨".0", "nan", "inf"⟩

/-- The decimal with the same value whose digits do not end in zero. -/
def Dec.reduce (d : Dec) : Dec := go 17 d
where
  /-- Drops at most `fuel` zeros. -/
  go : Nat → Dec → Dec
    | 0, d => d
    | fuel + 1, d =>
      if d.digits % 10 == 0 && d.digits != 0 then go fuel ⟨d.digits / 10, d.exponent + 1⟩ else d

/-- The positional form of a decimal: digits before the point and digits after it. -/
def Dec.positional (d : Dec) : String × String :=
  let d := d.reduce
  let ds := Nat.toDigits 10 d.digits
  match d.exponent with
  | .ofNat k => (String.ofList (ds ++ List.replicate (if d.digits == 0 then 0 else k) '0'), "")
  | .negSucc j =>
    let places := j + 1
    if places < ds.length then
      (String.ofList (ds.take (ds.length - places)), String.ofList (ds.drop (ds.length - places)))
    else ("0", String.ofList (List.replicate (places - ds.length) '0' ++ ds))

/-- The text of a double in a given style. -/
def Style.render (style : Style) (x : Float) : String :=
  let signed (negative : Bool) (s : String) := if negative then "-" ++ s else s
  match Datum.ofFloat x with
  | .nan => style.nan
  | .infinite negative => signed negative style.infinity
  | .finite negative b =>
    match b.shortest.positional with
    | (whole, "") => signed negative (whole ++ style.whole)
    | (whole, fraction) => signed negative (whole ++ "." ++ fraction)

end TreeLint.Decimal
