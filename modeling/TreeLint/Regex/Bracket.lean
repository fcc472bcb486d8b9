import TreeLint.Regex.Escape

/-!
# Bracket expressions

A bracket expression stands for a set of characters. It holds characters, ranges, classes and
further brackets, and the operations `&&`, `--` and `~~` between such; operations are done from
left to right. The sides of an operation ignore case on their own, and so does every bracket
before it is negated.

How deep a bracket is nested is counted along: a pattern may be nested 250 levels deep.
-/

namespace TreeLint.Regex

/-- How deep a pattern may be nested. -/
def deepest : Nat := 250

/-- How deep a row of things is nested: a row of two or more is one level of its own. -/
def rowDepth : List Nat → Nat
  | [] => 0
  | [d] => d
  | ds => ds.foldr max 0 + 1

/-- The operations between the parts of a bracket expression. -/
inductive SetOp where
  | inter | diff | symDiff
deriving DecidableEq, Inhabited, Repr

/-- The operation on sets. -/
def SetOp.apply : SetOp → CharSet → CharSet → CharSet
  | .inter, a, b => a.inter b
  | .diff, a, b => a.diff b
  | .symDiff, a, b => a.symDiff b

/-- A set and how deep what it was read from is nested. -/
structure Nested where
  set : CharSet
  depth : Nat
deriving DecidableEq, Inhabited, Repr

/-- A bracket that is open: what it holds so far. -/
structure Bracket where
  negated : Bool
  /-- An operation that waits for its right side, with its left side. -/
  waiting : Option (SetOp × Nested) := none
  items : CharSet := .empty
  /-- How deep each item is nested. -/
  depths : List Nat := []
deriving DecidableEq, Inhabited, Repr

namespace Bracket

/-- The bracket with one more item. -/
def add (b : Bracket) (s : CharSet) (depth : Nat) : Bracket :=
  { b with items := b.items.union s, depths := depth :: b.depths }

/-- What the bracket holds, the waiting operation done. -/
def contents (f : Flags) (b : Bracket) : Nested :=
  let right : Nested := ⟨b.items, rowDepth b.depths⟩
  match b.waiting with
  | none => right
  | some (op, left) =>
    ⟨op.apply (f.close left.set) (f.close right.set), max left.depth right.depth + 1⟩

/-- The bracket after an operator: all that it held is the left side, which may not be nested
too deep. -/
def operate? (f : Flags) (op : SetOp) (b : Bracket) : Option Bracket :=
  let left := b.contents f
  if left.depth ≤ deepest then
    some { b with waiting := some (op, left), items := .empty, depths := [] }
  else none

/-- The set of a closed bracket. -/
def close? (f : Flags) (b : Bracket) : Option Nested :=
  let inner := b.contents f
  (f.closeNegate? b.negated inner.set).map fun set => ⟨set, inner.depth + 1⟩

end Bracket

/-- The minus signs that a bracket may start with. -/
def leadingMinus (f : Flags) : (fuel : Nat) → Bracket → List Char → Bracket × List Char
  | 0, b, s => (b, s)
  | _ + 1, b, [] => (b, [])
  | fuel + 1, b, c :: s =>
    if c == '-' then leadingMinus f fuel (b.add (.single '-') 0) (f.skip s) else (b, c :: s)

/-- A bracket that was just opened: an optional `^`, minus signs, and a `]` that is its first
item. -/
def openBracket? (f : Flags) (s : List Char) : Option (Bracket × List Char) :=
  let (negated, s) := match f.skip s with
    | '^' :: rest => (true, f.skip rest)
    | rest => (false, rest)
  match leadingMinus f s.length { negated } s with
  | (_, []) => none
  | (b, ']' :: rest) =>
    if b.depths.isEmpty then some (b.add (.single ']') 0, f.skip rest)
    else some (b, ']' :: rest)
  | opened => some opened

/-- The named classes of bracket expressions, which are all within ASCII. -/
def namedSet? : String → Option CharSet
  | "alnum" => some ⟨[(48, 57), (65, 90), (97, 122)]⟩
  | "alpha" => some ⟨[(65, 90), (97, 122)]⟩
  | "ascii" => some (.range 0 127)
  | "blank" => some ⟨[(9, 9), (32, 32)]⟩
  | "cntrl" => some ⟨[(0, 31), (127, 127)]⟩
  | "digit" => some asciiDigit
  | "graph" => some (.range 33 126)
  | "lower" => some (.range 97 122)
  | "print" => some (.range 32 126)
  | "punct" => some ⟨[(33, 47), (58, 64), (91, 96), (123, 126)]⟩
  | "space" => some asciiBlank
  | "upper" => some (.range 65 90)
  | "word" => some asciiWord
  | "xdigit" => some ⟨[(48, 57), (65, 70), (97, 102)]⟩
  | _ => none

/-- A named class `[:name:]` or `[:^name:]`, after its opening bracket: the class, whether it is
negated, and what follows. -/
def namedClass? : List Char → Option (CharSet × Bool × List Char)
  | ':' :: s =>
    let (negated, s) := match s with
      | '^' :: rest => (true, rest)
      | _ => (false, s)
    (Text.breakOn [':', ']'] s).bind fun (name, rest) =>
      (namedSet? (String.ofList name)).map fun set => (set, negated, rest)
  | _ => none

/-- One item of a bracket: an escape or a character. -/
def bracketAtom? (f : Flags) : List Char → Option (Atom × List Char)
  | [] => none
  | '\\' :: s => escape? f s
  | c :: s => some (.char c false, s)

/-- The character by which a minus is judged, given what follows the minus. In verbose mode
blanks do not count, nor does the sign of a comment; the comment itself does. -/
def judge? (f : Flags) (s : List Char) : Option Char :=
  if f.verbose then
    let past := match s.dropWhile Text.isBlank with
      | '#' :: rest => rest.dropWhile Text.isBlank
      | rest => rest
    past.head? <|> s.head?
  else s.head?

/-- An item or a range of a bracket. A minus before `]` or before another minus makes no
range. -/
def bracketItem? (f : Flags) (s : List Char) : Option (CharSet × List Char) :=
  match bracketAtom? f s with
  | none => none
  | some (atom, rest) =>
    let alone (rest : List Char) : Option (CharSet × List Char) :=
      match atom with
      | .char c _ => (f.bracketChar? c).map fun n => (.range n n, rest)
      | .set set => some (set, rest)
      | .anchor _ => none
    match f.skip rest with
    | [] => none
    | '-' :: after =>
      if judge? f after == some ']' || judge? f after == some '-' then alone ('-' :: after)
      else
        match atom, bracketAtom? f (f.skip after) with
        | .char lo _, some (.char hi _, rest) =>
          match f.bracketChar? lo, f.bracketChar? hi with
          | some lo, some hi => if lo ≤ hi then some (.range lo hi, rest) else none
          | _, _ => none
        | _, _ => none
    | rest => alone rest

/-- A bracket expression, after its opening bracket: `b` is the innermost open bracket and
`outer` are those around it. Every round consumes a character. -/
def brackets? (f : Flags) :
    (fuel : Nat) → (b : Bracket) → (outer : List Bracket) → List Char →
      Option (Nested × List Char)
  | 0, _, _, _ => none
  | fuel + 1, b, outer, s =>
    match f.skip s with
    | [] => none
    | '[' :: rest =>
      match namedClass? rest with
      | some (set, negated, rest) =>
        (f.closeNegate? negated set).bind fun set => brackets? f fuel (b.add set 0) outer rest
      | none =>
        if outer.length < deepest then
          (openBracket? f rest).bind fun (inner, rest) => brackets? f fuel inner (b :: outer) rest
        else none
    | ']' :: rest =>
      (b.close? f).bind fun inner =>
        match outer with
        | [] => some (inner, rest)
        | o :: os => brackets? f fuel (o.add inner.set inner.depth) os rest
    | '&' :: '&' :: rest =>
      (b.operate? f .inter).bind fun b => brackets? f fuel b outer rest
    | '-' :: '-' :: rest =>
      (b.operate? f .diff).bind fun b => brackets? f fuel b outer rest
    | '~' :: '~' :: rest =>
      (b.operate? f .symDiff).bind fun b => brackets? f fuel b outer rest
    | c :: rest =>
      (bracketItem? f (c :: rest)).bind fun (set, rest) => brackets? f fuel (b.add set 0) outer rest

/-- A bracket expression, after its opening bracket. -/
def bracketExpression? (f : Flags) (s : List Char) : Option (Nested × List Char) :=
  (openBracket? f s).bind fun (b, rest) => brackets? f (rest.length + 1) b [] rest

end TreeLint.Regex
