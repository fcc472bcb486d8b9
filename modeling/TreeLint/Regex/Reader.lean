import TreeLint.Regex.Bracket
import TreeLint.Unicode.Recent

/-!
# Reading patterns

The reader takes the text of a regular expression, character by character, into a pattern. It
keeps the groups that are open, innermost first. Flags such as `(?i)` hold from where they stand
to the end of the group around them, across its alternatives; `(?i:…)` holds for its own group.
A comment in verbose mode can hide a closing parenthesis.

There is no look-around and no reference to a group. A pattern may be nested 250 levels deep.
A text that is no regular expression reads as `none`.
-/

namespace TreeLint.Regex

/-! ## The state of the reader -/

/-- An item of a sequence and how deep it is nested. A change of flags is an item without
pattern. -/
structure Item where
  pattern : Option Pattern
  depth : Nat := 0
deriving Inhabited

/-- A group that is open: what stood before it in the group around it. -/
structure Group where
  /-- The number of the group, if its match is kept. -/
  index : Option Nat
  /-- The flags of the group around it. -/
  flags : Flags
  items : List Item
  alternatives : List (Pattern × Nat)
deriving Inhabited

/-- The reader between two steps. -/
structure ReaderState where
  flags : Flags := {}
  /-- The current alternative, last item first. -/
  items : List Item := []
  /-- The finished alternatives of the current group and how deep they are nested, last one
  first. -/
  alternatives : List (Pattern × Nat) := []
  /-- The groups that are open, innermost first. -/
  outer : List Group := []
  /-- How many groups whose match is kept there are so far. -/
  groups : Nat := 0
  /-- The names of groups so far. -/
  names : List (List Char) := []
deriving Inhabited

namespace ReaderState

/-- The state with one more item that is not nested. -/
def add (st : ReaderState) (p : Pattern) : ReaderState :=
  { st with items := ⟨some p, 0⟩ :: st.items }

/-- The state with one more item, which may not be nested too deep. -/
def addNested? (st : ReaderState) (p : Pattern) (depth : Nat) : Option ReaderState :=
  if depth ≤ deepest then some { st with items := ⟨some p, depth⟩ :: st.items } else none

/-- The current alternative and how deep it is nested. -/
def sequence (st : ReaderState) : Pattern × Nat :=
  (.sequence (st.items.reverse.filterMap (·.pattern)), rowDepth (st.items.map (·.depth)))

/-- The current group and how deep it is nested. -/
def contents (st : ReaderState) : Pattern × Nat :=
  let parts := (st.sequence :: st.alternatives).reverse
  (.choice (parts.map Prod.fst), rowDepth (parts.map Prod.snd))

/-- The state after `|`. -/
def alternate (st : ReaderState) : ReaderState :=
  { st with items := [], alternatives := st.sequence :: st.alternatives }

/-- The state inside a new group. -/
def enter (st : ReaderState) (inner : Flags) (index : Option Nat) : ReaderState :=
  { st with
    flags := inner
    items := []
    alternatives := []
    outer := ⟨index, st.flags, st.items, st.alternatives⟩ :: st.outer }

/-- The state inside a new group whose match is kept. -/
def enterKept (st : ReaderState) : ReaderState :=
  { st.enter st.flags (some (st.groups + 1)) with groups := st.groups + 1 }

/-- The state after `)`. -/
def close? (st : ReaderState) : Option ReaderState :=
  match st.outer with
  | [] => none
  | g :: gs =>
    let (p, depth) := st.contents
    let p := match g.index with
      | some i => .group i p
      | none => p
    { st with
      flags := g.flags
      items := g.items
      alternatives := g.alternatives
      outer := gs : ReaderState }.addNested? p (depth + 1)

/-- The last item repeated; there has to be one that is a pattern. -/
def repeat? (st : ReaderState) (least : Nat) (most : Option Nat) (greedy : Bool) :
    Option ReaderState :=
  match st.items with
  | ⟨some p, depth⟩ :: items =>
    { st with items }.addNested? (p.repeated least most (greedy != st.flags.lazyFirst)) (depth + 1)
  | _ => none

end ReaderState

/-! ## Groups -/

/-- Whether the character may be part of a group name. -/
def isNameChar (first : Bool) (c : Char) : Bool :=
  if first then c == '_' || Unicode.alphabetic.mem c
  else ['_', '.', '[', ']'].contains c || Unicode.alphanumeric.mem c

/-- A named group, after `(?P<` or `(?<`. -/
def namedGroup? (st : ReaderState) (s : List Char) : Option (ReaderState × List Char) :=
  let name := s.takeWhile (· != '>')
  match name, s.dropWhile (· != '>') with
  | c :: cs, '>' :: rest =>
    if isNameChar true c && cs.all (isNameChar false) && !st.names.contains name then
      some ({ st.enterKept with names := name :: st.names }, rest)
    else none
  | _, _ => none

/-- Flags up to `:` or `)`: each at most once, with at most one minus, which a flag has to
follow. Gives the new flags, whether any was named, and what starts with the `:` or `)`. -/
def flags? : (f : Flags) → (value : Bool) → (seen : List Char) → (afterMinus : Bool) → List Char →
    Option (Flags × Bool × List Char)
  | _, _, _, _, [] => none
  | f, value, seen, afterMinus, c :: s =>
    if c == ':' || c == ')' then if afterMinus then none else some (f, !seen.isEmpty, c :: s)
    else if c == '-' then if value then flags? f false seen true s else none
    else if seen.contains c then none
    else
      match f.set? c value with
      | some f => flags? f value (c :: seen) false s
      | none => none

/-- What follows an opening parenthesis. -/
def group? (st : ReaderState) (s : List Char) : Option (ReaderState × List Char) :=
  match st.flags.skip s with
  | '?' :: 'P' :: '<' :: rest => namedGroup? st rest
  | '?' :: '<' :: rest => namedGroup? st rest
  | '?' :: rest =>
    match flags? st.flags true [] false rest with
    | some (inner, _, ':' :: rest) => some (st.enter inner none, rest)
    | some (inner, true, ')' :: rest) =>
      some ({ st with flags := inner, items := ⟨none, 0⟩ :: st.items }, rest)
    | _ => none
  | rest => some (st.enterKept, rest)

/-! ## Repetitions -/

/-- Decimal digits, and what follows them. -/
def digits (f : Flags) : (fuel : Nat) → List Char → List Char × List Char
  | 0, s => ([], s)
  | _ + 1, [] => ([], [])
  | fuel + 1, c :: s =>
    if c.isDigit then
      let (ds, rest) := digits f fuel (f.skip s)
      (c :: ds, rest)
    else ([], c :: s)

/-- A decimal number of 32 bits, with blanks around it. -/
def count? (f : Flags) (s : List Char) : Option (Nat × List Char) :=
  let s := s.dropWhile Text.isBlank
  let (ds, rest) := digits f s.length s
  match Decimal.natOfDigits? 10 ds with
  | some n => if n < 0x100000000 then some (n, rest.dropWhile Text.isBlank) else none
  | none => none

/-- The bounds of a counted repetition, after its opening brace. -/
def bounds? (f : Flags) (s : List Char) : Option ((Nat × Option Nat) × List Char) :=
  match count? f (f.skip s) with
  | some (least, '}' :: rest) => some ((least, some least), rest)
  | some (least, ',' :: rest) =>
    match f.skip rest with
    | '}' :: rest => some ((least, none), rest)
    | rest =>
      match count? f rest with
      | some (most, '}' :: rest) => if least ≤ most then some ((least, some most), rest) else none
      | _ => none
  | _ => none

/-- Whether a repetition is to take as much as possible, and the text after the mark that it is
not. -/
def greedy (s : List Char) : Bool × List Char :=
  match s with
  | '?' :: rest => (false, rest)
  | _ => (true, s)

/-- The last item repeated, with the mark that may follow. -/
def repeatMarked? (st : ReaderState) (least : Nat) (most : Option Nat) (s : List Char) :
    Option (ReaderState × List Char) :=
  let (greedy, rest) := greedy s
  (st.repeat? least most greedy).map fun st => (st, rest)

/-! ## Steps -/

/-- One step: a character of the pattern and all that belongs to it. -/
def step? (st : ReaderState) : List Char → Option (ReaderState × List Char)
  | [] => none
  | c :: s =>
    let f := st.flags
    match c with
    | '(' => group? st s
    | ')' => st.close?.map fun st => (st, s)
    | '|' => some (st.alternate, s)
    | '[' =>
      (bracketExpression? f s).bind fun (inner, rest) =>
        (st.addNested? (.ofSet inner.set) inner.depth).map fun st => (st, rest)
    | '?' => repeatMarked? st 0 (some 1) s
    | '*' => repeatMarked? st 0 none s
    | '+' => repeatMarked? st 1 none s
    | '{' =>
      (bounds? f s).bind fun ((least, most), rest) => repeatMarked? st least most (f.skip rest)
    | '.' => f.dot?.map fun set => (st.add (.ofSet set), s)
    | '^' => some (st.add (.anchor f.caret), s)
    | '$' => some (st.add (.anchor f.dollar), s)
    | '\\' =>
      (escape? f s).bind fun (atom, rest) =>
        match atom with
        | .char c byByte => (f.literal? c byByte).map fun p => (st.add p, rest)
        | .set set => some (st.add (.ofSet set), rest)
        | .anchor a => some (st.add (.anchor a), rest)
    | c => (f.literal? c false).map fun p => (st.add p, s)

/-- Steps until the text is read. Every step consumes a character, so as many as there are
suffice. -/
def steps? : (fuel : Nat) → ReaderState → List Char → Option ReaderState
  | 0, _, _ => none
  | fuel + 1, st, s =>
    match st.flags.skip s with
    | [] => some st
    | rest =>
      match step? st rest with
      | some (st, rest) => steps? fuel st rest
      | none => none

/-- The pattern that a text stands for. Every group has to be closed. -/
def read? (text : List Char) : Option Pattern :=
  match steps? (text.length + 1) {} text with
  | some st =>
    let (p, depth) := st.contents
    if st.outer.isEmpty && depth ≤ deepest then some p else none
  | none => none

end TreeLint.Regex
