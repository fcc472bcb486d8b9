import TreeLint.Unicode.CharSet

/-!
# Patterns

A pattern is a regular expression with its flags worked in: each set of characters already says
whether it ignores case, each anchor whether it looks at lines. A sequence is nested to the
right, and so is a choice; `seqItems` and `alternatives` give their parts as lists.

Patterns are made by `sequence`, `choice`, `repeated` and `ofSet`, which write equal things
alike: a sequence holds no sequence, no empty pattern and no two literals side by side, and a
choice holds no choice. What a choice has in common at the start of all its parts stands before
it.
-/

namespace TreeLint.Regex

/-- A condition on a position of the text, which consumes nothing. -/
inductive Anchor where
  | textStart
  | textEnd
  /-- The start of a line; lines may also end in carriage returns. -/
  | lineStart (returns : Bool)
  | lineEnd (returns : Bool)
  /-- Between a word character and another one; `w` says which characters are such. -/
  | wordBoundary (w : CharSet)
  | noWordBoundary (w : CharSet)
  | wordStart (w : CharSet)
  | wordEnd (w : CharSet)
  /-- Not after a word character. -/
  | wordStartHalf (w : CharSet)
  /-- Not before a word character. -/
  | wordEndHalf (w : CharSet)
deriving DecidableEq, Inhabited, Repr

/-- A regular expression. -/
inductive Pattern where
  | empty
  | literal (text : List Char)
  | set (s : CharSet)
  | anchor (a : Anchor)
  /-- At least `least` times and at most `most` times, if there is a limit; as often as possible
  if `greedy`. -/
  | rep (p : Pattern) (least : Nat) (most : Option Nat) (greedy : Bool)
  /-- A group whose match is kept, with its number. -/
  | group (index : Nat) (p : Pattern)
  | seq (p q : Pattern)
  | alt (p q : Pattern)
deriving DecidableEq, Inhabited, Repr

namespace Pattern

/-! ## Lengths -/

/-- The length of the shortest match; `none` if a part can match nothing. -/
def minLength : Pattern → Option Nat
  | .empty | .anchor _ => some 0
  | .literal text => some text.length
  | .set s => if s.isEmpty then none else some 1
  | .rep p least _ _ => p.minLength.map (· * least)
  | .group _ p => p.minLength
  | .seq p q => p.minLength.bind fun m => q.minLength.map (m + ·)
  | .alt p q => p.minLength.bind fun m => q.minLength.map (min m)

/-- Whether every match takes at least one character. -/
def consumes (p : Pattern) : Bool := p.minLength.any (0 < ·)

/-- Whether every match is empty. -/
def onlyEmpty : Pattern → Bool
  | .empty | .anchor _ => true
  | .literal text => text.isEmpty
  | .set _ => false
  | .rep p _ most _ => most == some 0 || (most.isSome && p.onlyEmpty)
  | .group _ p => p.onlyEmpty
  | .seq p q => p.onlyEmpty && q.onlyEmpty
  | .alt p q => p.onlyEmpty && q.onlyEmpty

/-- Whether every match starts where `a` holds, as far as the shape of the pattern tells. -/
def startsWith (a : Anchor) : Pattern → Bool
  | .empty | .literal _ | .set _ => false
  | .anchor b => a == b
  | .rep p least _ _ => 0 < least && p.startsWith a
  | .group _ p => p.startsWith a
  | .seq p q => p.startsWith a || (p.onlyEmpty && q.startsWith a)
  | .alt p q => p.startsWith a && q.startsWith a

/-- Whether every match ends where `a` holds, as far as the shape of the pattern tells. -/
def endsWith (a : Anchor) : Pattern → Bool
  | .empty | .literal _ | .set _ => false
  | .anchor b => a == b
  | .rep p least _ _ => 0 < least && p.endsWith a
  | .group _ p => p.endsWith a
  | .seq p q => q.endsWith a || (q.onlyEmpty && p.endsWith a)
  | .alt p q => p.endsWith a && q.endsWith a

/-! ## Sets and repetitions -/

/-- One character of a set. A set of one character is a literal. -/
def ofSet (s : CharSet) : Pattern :=
  match s.only? with
  | some c => .literal [c]
  | none => .set s

/-- A repetition. Of a pattern that matches nothing but the empty text, one round is as good as
many; no round is the empty pattern, and just one round is the pattern itself. -/
def repeated (p : Pattern) (least : Nat) (most : Option Nat) (greedy : Bool) : Pattern :=
  let (least, most) :=
    if p.onlyEmpty then (min least 1, some (min (most.getD 1) 1)) else (least, most)
  if most == some 0 then .empty
  else if least == 1 && most == some 1 then p
  else .rep p least most greedy

/-! ## Sequences -/

/-- The parts of a sequence. -/
def seqItems : Pattern → List Pattern
  | .seq p q => p :: q.seqItems
  | p => [p]

/-- The sequence of these parts. -/
def ofSeqItems : List Pattern → Pattern
  | [] => .empty
  | [p] => p
  | p :: ps => .seq p (ofSeqItems ps)

/-- The parts without empty ones, with literals that stand side by side as one. -/
def joinLiterals : List Pattern → List Pattern
  | [] => []
  | .empty :: ps => joinLiterals ps
  | .literal a :: ps =>
    match joinLiterals ps with
    | .literal b :: rest => .literal (a ++ b) :: rest
    | rest => .literal a :: rest
  | p :: ps => p :: joinLiterals ps

/-- Patterns one after the other. -/
def sequence (ps : List Pattern) : Pattern := ofSeqItems (joinLiterals (ps.flatMap seqItems))

/-! ## Choices -/

/-- The parts of a choice. -/
def alternatives : Pattern → List Pattern
  | .alt p q => p :: q.alternatives
  | p => [p]

/-- The choice between these parts; without any, nothing matches. -/
def ofAlternatives : List Pattern → Pattern
  | [] => .set .empty
  | [p] => p
  | p :: ps => .alt p (ofAlternatives ps)

/-- The character of a literal that has one. -/
def char? : Pattern → Option Char
  | .literal [c] => some c
  | _ => none

/-- The set of a pattern that is one. -/
def set? : Pattern → Option CharSet
  | .set s => some s
  | _ => none

/-- A choice between parts that are no choices: between characters, or between sets, it is a
set. -/
def choiceOf (ps : List Pattern) : Pattern :=
  match ps with
  | [p] => p
  | _ =>
    match ps.mapM char?, ps.mapM set? with
    | some (c :: cs), _ => ofSet (.ofCodes ((c :: cs).map Char.toNat))
    | _, some (s :: ss) => ofSet (.unions (s :: ss))
    | _, _ => ofAlternatives ps

/-- What two lists have in common at the start. -/
def commonStart : List Pattern → List Pattern → List Pattern
  | p :: ps, q :: qs => if p = q then p :: commonStart ps qs else []
  | _, _ => []

/-- The parts that all the sequences start with, if all are sequences and there are such parts,
and what is left of each. -/
def liftStart? (ps : List Pattern) : Option (List Pattern × List Pattern) :=
  match ps.map seqItems with
  | [] => none
  | first :: rest =>
    if (first :: rest).all (1 < ·.length) then
      let common := rest.foldl commonStart first
      if common.isEmpty then none
      else some (common, (first :: rest).map fun items => sequence (items.drop common.length))
    else none

/-- Patterns as alternatives. -/
def choice (ps : List Pattern) : Pattern :=
  match choiceOf (ps.flatMap alternatives) with
  | .alt p q =>
    match liftStart? (.alt p q : Pattern).alternatives with
    | some (common, rests) => sequence (common ++ [choiceOf (rests.flatMap alternatives)])
    | none => .alt p q
  | p => p

end Pattern

end TreeLint.Regex
