import TreeLint.Regex.Pattern

/-!
# Matching

A text of `n` characters has `n + 1` positions, and a set of positions is a number whose bit `i`
says whether position `i` belongs to it. A pattern is laid on a text: each character set becomes
the set of positions before such a character, each anchor the set of positions where it holds.
`Track.reach` takes the positions where matches start to those where they end, for all starts at
once, so that the time does not depend on how many ways there are to match.

Repetition goes on until another round changes nothing. A round that reaches nothing new reaches
nothing new later either.
-/

namespace TreeLint.Regex

/-- Whether the condition holds between two characters; there is none before the start and none
after the end. -/
def Anchor.holds (a : Anchor) (prev next : Option Char) : Bool :=
  match a with
  | .textStart => prev.isNone
  | .textEnd => next.isNone
  | .lineStart false => prev.all (· == '\n')
  | .lineEnd false => next.all (· == '\n')
  | .lineStart true => prev.all fun c => c == '\n' || (c == '\r' && next != some '\n')
  | .lineEnd true => next.all fun c => c == '\r' || (c == '\n' && prev != some '\r')
  | .wordBoundary w => prev.any w.mem != next.any w.mem
  | .noWordBoundary w => prev.any w.mem == next.any w.mem
  | .wordStart w => !prev.any w.mem && next.any w.mem
  | .wordEnd w => prev.any w.mem && !next.any w.mem
  | .wordStartHalf w => !prev.any w.mem
  | .wordEndHalf w => !next.any w.mem

/-! ## Sets of positions -/

/-- The positions of the members of a list that satisfy `p`. -/
def positions {α : Type} (p : α → Bool) : List α → Nat
  | [] => 0
  | a :: as => 2 * positions p as + if p a then 1 else 0

/-- The characters before and after each position. -/
def neighbours (text : List Char) : List (Option Char × Option Char) :=
  (none :: text.map some).zip (text.map some ++ [none])

def allPositions (text : List Char) : Nat := positions (fun _ => true) (neighbours text)

/-! ## Rounds -/

/-- The positions after exactly `k` rounds. -/
def roundsExactly (round : Nat → Nat) : (k : Nat) → (start : Nat) → Nat
  | 0, start => start
  | k + 1, start =>
    let reached := round start
    if reached = start then start else roundsExactly round k reached

/-- The positions after at most `k` rounds. -/
def roundsUpTo (round : Nat → Nat) : (k : Nat) → (start : Nat) → Nat
  | 0, start => start
  | k + 1, start =>
    let reached := start ||| round start
    if reached = start then start else roundsUpTo round k reached

/-! ## Patterns on a text -/

/-- A pattern laid on a text. -/
inductive Track where
  /-- Goes nowhere. -/
  | stay
  /-- One character on, from these positions. -/
  | step (allowed : Nat)
  /-- Stays at these positions. -/
  | hold (allowed : Nat)
  | rep (t : Track) (least : Nat) (most : Option Nat)
  | seq (t u : Track)
  | alt (t u : Track)
deriving DecidableEq, Inhabited, Repr

/-- The positions that the track leads to from the given ones, in a text of `length`
characters. Rounds without limit are no more than the text has characters: each of them but the
last reaches something new. -/
def Track.reach (length : Nat) : Track → Nat → Nat
  | .stay, start => start
  | .step allowed, start => (start &&& allowed) <<< 1
  | .hold allowed, start => start &&& allowed
  | .rep t least most, start =>
    let more := match most with
      | none => length + 1
      | some m => m - least
    roundsUpTo (t.reach length) more (roundsExactly (t.reach length) least start)
  | .seq t u, start => u.reach length (t.reach length start)
  | .alt t u, start => t.reach length start ||| u.reach length start

namespace Pattern

/-- The pattern laid on a text. -/
def track (text : List Char) : Pattern → Track
  | .empty => .stay
  | .literal cs => cs.foldr (fun c rest => .seq (.step (positions (· == c) text)) rest) .stay
  | .set s => .step (positions s.mem text)
  | .anchor a => .hold (positions (fun (prev, next) => a.holds prev next) (neighbours text))
  | .rep p least most _ => .rep (p.track text) least most
  | .group _ p => p.track text
  | .seq p q => .seq (p.track text) (q.track text)
  | .alt p q => .alt (p.track text) (q.track text)

/-- Whether the pattern matches somewhere in the text. -/
def matchesIn (p : Pattern) (text : List Char) : Bool :=
  (p.track text).reach text.length (allPositions text) != 0

end Pattern

end TreeLint.Regex
