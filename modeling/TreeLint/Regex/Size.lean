import Std.Data.HashMap
import TreeLint.Regex.Pattern
import TreeLint.Unicode.Utf8

/-!
# The size of a pattern

To be matched, a pattern is turned into two automata over the bytes of the text. One reads
forwards and keeps where groups start and end, the other reads backwards. Each of them may take
ten mebibytes, and a pattern that needs more is refused. Counted repetition is what makes
automata large, since every round has states of its own.

Nothing is built here: `Tally` counts the states as they would be added, in order, and what they
hold. A state takes 32 bytes, and 8 more for each of its transitions if it lists them, or 4 more
for each state that it branches to.
-/

namespace TreeLint.Regex

/-- What an automaton takes so far. -/
structure Tally where
  states : Nat := 0
  /-- The bytes for transitions and branches. -/
  lists : Nat := 0
deriving DecidableEq, Inhabited, Repr

namespace Tally

/-- The size in bytes. -/
def bytes (t : Tally) : Nat := 32 * t.states + t.lists

/-- The size that an automaton may have. -/
def limit : Nat := 10 * 0x100000

/-- Whether the automaton is too large. -/
def isOver (t : Tally) : Bool := limit < t.bytes

/-- With more states. -/
def withStates (t : Tally) (count : Nat) : Tally := { t with states := t.states + count }

/-- With more transitions in lists. -/
def withTransitions (t : Tally) (count : Nat) : Tally := { t with lists := t.lists + 8 * count }

/-- With more branches. -/
def withBranches (t : Tally) (count : Nat) : Tally := { t with lists := t.lists + 4 * count }

end Tally

/-- What an automaton takes after a part was added, and whether the part ends in a state that
branches, so that what follows is one more branch. -/
structure Part where
  tally : Tally
  branches : Bool := false
deriving DecidableEq, Inhabited, Repr

/-- The tally when the end of the part is tied to what follows. -/
def Part.tied (p : Part) : Tally := if p.branches then p.tally.withBranches 1 else p.tally

/-! ## Sets of characters -/

/-- A step of the hash that places known states. -/
def mix (hash : UInt64) (n : Nat) : UInt64 := (hash ^^^ n.toUInt64) * 1099511628211

/-- Where a key is placed among `places` places. -/
def place (places : Nat) (key : List Nat) : Nat :=
  (key.foldl mix 14695981039346656037).toNat % places

/-- The states that may be used again, each at its place; a place keeps the last one. The key of
a state is what tells it from others. -/
abbrev Known := Std.HashMap Nat (List Nat × Nat)

/-- The state with a key, which is added if it is not known. -/
def stateFor (places : Nat) (key : List Nat) (transitions : Nat) (t : Tally) (known : Known) :
    Nat × Tally × Known :=
  let spot := place places key
  let added := (t.states, (t.withStates 1).withTransitions transitions,
    known.insert spot (key, t.states))
  match known[spot]? with
  | some (other, state) => if other = key then (state, t, known) else added
  | none => added

/-- A state that is not finished: its transitions so far, as the numbers of their keys, and the
bytes of the last one, whose target is the next state on the way. -/
structure Unfinished where
  count : Nat
  key : List Nat
  last : Nat × Nat
deriving DecidableEq, Inhabited, Repr

/-- The state with its last transition made to lead to `target`. -/
def Unfinished.lead (u : Unfinished) (target : Nat) : Nat × List Nat :=
  (u.count + 1, u.key ++ [u.last.1, u.last.2, target])

/-- Finishes the states on the way to `target`, the deepest first, and gives the first. -/
def finish (target : Nat) : List Unfinished → Tally → Known → Nat × Tally × Known
  | [], t, known => (target, t, known)
  | u :: deeper, t, known =>
    let (next, t, known) := finish target deeper t known
    let (count, key) := u.lead next
    stateFor 10000 key count t known

/-- New states for ranges of bytes. -/
def fresh (bytes : List (Nat × Nat)) : List Unfinished := bytes.map fun r => ⟨0, [], r⟩

/-- Adds ranges of bytes to the way. What they share with it stays open, the rest of it is
finished. -/
def extend (target : Nat) : List Unfinished → List (Nat × Nat) → Tally → Known →
    List Unfinished × Tally × Known
  | [], bytes, t, known => (fresh bytes, t, known)
  | u :: deeper, [], t, known => (u :: deeper, t, known)
  | u :: deeper, r :: rs, t, known =>
    if u.last = r then
      let (deeper, t, known) := extend target deeper rs t known
      (u :: deeper, t, known)
    else
      let (next, t, known) := finish target deeper t known
      let (count, key) := u.lead next
      (⟨count, key, r⟩ :: fresh rs, t, known)

/-- The ranges of bytes for a set of characters. -/
def byteRangesOf (s : CharSet) : List (List (Nat × Nat)) :=
  s.ranges.flatMap fun (lo, hi) => Unicode.byteRanges lo hi

/-- A set of characters read forwards: one end, and states that are shared where they go on
alike. -/
def addSetForward (s : CharSet) (t : Tally) : Tally :=
  let target := t.states
  let (way, t, known) := (byteRangesOf s).foldl
    (fun (way, t, known) bytes => extend target way bytes t known)
    ([], t.withStates 1, {})
  (finish target way t known).2.1

/-- The states for one character read backwards, from the state before which it stands. -/
def addBackward (next : Nat) : List (Nat × Nat) → Tally → Known → Tally × Known
  | [], t, known => (t, known)
  | (lo, hi) :: rest, t, known =>
    let (state, t, known) := stateFor 1000 [next, lo, hi] 0 t known
    addBackward state rest t known

/-- A set of characters read backwards: a branch for every range of bytes. -/
def addSetBackward (s : CharSet) (t : Tally) : Tally :=
  let target := t.states + 1
  ((byteRangesOf s).foldl
    (fun (t, known) bytes =>
      let (t, known) := addBackward target bytes t known
      (t.withBranches 1, known))
    (t.withStates 2, {})).1

/-- A set of characters. In ASCII, one state lists its ranges. -/
def addSet (backward : Bool) (s : CharSet) (t : Tally) : Tally :=
  if s.isAscii then (t.withStates 2).withTransitions s.ranges.length
  else if backward then addSetBackward s t
  else addSetForward s t

/-! ## Choices between literals -/

/-- The parts of a list between members that are empty, and how many of these there are. -/
def cutAtEnds : List (List Nat) → List (List (List Nat)) × Nat
  | [] => ([[]], 0)
  | w :: ws =>
    let (parts, ends) := cutAtEnds ws
    match w, parts with
    | [], _ => ([] :: parts, ends + 1)
    | _, part :: parts => ((w :: part) :: parts, ends)
    | _, [] => ([[w]], ends)

/-- The list with at most one empty member at its start. -/
def oneEndFirst : List (List Nat) → List (List Nat)
  | [] :: ws => [] :: ws.dropWhile List.isEmpty
  | ws => ws

/-- The words that go on after the byte `b`, without it. -/
def after (b : Nat) (words : List (List Nat)) : List (List Nat) :=
  words.filterMap fun
    | c :: rest => if c = b then some rest else none
    | [] => none

/-- The states for words that share what they started with. Words are taken in order: one that
ends divides those before it from those after it. -/
def addWords : (depth : Nat) → List (List Nat) → Tally → Tally
  | 0, _, t => t
  | depth + 1, words, t =>
    if words.all List.isEmpty then t
    else
      let (parts, ends) := cutAtEnds (oneEndFirst words)
      let parts := parts.filter (!·.isEmpty)
      let t := parts.foldl
        (fun t part =>
          let starts := (part.filterMap List.head?).eraseDups
          let t := starts.foldl (fun t b => addWords depth (after b part) t) t
          let t := t.withStates 1
          if starts.length = 1 then t else t.withTransitions starts.length) t
      (t.withStates 1).withBranches (parts.length + ends)

/-- The bytes of a text, in the order in which they are read. -/
def bytesOf (backward : Bool) (text : List Char) : List Nat :=
  let bytes := text.flatMap fun c => Unicode.encode c.toNat
  if backward then bytes.reverse else bytes

/-- The text of a pattern that is a literal. -/
def Pattern.literal? : Pattern → Option (List Char)
  | .literal text => some text
  | _ => none

/-- A choice between literals. -/
def addLiterals (backward : Bool) (texts : List (List Char)) (t : Tally) : Tally :=
  let words := texts.map (bytesOf backward)
  addWords ((words.map List.length).foldr max 0 + 1) words (t.withStates 1)

/-! ## Repetition -/

/-- Copies of a part after another one, as long as the automaton is not too large. -/
def copies (add : Tally → Part) : (count : Nat) → Part → Part
  | 0, p => p
  | count + 1, p => if p.tally.isOver then p else copies add count (add p.tied)

/-- A part just so many times. -/
def exactly (add : Tally → Part) (count : Nat) (t : Tally) : Part :=
  match count with
  | 0 => ⟨t.withStates 1, false⟩
  | more + 1 => copies add more (add t)

/-- Copies of a part each of which may be the first that is left out. -/
def optionalCopies (add : Tally → Part) : (count : Nat) → Part → Part
  | 0, p => p
  | count + 1, p =>
    if p.tally.isOver then p
    else
      let copy := add (p.tied.withStates 1)
      optionalCopies add count { copy with tally := copy.tally.withBranches 2 }

/-- A part repeated. `consumes` says that no round is empty. -/
def addRepeated (add : Tally → Part) (consumes : Bool) (least : Nat) (most : Option Nat)
    (t : Tally) : Part :=
  match least, most with
  | 0, some 1 => ⟨((add (t.withStates 1)).tied.withStates 1).withBranches 2, false⟩
  | 0, none =>
    if consumes then ⟨(add (t.withStates 1)).tied.withBranches 1, true⟩
    else ⟨((add t).tied.withStates 3).withBranches 4, false⟩
  | 1, none => ⟨((add t).tied.withStates 1).withBranches 1, true⟩
  | least, none =>
    let last := add (exactly add (least - 1) t).tied
    ⟨(last.tied.withStates 1).withBranches 1, true⟩
  | least, some most =>
    let start := exactly add least t
    if least = most then start
    else
      let rest := optionalCopies add (most - least)
        { start with tally := start.tally.withStates 1 }
      ⟨rest.tied, false⟩

/-! ## Patterns -/

/-- Where a pattern stands: by itself, or as the second or a later alternative of a choice,
together with those after it. -/
inductive Place where
  | own | second | later
deriving DecidableEq, Inhabited, Repr

/-- A part as an alternative. The states that all alternatives share come after the second. -/
def Part.settle (p : Part) : Place → Part
  | .own => p
  | .second => ⟨(p.tied.withBranches 1).withStates 2, false⟩
  | .later => ⟨p.tied.withBranches 1, false⟩

namespace Pattern

/-- The automaton with the pattern added. -/
def add (backward : Bool) : Pattern → Place → Tally → Part
  | .empty, pl, t => (⟨t.withStates 1, false⟩ : Part).settle pl
  | .literal text, pl, t =>
    (⟨t.withStates (bytesOf backward text).length, false⟩ : Part).settle pl
  | .set s, pl, t => (⟨addSet backward s t, false⟩ : Part).settle pl
  | .anchor _, pl, t => (⟨t.withStates 1, false⟩ : Part).settle pl
  | .rep p least most _, pl, t =>
    (addRepeated (p.add backward .own) p.consumes least most t).settle pl
  | .group _ p, pl, t =>
    let whole : Part :=
      if backward then p.add backward .own t
      else ⟨(p.add backward .own (t.withStates 1)).tied.withStates 1, false⟩
    whole.settle pl
  | .seq p q, pl, t =>
    let whole : Part :=
      if backward then p.add backward .own (q.add backward .own t).tied
      else q.add backward .own (p.add backward .own t).tied
    whole.settle pl
  | .alt p q, .own, t =>
    match (Pattern.alt p q).alternatives.mapM literal? with
    | some texts => ⟨addLiterals backward texts t, false⟩
    | none => q.add backward .second ((p.add backward .own t).settle .later).tally
  | .alt p q, .second, t =>
    q.add backward .later ((p.add backward .own t).settle .second).tally
  | .alt p q, .later, t =>
    q.add backward .later ((p.add backward .own t).settle .later).tally

/-- The automaton that reads forwards. It starts anywhere, unless all matches start with the
text. -/
def forward (p : Pattern) : Tally :=
  let start : Tally :=
    if p.startsWith .textStart then { states := 1 } else { states := 3, lists := 16 }
  (p.add false .own (start.withStates 1)).tied.withStates 2

/-- The automaton that reads backwards. It starts anywhere, unless all matches end with the
text. -/
def backward (p : Pattern) : Tally :=
  let start : Tally :=
    if p.endsWith .textEnd then { states := 1 } else { states := 3, lists := 16 }
  (p.add true .own start).tied.withStates 1

/-- Whether the pattern is a choice between so many literals that they are searched for without
an automaton of this kind. -/
def isWordList (p : Pattern) : Bool :=
  let parts := p.alternatives
  3000 ≤ parts.length && parts.all (·.literal?.isSome)

/-- Whether the pattern can be matched: neither automaton is too large, or none is needed. -/
def fits (p : Pattern) : Bool :=
  p.isWordList || (!p.forward.isOver && !p.backward.isOver)

end Pattern

end TreeLint.Regex
