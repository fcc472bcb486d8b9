import TreeLint.Json.Number
import TreeLint.Json.Text

/-!
# Passing over JSON values

A value that nobody asks for is passed over: it has to be JSON, but it may be nested as deep as it
likes. The lists and objects that are open are kept on a stack, innermost first, so that the depth
of the value is no depth of recursion.
-/

namespace TreeLint.Json

/-- A list or an object that is open. -/
inductive Frame where
  | list | object
deriving DecidableEq, Inhabited, Repr

namespace Frame

/-- The bracket that closes it. -/
def close : Frame → Char
  | .list => ']'
  | .object => '}'

/-- The text ends inside it. -/
def endMishap : Frame → Mishap
  | .list => .endInList
  | .object => .endInObject

/-- Something else than a comma or the closing bracket follows an item of it. -/
def wantsEnd : Frame → Mishap
  | .list => .wantsListEnd
  | .object => .wantsObjectEnd

end Frame

/-- What comes next: the value is over, or one more item of the frame `f` inside `fs` starts. -/
inductive Turn where
  | done (s : List Char)
  | item (f : Frame) (fs : List Frame) (s : List Char)

/-- Closes frames as far as the text does. With `comma`, an item was just passed, and a comma has to
stand before the next one. -/
def settle : (comma : Bool) → (frames : List Frame) → List Char → Except Fault Turn
  | _, [], s => .ok (.done s)
  | _, f :: _, [] => failAt f.endMishap []
  | comma, f :: fs, c :: s =>
    if isFiller c then settle comma (f :: fs) s
    else if c == ',' && comma then .ok (.item f fs s)
    else if c == f.close then settle true fs s
    else if comma then failAt f.wantsEnd (c :: s)
    else .ok (.item f fs (c :: s))

/-- Passes over what stands before the value of an item: in an object, its key. -/
def passKey (f : Frame) (s : List Char) : Except Fault (List Char) :=
  match f, skipFiller s with
  | .list, _ => .ok s
  | .object, [] => failAt .endInObject []
  | .object, '"' :: rest =>
    match passText rest with
    | .ok rest => colon rest
    | .error e => .error e
  | .object, rest => failAt .keyNoText rest

/-- Passes over a value that is no list and no object. -/
def passScalar (s : List Char) : Except Fault (List Char) :=
  match s with
  | 'n' :: rest => word ['u', 'l', 'l'] rest
  | 't' :: rest => word ['r', 'u', 'e'] rest
  | 'f' :: rest => word ['a', 'l', 's', 'e'] rest
  | '-' :: rest => passNumber rest
  | '"' :: rest => passText rest
  | _ => if s.head?.any Char.isDigit then passNumber s else failAt .wantsValue s

/-- Passes over the start of a value: whether an item is over then, and which frames are open. -/
def passStart (frames : List Frame) (s : List Char) :
    Except Fault (Bool × List Frame × List Char) :=
  match skipFiller s with
  | [] => failAt .endInValue []
  | '[' :: rest => .ok (false, .list :: frames, rest)
  | '{' :: rest => .ok (false, .object :: frames, rest)
  | s => (passScalar s).map fun rest => (true, frames, rest)

/-- Passes over a value inside open frames, to the end of the outermost of them. Every round
consumes a character. -/
def passIn : (fuel : Nat) → (frames : List Frame) → List Char → Except Fault (List Char)
  | 0, _, _ => .error .shape
  | fuel + 1, frames, s =>
    match passStart frames s with
    | .error e => .error e
    | .ok (comma, frames, rest) =>
      match settle comma frames rest with
      | .error e => .error e
      | .ok (.done rest) => .ok rest
      | .ok (.item f fs rest) =>
        match passKey f rest with
        | .error e => .error e
        | .ok rest => passIn fuel (f :: fs) rest

def passValue (fuel : Nat) (s : List Char) : Except Fault (List Char) := passIn fuel [] s

end TreeLint.Json
