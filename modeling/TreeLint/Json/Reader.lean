import TreeLint.Json.Pass

/-!
# Reading JSON of a known shape

Readers for the shapes that values have: texts, words, numbers, names of a closed set, lists and
records. A record is an object with known keys, or a list of its fields in their order; keys that
are not known are passed over, and a known key must not repeat.

`depth` says how many lists, records and names in braces may still be opened. It limits the values
that are read, not those that are passed over. `fuel` is a number of rounds that no loop exceeds,
such as the length of the text.
-/

namespace TreeLint.Json

/-! ## Values of another shape -/

/-- The fault of a value that has another shape than the wanted one. If the value is no JSON either,
that is the fault. -/
def mistyped (s : List Char) : Fault :=
  let faultOf {α : Type} (r : Except Fault α) : Fault :=
    match r with
    | .ok _ => .shape
    | .error e => e
  match s with
  | 'n' :: rest => faultOf (word ['u', 'l', 'l'] rest)
  | 't' :: rest => faultOf (word ['r', 'u', 'e'] rest)
  | 'f' :: rest => faultOf (word ['a', 'l', 's', 'e'] rest)
  | '-' :: rest => faultOf (readNumber true rest)
  | '"' :: rest => faultOf (readText rest)
  | '[' :: _ => .shape
  | '{' :: _ => .shape
  | _ =>
    if s.head?.any Char.isDigit then faultOf (readNumber false s)
    else .text .wantsValue (byteCount s - 1)

/-! ## Texts, numbers and names -/

def text (s : List Char) : Result String :=
  match skipFiller s with
  | [] => failAt .endInValue []
  | '"' :: rest => (readText rest).map fun (t, rest) => (String.ofList t, rest)
  | s => .error (mistyped s)

/-- A text or `null`. -/
def optionalText (s : List Char) : Result (Option String) :=
  match skipFiller s with
  | 'n' :: rest => (word ['u', 'l', 'l'] rest).map fun rest => (none, rest)
  | s => (text s).map fun (t, rest) => (some t, rest)

def null (s : List Char) : Except Fault (List Char) :=
  match skipFiller s with
  | [] => failAt .endInValue []
  | 'n' :: rest => word ['u', 'l', 'l'] rest
  | s => .error (mistyped s)

/-- A natural number of 32 bits. -/
def word32 (s : List Char) : Result UInt32 :=
  let fit (r : Result Number) : Result UInt32 :=
    match r with
    | .ok (.natural n, rest) => if n < 0x100000000 then .ok (UInt32.ofNat n, rest) else .error .shape
    | .ok (.other, _) => .error .shape
    | .error e => .error e
  match skipFiller s with
  | [] => failAt .endInValue []
  | '-' :: rest => fit (readNumber true rest)
  | s => if s.head?.any Char.isDigit then fit (readNumber false s) else .error (mistyped s)

/-- What a text names, if it names something. -/
def named {α : Type} (ofName? : String → Option α) (t : String) : Except Fault α :=
  match ofName? t with
  | some a => .ok a
  | none => .error .shape

/-- The text of a name in braces, after the opening brace. -/
def bracedText (s : List Char) : Result String :=
  match skipFiller s with
  | [] => failAt .endInObject []
  | '"' :: rest => (readText rest).map fun (t, rest) => (String.ofList t, rest)
  | '}' :: rest => failAt .wantsValue ('}' :: rest)
  | rest => failAt .keyNoText rest

/-- The end of a name in braces. -/
def closeName {α : Type} (a : α) (s : List Char) : Result α :=
  match skipFiller s with
  | [] => failBefore .endInObject []
  | '}' :: rest => .ok (a, rest)
  | rest => failBefore .wantsValue rest

/-- A name of a closed set: a text, or an object whose only key is the name and whose value is
`null`. -/
def name {α : Type} (ofName? : String → Option α) (depth : Nat) (s : List Char) :
    Except Fault (α × List Char) :=
  match skipFiller s with
  | [] => failAt .endInValue []
  | '"' :: rest => do
    let (t, rest) ← readText rest
    let a ← named ofName? (String.ofList t)
    return (a, rest)
  | '{' :: rest =>
    if depth == 0 then failAt .tooDeep ('{' :: rest)
    else do
      let (t, rest) ← bracedText rest
      let a ← named ofName? t
      closeName a (← null (← colon rest))
  | s => failAt .wantsValue s

/-! ## Lists -/

/-- What comes next in a list: its end, or an item. -/
inductive Next where
  | over (rest : List Char)
  | item (s : List Char)

/-- Looks for the next item of a list. -/
def nextItem (first : Bool) (s : List Char) : Except Fault Next :=
  match skipFiller s with
  | [] => failAt .endInList []
  | c :: rest =>
    if c == ']' then .ok (.over rest)
    else if first then .ok (.item (c :: rest))
    else if c == ',' then
      match skipFiller rest with
      | [] => failAt .endInValue []
      | ']' :: after => failAt .commaBeforeEnd (']' :: after)
      | rest => .ok (.item rest)
    else failAt .wantsListEnd (c :: rest)

/-- The end of a list all of whose items were read. -/
def closeList (s : List Char) : Except Fault (List Char) :=
  match skipFiller s with
  | [] => failAt .endInList []
  | ']' :: rest => .ok rest
  | ',' :: rest =>
    match skipFiller rest with
    | ']' :: after => failAt .commaBeforeEnd (']' :: after)
    | rest => failAt .textAfterEnd rest
  | rest => failAt .textAfterEnd rest

/-- The items of a list after those that were read so far, last one first. -/
def items {α : Type} (item : List Char → Result α) :
    (fuel : Nat) → (read : List α) → List Char → Result (List α)
  | 0, _, _ => .error .shape
  | fuel + 1, read, s =>
    match nextItem read.isEmpty s with
    | .error e => .error e
    | .ok (.over rest) => .ok (read.reverse, rest)
    | .ok (.item s) =>
      match item s with
      | .error e => .error e
      | .ok (a, rest) => items item fuel (a :: read) rest

/-- Opens a bracket at the start of `s`, if the depth allows it. -/
def enter {α : Type} (depth : Nat) (s : List Char) (inside : Except Fault α) : Except Fault α :=
  if depth == 0 then failAt .tooDeep s else inside

def list {α : Type} (item : List Char → Result α) (fuel depth : Nat) (s : List Char) :
    Result (List α) :=
  match skipFiller s with
  | [] => failAt .endInValue []
  | '[' :: rest => enter depth ('[' :: rest) (items item fuel [] rest)
  | s => .error (mistyped s)

/-- A list of exactly two items. -/
def pair {α β : Type} (left : List Char → Result α) (right : List Char → Result β) (depth : Nat)
    (s : List Char) : Except Fault ((α × β) × List Char) :=
  match skipFiller s with
  | [] => failAt .endInValue []
  | '[' :: rest => enter depth ('[' :: rest) do
    let .item s ← nextItem true rest | .error .shape
    let (a, rest) ← left s
    let .item s ← nextItem false rest | .error .shape
    let (b, rest) ← right s
    return ((a, b), ← closeList rest)
  | s => .error (mistyped s)

/-! ## Records -/

/-- A field of a record that is being read into a draft. -/
structure Member (δ : Type) where
  name : String
  /-- Whether the draft has it already. -/
  isSet : δ → Bool
  /-- Reads it into the draft. -/
  read : δ → List Char → Result δ

/-- A field that a draft holds as an option. -/
def Member.of {δ β : Type} (name : String) (get : δ → Option β) (set : δ → β → δ)
    (read : List Char → Result β) : Member δ where
  name := name
  isSet draft := (get draft).isSome
  read draft s := (read s).map fun (b, rest) => (set draft b, rest)

/-- The fields of a record in their order, after the opening bracket; the last ones may be
missing. -/
def fieldsInOrder {δ : Type} : (first : Bool) → List (Member δ) → (draft : δ) → List Char → Result δ
  | _, [], draft, s => (closeList s).map fun rest => (draft, rest)
  | first, f :: fs, draft, s =>
    match nextItem first s with
    | .error e => .error e
    | .ok (.over rest) => .ok (draft, rest)
    | .ok (.item s) =>
      match f.read draft s with
      | .error e => .error e
      | .ok (draft, rest) => fieldsInOrder false fs draft rest

/-- Looks for the next key of an object: what follows its opening quote. -/
def nextKey (first : Bool) (s : List Char) : Except Fault Next :=
  match skipFiller s with
  | [] => failAt .endInObject []
  | c :: rest =>
    if c == '}' then .ok (.over rest)
    else if first then if c == '"' then .ok (.item rest) else failAt .keyNoText (c :: rest)
    else if c == ',' then
      match skipFiller rest with
      | [] => failAt .endInValue []
      | '"' :: rest => .ok (.item rest)
      | '}' :: after => failAt .commaBeforeEnd ('}' :: after)
      | rest => failAt .keyNoText rest
    else failAt .wantsObjectEnd (c :: rest)

/-- Reads the value of a key into a draft, or passes over it. -/
def fieldValue {δ : Type} (fuel : Nat) (fields : List (Member δ)) (key : String) (draft : δ)
    (s : List Char) : Result δ :=
  match fields.find? (·.name == key) with
  | some f => if f.isSet draft then .error .shape else (colon s).bind (f.read draft)
  | none => (colon s).bind fun s => (passValue fuel s).map fun rest => (draft, rest)

/-- The fields of a record by their keys, after the opening brace. Every round consumes a
character. -/
def fieldsByKey {δ : Type} (fields : List (Member δ)) (loop : Nat) :
    (fuel : Nat) → (first : Bool) → (draft : δ) → List Char → Result δ
  | 0, _, _, _ => .error .shape
  | fuel + 1, first, draft, s =>
    match nextKey first s with
    | .error e => .error e
    | .ok (.over rest) => .ok (draft, rest)
    | .ok (.item s) =>
      match readText s with
      | .error e => .error e
      | .ok (key, rest) =>
        match fieldValue loop fields (String.ofList key) draft rest with
        | .error e => .error e
        | .ok (draft, rest) => fieldsByKey fields loop fuel false draft rest

/-- What a draft amounts to; it may lack something. -/
def complete {δ α : Type} (finish : δ → Option α) (r : Result δ) : Result α :=
  match r with
  | .error e => .error e
  | .ok (draft, rest) =>
    match finish draft with
    | some a => .ok (a, rest)
    | none => .error .shape

def record {δ α : Type} (fields : List (Member δ)) (empty : δ) (finish : δ → Option α)
    (fuel depth : Nat) (s : List Char) : Result α :=
  match skipFiller s with
  | [] => failAt .endInValue []
  | '[' :: rest =>
    enter depth ('[' :: rest) (complete finish (fieldsInOrder true fields empty rest))
  | '{' :: rest =>
    enter depth ('{' :: rest) (complete finish (fieldsByKey fields fuel fuel true empty rest))
  | s => .error (mistyped s)

end TreeLint.Json
