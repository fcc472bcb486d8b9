import TreeLint.Json.Reader
import TreeLint.Source

/-!
# Tree documents

A front end hands over a file as a JSON document with its text and its tree:
`{"source": "…", "root": {"kind": "program", "children": [["member", {…}], …]}}`. A node needs no
more than its kind; a child is a pair of a role and a node. Only a limited number of lists and
objects may be nested in each other, which allows for trees of forty-two levels.

`Document.read` reads a document. `SourceUnit.ofDocument` turns it into a unit; a document that
cannot be read becomes a unit without a tree, and so does a file in a language that is not known.
-/

namespace TreeLint

/-- A file as a front end hands it over. -/
structure Document where
  source : String
  root : Node
deriving DecidableEq, Inhabited

namespace Document

open Json (Member Fault Result)

/-- So many lists and objects may be open at a time. -/
def depthLimit : Nat := 127

/-! ## Spans -/

/-- A span that is being read. -/
structure SpanDraft where
  startLine : Option UInt32 := none
  startCol : Option UInt32 := none
  endLine : Option UInt32 := none
  endCol : Option UInt32 := none

/-- The span, if no coordinate is missing. -/
def SpanDraft.finish? (d : SpanDraft) : Option Span := do
  return ⟨← d.startLine, ← d.startCol, ← d.endLine, ← d.endCol⟩

/-- The fields of a span. -/
def spanFields : List (Member SpanDraft) :=
  [.of "startLine" (·.startLine) (fun d n => { d with startLine := some n }) Json.word32,
    .of "startCol" (·.startCol) (fun d n => { d with startCol := some n }) Json.word32,
    .of "endLine" (·.endLine) (fun d n => { d with endLine := some n }) Json.word32,
    .of "endCol" (·.endCol) (fun d n => { d with endCol := some n }) Json.word32]

def readSpan (fuel depth : Nat) (s : List Char) : Result Span :=
  Json.record spanFields {} SpanDraft.finish? fuel depth s

/-! ## Nodes -/

/-- A node that is being read. -/
structure NodeDraft where
  kind : Option Kind := none
  span : Option Span := none
  name : Option (Option String) := none
  value : Option (Option String) := none
  typeName : Option (Option String) := none
  modifiers : Option (List String) := none
  children : Option (List (Role × Node)) := none

/-- The node, if its kind is not missing. -/
def NodeDraft.finish? (d : NodeDraft) : Option Node :=
  d.kind.map fun kind =>
    { kind
      span := d.span.getD {}
      name := d.name.getD none
      value := d.value.getD none
      typeName := d.typeName.getD none
      modifiers := d.modifiers.getD []
      children := d.children.getD [] }

/-- The fields of a node. `depth` counts from inside the node, and `child` reads the nodes three
levels further down: inside the list of children and the pair. -/
def nodeFields (child : List Char → Result Node) (fuel depth : Nat) : List (Member NodeDraft) :=
  [.of "kind" (·.kind) (fun d k => { d with kind := some k }) (Json.name Kind.ofName? depth),
    .of "span" (·.span) (fun d s => { d with span := some s }) (readSpan fuel depth),
    .of "name" (·.name) (fun d t => { d with name := some t }) Json.optionalText,
    .of "value" (·.value) (fun d t => { d with value := some t }) Json.optionalText,
    .of "typeName" (·.typeName) (fun d t => { d with typeName := some t }) Json.optionalText,
    .of "modifiers" (·.modifiers) (fun d ts => { d with modifiers := some ts })
      (Json.list Json.text fuel depth),
    .of "children" (·.children) (fun d cs => { d with children := some cs })
      (Json.list (Json.pair (Json.name Role.ofName? (depth - 2)) child (depth - 1)) fuel depth)]

/-- A node whose children are read by `child`. -/
def readNodeWith (child : List Char → Result Node) (fuel depth : Nat) (s : List Char) :
    Result Node :=
  Json.record (nodeFields child fuel (depth - 1)) {} NodeDraft.finish? fuel depth s

/-- A node. Where the depth does not allow for a child, none is read. -/
def readNode (fuel : Nat) : (depth : Nat) → List Char → Result Node
  | depth + 3 => readNodeWith (readNode fuel depth) fuel (depth + 3)
  | depth => readNodeWith (Json.failAt .tooDeep) fuel depth

/-! ## Documents -/

/-- A document that is being read. -/
structure Draft where
  source : Option String := none
  root : Option Node := none

/-- The document, if nothing is missing. -/
def Draft.finish? (d : Draft) : Option Document := do
  return ⟨← d.source, ← d.root⟩

/-- The fields of a document. -/
def fields (fuel depth : Nat) : List (Member Draft) :=
  [.of "source" (·.source) (fun d t => { d with source := some t }) Json.text,
    .of "root" (·.root) (fun d n => { d with root := some n }) (readNode fuel depth)]

/-- The document that a text describes, to its end. -/
def readAll (s : List Char) : Except Fault Document :=
  let fuel := s.length + 1
  match Json.record (fields fuel (depthLimit - 1)) {} Draft.finish? fuel depthLimit s with
  | .error e => .error e
  | .ok (d, rest) =>
    match Json.skipFiller rest with
    | [] => .ok d
    | rest => Json.failAt .textAfterEnd rest

/-- The document that a text describes. -/
def read (text : String) : Except Fault Document := readAll text.toList

/-- What is said of a file whose document cannot be read. The words have the place in full, while
the error keeps 32 bits of it. -/
def errorOf (path text : String) : Fault → ParseError
  | .text m left =>
    let place := Json.Place.ofLeft text.toList left
    .badText path (.ofNat place.line) (.ofNat place.column)
      s!"{m.message} at line {place.line} column {place.column}"
  | .shape => .malformedTree path "the document has another shape"

end Document

/-- The unit that a document describes. Without `anyLanguage`, the path has to show a language that
is known. -/
def SourceUnit.ofDocument (anyLanguage : Bool) (path text : String) : SourceUnit :=
  if !anyLanguage && (Language.ofPath? path).isNone then
    .failed path "" (.unsupportedLanguage path)
  else
    match Document.read text with
    | .ok d => .parsed path d.source d.root
    | .error e => .failed path "" (Document.errorOf path text e)

end TreeLint
