import TreeLint.Document.Reader

/-!
# Writing tree documents

A document is written without any filler. The fields of a node come in their order; texts that a
node does not have and lists that are empty are left out.
-/

namespace TreeLint.Document

/-- Items with commas between them. -/
def commas : List (List Char) → List Char
  | [] => []
  | [item] => item
  | item :: items => item ++ ',' :: commas items

def writeText (t : String) : List Char := Json.encode t.toList

def writeField (key : String) (value : List Char) : List Char := writeText key ++ ':' :: value

/-- A field that may be missing. -/
def writeOptional (key : String) (t : Option String) : List (List Char) :=
  t.toList.map fun t => writeField key (writeText t)

def writeList (items : List (List Char)) : List Char := '[' :: commas items ++ [']']

def writeObject (fields : List (List Char)) : List Char := '{' :: commas fields ++ ['}']

def writeWord32 (n : UInt32) : List Char := Nat.toDigits 10 n.toNat

def writeSpan (s : Span) : List Char :=
  writeObject [writeField "startLine" (writeWord32 s.startLine),
    writeField "startCol" (writeWord32 s.startCol), writeField "endLine" (writeWord32 s.endLine),
    writeField "endCol" (writeWord32 s.endCol)]

/-- The fields of the head of a node. -/
def headFields (h : Head) : List (List Char) :=
  [writeField "kind" (writeText h.kind.name), writeField "span" (writeSpan h.span)] ++
    writeOptional "name" h.name ++ writeOptional "value" h.value ++
    writeOptional "typeName" h.typeName ++
    (if h.modifiers.isEmpty then []
     else [writeField "modifiers" (writeList (h.modifiers.map writeText))])

mutual

def writeNode : Node → List Char
  | ⟨h, []⟩ => writeObject (headFields h)
  | ⟨h, c :: cs⟩ =>
    writeObject (headFields h ++ [writeField "children" (writeList (writeChildren (c :: cs)))])

/-- The pairs of a list of children. -/
def writeChildren : List (Role × Node) → List (List Char)
  | [] => []
  | (r, n) :: cs => writeList [writeText r.name, writeNode n] :: writeChildren cs

end

/-- The text of a document. -/
def write (d : Document) : String :=
  String.ofList (writeObject [writeField "source" (writeText d.source),
    writeField "root" (writeNode d.root)])

mutual

/-- The number of edges on the longest way down from the root. -/
def edgeDepth : Node → Nat
  | ⟨_, cs⟩ => edgeDepthList cs

/-- The number of edges on the longest way down through one of the children. -/
def edgeDepthList : List (Role × Node) → Nat
  | [] => 0
  | (_, n) :: cs => max (edgeDepth n + 1) (edgeDepthList cs)

end

end TreeLint.Document
