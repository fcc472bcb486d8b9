import TreeLint.Unicode.Age
import TreeLint.Unicode.Break
import TreeLint.Unicode.ScriptExtensions

/-!
# Properties by name

A property is asked for by its name alone, or by the name of a family and a value in it, such as
the script and Greek. In names, case, blanks, hyphens and underscores do not count, nor does a
leading `is`.
-/

namespace TreeLint.Unicode

/-- A name without what does not count in it. The comment property keeps its short name, which
would otherwise be that of a category. -/
def plainName (name : List Char) : String :=
  let (hasIs, rest) := match name with
    | a :: b :: rest =>
      if (a == 'i' || a == 'I') && (b == 's' || b == 'S') then (true, rest) else (false, name)
    | _ => (false, name)
  let kept := rest.filter fun c => c.toNat < 0x80 && c != ' ' && c != '_' && c != '-'
  let plain := String.ofList (kept.map Char.toLower)
  if hasIs && plain == "c" then "isc" else plain

/-- The set with that name in a table. -/
def findNamed? (table : List (List String × CharSet)) (name : String) : Option CharSet :=
  (table.find? fun (names, _) => names.contains name).map Prod.snd

/-- The characters with the property of that name: a property that holds or does not, a general
category or a script. Three short names of other properties are taken as categories. -/
def property? (name : List Char) : Option CharSet :=
  let plain := plainName name
  let binary := if ["cf", "sc", "lc"].contains plain then none else findNamed? Binary.named plain
  binary <|> findNamed? Category.named plain <|> Script.find? plain

/-- The characters for which the property of that name has that value. -/
def propertyValue? (name value : List Char) : Option CharSet :=
  let value := plainName value
  match plainName name with
  | "gc" | "generalcategory" => findNamed? Category.named value
  | "sc" | "script" => Script.find? value
  | "scx" | "scriptextensions" => ScriptExtensions.find? value
  | "age" => Age.find? value
  | "gcb" | "graphemeclusterbreak" => findNamed? GraphemeBreak.named value
  | "wb" | "wordbreak" => findNamed? WordBreak.named value
  | "sb" | "sentencebreak" => findNamed? SentenceBreak.named value
  | _ => none

/-! ## Classes of characters -/

def digit : CharSet := Category.decimalNumber

def blank : CharSet := Binary.whiteSpace

/-- The characters of which words are made. -/
def word : CharSet :=
  .unions [Binary.alphabetic, Category.mark, digit, Category.connectorPunctuation,
    Binary.joinControl]

end TreeLint.Unicode
