import TreeLint.Text.Search

/-!
# Languages

A file's language is read off the extension of its path. It decides which exception types are
the most general ones, and whether a handler without a type catches everything.
-/

namespace TreeLint

/-- The source languages that a front end may map onto the shared tree. -/
inductive Language where
  | typeScript | javaScript | python | java | kotlin | cSharp | go | rust | ruby | php | cpp | c
deriving DecidableEq, Inhabited, Repr

namespace Language

/-- The identifier of a language in reports. -/
def id : Language → String
  | .typeScript => "TypeScript"
  | .javaScript => "JavaScript"
  | .python => "Python"
  | .java => "Java"
  | .kotlin => "Kotlin"
  | .cSharp => "CSharp"
  | .go => "Go"
  | .rust => "Rust"
  | .ruby => "Ruby"
  | .php => "Php"
  | .cpp => "Cpp"
  | .c => "C"

/-- The name of a language for readers. -/
def name : Language → String
  | .cSharp => "C#"
  | .php => "PHP"
  | .cpp => "C++"
  | l => l.id

/-- The language of a file extension, in any case of ASCII letters. -/
def ofExtension? (ext : String) : Option Language :=
  match ext.map Char.toLower with
  | "ts" | "tsx" | "mts" | "cts" => some .typeScript
  | "js" | "jsx" | "mjs" | "cjs" => some .javaScript
  | "py" | "pyi" => some .python
  | "java" => some .java
  | "kt" | "kts" => some .kotlin
  | "cs" => some .cSharp
  | "go" => some .go
  | "rs" => some .rust
  | "rb" | "rake" => some .ruby
  | "php" => some .php
  | "cpp" | "cc" | "cxx" | "hpp" | "hxx" | "hh" => some .cpp
  | "c" | "h" => some .c
  | _ => none

/-- The most general exception types that can be caught. In a language without typed handlers
the list is empty. -/
def rootExceptions : Language → List String
  | .java => ["Exception", "Throwable", "java.lang.Exception", "java.lang.Throwable"]
  | .kotlin => ["Exception", "Throwable", "kotlin.Exception", "kotlin.Throwable"]
  | .cSharp => ["Exception", "System.Exception"]
  | .python => ["Exception", "BaseException"]
  | .php => ["Exception", "Throwable", "\\Exception", "\\Throwable"]
  | .ruby => ["Exception", "StandardError"]
  | .cpp => ["...", "std::exception"]
  | .typeScript | .javaScript | .go | .rust | .c => []

/-- Whether a handler without a declared type catches everything. -/
def untypedCatchIsBroad : Language → Bool
  | .python | .cSharp | .ruby | .cpp => true
  | _ => false

end Language

/-! ## Paths -/

namespace Path

/-- The last component of a path, if it names something: empty components and `.` do not count,
and `..` names nothing. -/
def fileName? (path : List Char) : Option (List Char) :=
  let components := (Text.pieces (· == '/') path).filter fun c => c != [] && c != ['.']
  match components.getLast? with
  | some name => if name == ['.', '.'] then none else some name
  | none => none

/-- What follows the last dot of a file name, unless the dot is its first character. -/
def extensionOf? (name : List Char) : Option (List Char) :=
  match (Text.pieces (· == '.') name).reverse with
  | ext :: before :: rest => if before == [] && rest == [] then none else some ext
  | _ => none

def extension? (path : String) : Option String :=
  ((fileName? path.toList).bind extensionOf?).map String.ofList

end Path

/-- The language of a file, by the extension of its path. -/
def Language.ofPath? (path : String) : Option Language :=
  (Path.extension? path).bind Language.ofExtension?

end TreeLint
