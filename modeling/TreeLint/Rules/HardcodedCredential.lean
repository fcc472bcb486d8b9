import TreeLint.Detector.Basic
import TreeLint.Regex.OfString
import TreeLint.Settings.Basic
import TreeLint.Tree.Access
import TreeLint.Tree.Scope
import TreeLint.Tree.TypeName

/-!
# Hardcoded credentials

Two things are reported: a string literal that is bound to a name like `password`, and a string
literal that is passed where a call takes a credential, in place or through a local. A local
whose name already gives it away is reported where it is bound, and not again where it is passed.

The patterns for names are joined into one pattern that ignores case. Blank patterns do not
count; without any other pattern no name is suspicious.
-/

namespace TreeLint.Rules.HardcodedCredential

def rule : Rule :=
  ⟨"security/hardcoded-credential", .critical, .security, "Hardcoded credential"⟩

def hint : String := "Load credentials from the environment or a secret store"

/-- The patterns as one text, or nothing if all are blank. -/
def joined? (patterns : List String) : Option String :=
  let used := patterns.filter fun p => !Text.allBlank p.toList
  if used.isEmpty then none else some ("(?i)(?:" ++ String.intercalate "|" used ++ ")")

/-- What the detector was set up with. -/
structure Setup where
  /-- Which names are suspicious. -/
  names : Option Regex.Pattern
  slots : List CredentialSlot
deriving Inhabited

/-- Sets the detector up; the joined patterns have to be a pattern. -/
def setup? (r : RuleSettings) : Except RegistryError Setup :=
  match joined? r.credentialNames with
  | none => .ok ⟨none, r.slotsInForce⟩
  | some text =>
    match Regex.ofString? text with
    | some p => .ok ⟨some p, r.slotsInForce⟩
    | none => .error (.invalidRuleConfig rule.id ("no regular expression: " ++ text))

/-- Whether the name is one that credentials have. -/
def Setup.isCredentialName (c : Setup) (name : String) : Bool :=
  name != "" && c.names.any (·.matchesIn name.toList)

/-- Whether the node is a string literal that says something. -/
def isSecret (n : Node) : Bool := n.kind == .stringLiteral && n.valueText != ""

/-- The name and the value that a declaration or a plain assignment binds. -/
def binding? (n : Node) : Option (String × Node) :=
  match n.kind with
  | .localVar | .field => (n.child? .value).map fun v => (n.nameText, v)
  | .assignment =>
    if n.valueText == "=" then
      (n.child? .target).bind fun t =>
        t.accessName?.bind fun x => (n.child? .value).map fun v => (x, v)
    else none
  | _ => none

/-- The findings at a binding. -/
def reportBinding (c : Setup) (s : Site) (n : Node) : List Finding :=
  match binding? n with
  | some (x, v) =>
    if c.isCredentialName x && isSecret v then
      [(s.finding rule n
        ("String literal assigned to credential-like name '" ++ x ++ "'")).withHint hint]
    else []
  | none => []

/-- The name that slots know a call or a construction by. -/
def callee? (n : Node) : Option String :=
  match n.kind with
  | .call => some n.nameText
  | .newExpr => some ((n.typeName.map simpleType).getD "")
  | _ => none

/-- The finding at an argument that takes a credential. -/
def slotFinding? (c : Setup) (s : Site) (callee : String) (arg : Node) : Option Finding :=
  if isSecret arg then
    some ((s.finding rule arg
      ("String literal passed as credential argument to '" ++ callee ++ "'")).withHint hint)
  else if arg.kind == .identifier then
    match arg.name, s.callable? with
    | some x, some scope =>
      if !c.isCredentialName x && (scope.bindings x).any isSecret then
        some ((s.finding rule arg
          ("'" ++ x ++ "' holds a string literal passed as credential argument to '" ++ callee ++
            "'")).withHint hint)
      else none
    | _, _ => none
  else none

/-- The findings at a call or a construction: the first entry for the callee says which arguments
count. -/
def reportSlots (c : Setup) (s : Site) (n : Node) : List Finding :=
  match callee? n with
  | some callee =>
    match c.slots.find? (·.callee == callee) with
    | some slot =>
      (slot.slots.filterMap fun i => n.arguments[i]?).filterMap (slotFinding? c s callee)
    | none => []
  | none => []

def report (c : Setup) (s : Site) (n : Node) : List Finding :=
  reportBinding c s n ++ reportSlots c s n

/-- The kinds of nodes that bind or pass values. -/
def kinds : List Kind := [.localVar, .field, .assignment, .call, .newExpr]

def detector (r : RuleSettings) : Except RegistryError Detector :=
  (setup? r).map fun c => .reporting rule kinds (report c)

end TreeLint.Rules.HardcodedCredential
