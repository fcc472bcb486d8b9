import TreeLint.Decimal.Positional
import TreeLint.Detector.Basic
import TreeLint.Settings.Basic
import TreeLint.Tree.Literal

/-!
# Numbers without a name

A number in a comparison or in arithmetic is reported unless it is allowed or stands in the
declaration of a constant. A minus sign in front belongs to the number.
-/

namespace TreeLint.Rules.MagicNumber

def rule : Rule := ⟨"quality/magic-number", .low, .quality, "Magic number"⟩

def comparisonOps : List String := ["==", "!=", "===", "!==", "<", "<=", ">", ">="]

def arithmeticOps : List String := ["+", "-", "*", "/", "%", "<<", ">>", "**", "//"]

def constantModifiers : List String := ["final", "const", "readonly", "constexpr"]

/-- Numbers closer than this are the same: the distance from 1 to the next double. -/
def tolerance : Float := Float.ofBits 0x3CB0000000000000

def isAllowed (allowed : List Float) (x : Float) : Bool :=
  allowed.any fun a => (a - x).abs < tolerance

/-- Whether a name is written like that of a constant: capitals, digits and underscores. -/
def isConstantName (name : String) : Bool :=
  name.toList.any Char.isUpper &&
    name.toList.all fun c => c.isUpper || c.isDigit || c == '_'

def declaresConstant (n : Node) : Bool :=
  (n.kind == .field || n.kind == .localVar) &&
    (constantModifiers.any n.hasModifier || isConstantName n.nameText)

/-- A name for a number that many know. -/
def suggestedName? (x : Float) : Option String :=
  match Decimal.toIntWithin (-0x8000000000000000) 0x7FFFFFFFFFFFFFFF x with
  | 200 => some "HTTP_OK"
  | 404 => some "HTTP_NOT_FOUND"
  | 500 => some "HTTP_INTERNAL_SERVER_ERROR"
  | 60 => some "SECONDS_PER_MINUTE"
  | 3600 => some "SECONDS_PER_HOUR"
  | 86400 => some "SECONDS_PER_DAY"
  | 1024 => some "BYTES_PER_KB"
  | _ => none

def hint (x : Float) : String :=
  match suggestedName? x with
  | some name => "Extract it into a named constant such as " ++ name
  | none => "Extract it into a named constant"

/-- Where a number is used, by the operator around it. -/
def usage? (op : String) : Option String :=
  if comparisonOps.contains op then some "comparison"
  else if arithmeticOps.contains op then some "arithmetic"
  else none

def isNegation (n : Node) : Bool := n.kind == .unary && n.valueText == "-"

/-- A number with its sign: its value, where it stands, and the node around it. -/
def signed (s : Site) (n : Node) (x : Float) : Float × Span × Option Node :=
  match s.ancestors with
  | p :: rest => if isNegation p then (-x, p.span, rest.head?) else (x, n.span, some p)
  | [] => (x, n.span, none)

def report (allowed : List Float) (s : Site) (n : Node) : List Finding :=
  match n.numberValue? with
  | some x =>
    let (x, span, around) := signed s n x
    match (around.filter (·.kind == .binary)).bind (usage? ·.valueText) with
    | some usage =>
      if isAllowed allowed x || s.ancestorsInScope.any declaresConstant then []
      else
        let message := "Magic number " ++ Decimal.Style.message.render x ++ " used in " ++ usage
        [(s.findingAt rule span message).withHint (hint x)]
    | none => []
  | none => []

def detector (r : RuleSettings) : Detector :=
  .reporting rule [.numberLiteral] (report r.allowedNumbers)

end TreeLint.Rules.MagicNumber
