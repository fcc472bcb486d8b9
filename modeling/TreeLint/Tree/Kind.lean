/-!
# Kinds of nodes and roles of children

Front ends map their grammars onto a closed set of node kinds; what has no counterpart becomes
`unknown` and keeps its children, so nothing is lost. A child stands in its parent under a role,
which may repeat (parameters, statements, arguments).
-/

namespace TreeLint

/-- The kind of a node of the normalized syntax tree. -/
inductive Kind where
  | program | classDecl
  | method | constructor | function | lambda | parameter | field
  | block | localVar | assignment | exprStmt | returnStmt | throwStmt | ifStmt
  | forLoop | forEach | whileLoop | doWhile | switchStmt | caseLabel | tryStmt | catchClause
  | synchronized
  | call | newExpr | binary | unary | ternary | identifier | fieldAccess | indexAccess
  | stringLiteral | numberLiteral | boolLiteral | nullLiteral | arrayLiteral
  | unknown
deriving DecidableEq, Inhabited, Repr

namespace Kind

/-- Every kind, in the order of the declaration. -/
def all : List Kind :=
  [.program, .classDecl, .method, .constructor, .function, .lambda, .parameter, .field, .block,
    .localVar, .assignment, .exprStmt, .returnStmt, .throwStmt, .ifStmt, .forLoop, .forEach,
    .whileLoop, .doWhile, .switchStmt, .caseLabel, .tryStmt, .catchClause, .synchronized, .call,
    .newExpr, .binary, .unary, .ternary, .identifier, .fieldAccess, .indexAccess, .stringLiteral,
    .numberLiteral, .boolLiteral, .nullLiteral, .arrayLiteral, .unknown]

theorem mem_all (k : Kind) : k ∈ all := by cases k <;> decide

/-- The name of a kind, in tree documents and in messages. -/
def name : Kind → String
  | .program => "program"
  | .classDecl => "class"
  | .method => "method"
  | .constructor => "constructor"
  | .function => "function"
  | .lambda => "lambda"
  | .parameter => "parameter"
  | .field => "field"
  | .block => "block"
  | .localVar => "local_var"
  | .assignment => "assignment"
  | .exprStmt => "expr_stmt"
  | .returnStmt => "return"
  | .throwStmt => "throw"
  | .ifStmt => "if"
  | .forLoop => "for"
  | .forEach => "for_each"
  | .whileLoop => "while"
  | .doWhile => "do_while"
  | .switchStmt => "switch"
  | .caseLabel => "case"
  | .tryStmt => "try"
  | .catchClause => "catch"
  | .synchronized => "synchronized"
  | .call => "call"
  | .newExpr => "new"
  | .binary => "binary"
  | .unary => "unary"
  | .ternary => "ternary"
  | .identifier => "identifier"
  | .fieldAccess => "field_access"
  | .indexAccess => "index_access"
  | .stringLiteral => "string_literal"
  | .numberLiteral => "number_literal"
  | .boolLiteral => "bool_literal"
  | .nullLiteral => "null_literal"
  | .arrayLiteral => "array_literal"
  | .unknown => "unknown"

/-- The kind of a given name. -/
def ofName? (s : String) : Option Kind := all.find? (·.name == s)

theorem ofName?_name (k : Kind) : ofName? k.name = some k := by cases k <;> decide

/-- The four loops. -/
def isLoop : Kind → Bool
  | .forLoop | .forEach | .whileLoop | .doWhile => true
  | _ => false

/-- The declarations that own a body and a parameter list. -/
def isCallable : Kind → Bool
  | .method | .constructor | .function | .lambda => true
  | _ => false

/-- The literals that stand for one value. -/
def isLiteral : Kind → Bool
  | .stringLiteral | .numberLiteral | .boolLiteral | .nullLiteral => true
  | _ => false

/-- The kinds whose bodies are scopes of their own: a walk that stays inside one scope stops at
them. -/
def isScopeBoundary : Kind → Bool
  | .classDecl | .method | .constructor | .function | .lambda => true
  | _ => false

end Kind

/-- The place that a child takes in its parent. -/
inductive Role where
  | body | param | statement | member | condition | thenBranch | elseBranch | init | update
  | loopVar | iterable | callee | receiver | argument | left | right | target | value | operand
  | expr | resource | catchClause | finallyBlock | caseLabel | element | index
deriving DecidableEq, Inhabited, Repr

namespace Role

/-- Every role, in the order of the declaration. -/
def all : List Role :=
  [.body, .param, .statement, .member, .condition, .thenBranch, .elseBranch, .init, .update,
    .loopVar, .iterable, .callee, .receiver, .argument, .left, .right, .target, .value, .operand,
    .expr, .resource, .catchClause, .finallyBlock, .caseLabel, .element, .index]

theorem mem_all (r : Role) : r ∈ all := by cases r <;> decide

/-- The name of a role in tree documents. -/
def name : Role → String
  | .body => "body"
  | .param => "param"
  | .statement => "statement"
  | .member => "member"
  | .condition => "condition"
  | .thenBranch => "then"
  | .elseBranch => "else"
  | .init => "init"
  | .update => "update"
  | .loopVar => "variable"
  | .iterable => "iterable"
  | .callee => "callee"
  | .receiver => "receiver"
  | .argument => "argument"
  | .left => "left"
  | .right => "right"
  | .target => "target"
  | .value => "value"
  | .operand => "operand"
  | .expr => "expr"
  | .resource => "resource"
  | .catchClause => "catch"
  | .finallyBlock => "finally"
  | .caseLabel => "case"
  | .element => "element"
  | .index => "index"

/-- The role of a given name. -/
def ofName? (s : String) : Option Role := all.find? (·.name == s)

theorem ofName?_name (r : Role) : ofName? r.name = some r := by cases r <;> decide

end Role

end TreeLint
