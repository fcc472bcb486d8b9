import TreeLint.Detector.Basic
import TreeLint.Settings.Basic
import TreeLint.Tree.Access
import TreeLint.Tree.Scope
import TreeLint.Tree.TypeName

/-!
# Resources that are not released

A local that acquires a resource is followed through the statements after it. Each statement
comes out as one of three: it releases the resource on every way through it, it leaves the scope
with the resource open on some way, or it goes on with the resource open. The first statement
that decides wins; to reach the end of the block undecided is a leak too.
-/

namespace TreeLint.Rules.ResourceLeak

def rule : Rule :=
  ⟨"performance/resource-leak", .high, .performance, "Resource not released on every path"⟩

/-- What a statement does to an open resource. -/
inductive Flow where
  /-- Every way through releases it or hands it on. -/
  | released
  /-- Some way leaves the scope with it open. -/
  | leaks
  /-- Control goes on with it open. -/
  | stillOpen
deriving DecidableEq, Inhabited, Repr

namespace Flow

/-- Two branches of which one is taken. -/
def branch : Flow → Flow → Flow
  | .leaks, _ => .leaks
  | _, .leaks => .leaks
  | .released, .released => .released
  | _, _ => .stillOpen

/-- A body that may not run at all: only a leak decides. -/
def optional : Flow → Flow
  | .leaks => .leaks
  | _ => .stillOpen

/-- Several ways of which one is taken, of a try statement: its body and its handlers. -/
def ways (fs : List Flow) : Flow :=
  if fs.contains .leaks then .leaks
  else if fs.all (· == .released) then .released
  else .stillOpen

end Flow

/-- What the rule was set up with. -/
structure Setup where
  acquirers : List String
  types : List String
  releases : List String
deriving Inhabited

def Setup.ofSettings (r : RuleSettings) : Setup :=
  ⟨r.acquirerNames, r.resourceTypeNames, r.releaseNames⟩

/-- The call or type by which an initializer acquires a resource. -/
def Setup.acquisition? (c : Setup) (init : Node) : Option String :=
  match init.kind with
  | .call => if c.acquirers.contains init.nameText then some init.nameText else none
  | .newExpr =>
    match init.typeName with
    | some t => if c.types.contains (simpleType t) then some (simpleType t) else none
    | none => none
  | _ => none

/-- Whether the node itself releases `x` or hands it on: calls a releasing method on it, passes
it as an argument, returns it or stores it. -/
def settles (releases : List String) (x : String) (n : Node) : Bool :=
  match n.kind with
  | .call =>
    (releases.contains n.nameText && (n.child? .receiver).any (·.isIdentifier x)) ||
      n.arguments.any (·.isIdentifier x)
  | .newExpr => n.arguments.any (·.isIdentifier x)
  | .returnStmt | .assignment | .localVar | .field => (n.child? .value).any (·.isIdentifier x)
  | _ => false

/-- Whether something in the statement releases `x` or hands it on. -/
def settlesWithin (releases : List String) (x : String) (n : Node) : Bool :=
  settles releases x n || n.descendants.any (settles releases x)

/-- A node releases `x` or hands it on, in one of three ways. -/
inductive Settles (releases : List String) (x : String) (n : Node) : Prop
  | called {receiver : Node} (hkind : n.kind = .call) (hname : n.nameText ∈ releases)
      (h : n.child? .receiver = some receiver) (hx : receiver.isIdentifier x)
  | passed {argument : Node} (hkind : n.kind = .call ∨ n.kind = .newExpr)
      (h : argument ∈ n.arguments) (hx : argument.isIdentifier x)
  | stored {value : Node} (hkind : n.kind ∈ [.returnStmt, .assignment, .localVar, .field])
      (h : n.child? .value = some value) (hx : value.isIdentifier x)

theorem settles_iff {releases : List String} {x : String} {n : Node} :
    settles releases x n = true ↔ Settles releases x n := by
  constructor
  · intro h
    unfold settles at h
    split at h <;>
      simp only [Bool.or_eq_true, Bool.and_eq_true, List.contains_iff_mem, Option.any_eq_true,
        List.any_eq_true, Bool.false_eq_true] at h
    · next hk =>
      obtain ⟨hname, r, hr, hx⟩ | ⟨a, ha, hx⟩ := h
      · exact .called hk hname hr hx
      · exact .passed (.inl hk) ha hx
    · next hk =>
      obtain ⟨a, ha, hx⟩ := h
      exact .passed (.inr hk) ha hx
    all_goals
      next hk =>
      obtain ⟨v, hv, hx⟩ := h
      exact .stored (by simp [hk]) hv hx
  · rintro (⟨hk, hname, hr, hx⟩ | ⟨hk | hk, ha, hx⟩ | ⟨hk, hv, hx⟩)
    · simp [settles, hk, hname, hr, hx]
    · have hany : n.arguments.any (·.isIdentifier x) = true := List.any_eq_true.2 ⟨_, ha, hx⟩
      simp only [settles, hk, hany, Bool.or_true]
    · simp only [settles, hk]
      exact List.any_eq_true.2 ⟨_, ha, hx⟩
    · simp only [List.mem_cons, List.not_mem_nil, or_false] at hk
      rcases hk with hk | hk | hk | hk <;> simp [settles, hk, hv, hx]

theorem settlesWithin_iff {releases : List String} {x : String} {n : Node} :
    settlesWithin releases x n = true ↔
      ∃ m, (m = n ∨ m ∈ n.descendants) ∧ Settles releases x m := by
  simp only [settlesWithin, Bool.or_eq_true, List.any_eq_true, settles_iff, or_and_right,
    exists_or, exists_eq_left]

mutual

/-- What a statement does to the resource `x`. As a body, a program counts as the list of its
statements. -/
def flow (releases : List String) (x : String) (asBody : Bool) : Node → Flow
  | ⟨h, cs⟩ =>
    if asBody && h.kind == .program then scan releases x cs
    else
      match h.kind with
      | .block => scan releases x cs
      | .synchronized | .doWhile => bodyFlow releases x .body cs
      | .ifStmt => (bodyFlow releases x .thenBranch cs).branch (bodyFlow releases x .elseBranch cs)
      | .forLoop | .forEach | .whileLoop => (bodyFlow releases x .body cs).optional
      | .tryStmt =>
        if bodyFlow releases x .finallyBlock cs == .released then .released
        else .ways (bodyFlow releases x .body cs :: handlerFlows releases x cs)
      | .switchStmt => if (caseFlows releases x cs).contains .leaks then .leaks else .stillOpen
      | kind =>
        if settlesWithin releases x ⟨h, cs⟩ then .released
        else if kind == .returnStmt || kind == .throwStmt then .leaks
        else .stillOpen

/-- What the statements among the children do, one after the other. -/
def scan (releases : List String) (x : String) : List (Role × Node) → Flow
  | [] => .stillOpen
  | (r, n) :: cs =>
    if r == .statement then
      match flow releases x false n with
      | .stillOpen => scan releases x cs
      | decided => decided
    else scan releases x cs

/-- What the first child under the role does as a body; a missing one does nothing. -/
def bodyFlow (releases : List String) (x : String) (role : Role) : List (Role × Node) → Flow
  | [] => .stillOpen
  | (r, n) :: cs => if r == role then flow releases x true n else bodyFlow releases x role cs

/-- What the body of each handler does. -/
def handlerFlows (releases : List String) (x : String) : List (Role × Node) → List Flow
  | [] => []
  | (r, ⟨_, hs⟩) :: cs =>
    if r == .catchClause then bodyFlow releases x .body hs :: handlerFlows releases x cs
    else handlerFlows releases x cs

/-- What the statements of each case do. -/
def caseFlows (releases : List String) (x : String) : List (Role × Node) → List Flow
  | [] => []
  | (r, ⟨_, ss⟩) :: cs =>
    if r == .caseLabel then scan releases x ss :: caseFlows releases x cs
    else caseFlows releases x cs

end

/-- The answer at a local. Only a statement of a block counts: a resource of a try statement is
closed by it. -/
def evaluate (c : Setup) (s : Site) (n : Node) : Outcome :=
  match (n.child? .value).bind c.acquisition?, s.parent? with
  | some source, some p =>
    if p.kind == .block && s.role? == some .statement then
      if n.nameText == "" then .failed (.fault rule.id "resource binding without a name")
      else
        match scan c.releases n.nameText s.later with
        | .released => .found []
        | _ =>
          let message :=
            "'" ++ n.nameText ++ "' acquired via '" ++ source ++
              "' is not released on every exit path"
          .found [(s.finding rule n message).withHint
            "Use try-with-resources or release it in a finally block"]
    else .found []
  | _, _ => .found []

def detector (r : RuleSettings) : Detector :=
  ⟨rule, [.localVar], evaluate (.ofSettings r)⟩

end TreeLint.Rules.ResourceLeak
