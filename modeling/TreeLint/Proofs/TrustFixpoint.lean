import Mathlib.Logic.Relation
import Mathlib.Order.Bounds.Defs
import Mathlib.Order.SetNotation
import TreeLint.Proofs.TrustedData

/-!
# Trust as a least fixpoint

Which expressions come from literals is a matter of rules: a literal does, an array or a binary
expression does if its parts do, and a name does if it has values in the scope and all of them do
(`RestsOn`). The values of a name stand anywhere in the scope, and may lead back to the name, so
this is no recursion over the expression. The check follows a bounded number of bindings in a row.

**Theorem (`isTrusted_isLeast`).** With more depth the check trusts more, and what it trusts at
some depth is the least set that keeps the rules. A name that needs itself is trusted at no depth.

All of it rests on two equivalences that say what one step of the check does: an expression that is
no identifier is trusted if its parts are, at the same depth (`isTrusted_iff`), and an identifier
if its values are, at one depth less (`isTrusted_identifier_iff`). So a successful check is a
derivation by the rules, along which the depth falls at bindings and the size elsewhere
(`isTrusted_induction`).
-/

namespace TreeLint.Rules.InsecureDeserialization

/-! ## Rules of trust -/

/-- The rules of trust: the expression is trusted if all that it rests on are. -/
inductive RestsOn (scope : Option Node) : Node → List Node → Prop
  | literal {e : Node}
      (hk : e.kind = .stringLiteral ∨ e.kind = .numberLiteral ∨ e.kind = .boolLiteral) :
      RestsOn scope e []
  | compound {e : Node} (hk : e.kind = .arrayLiteral ∨ e.kind = .binary) :
      RestsOn scope e e.subnodes
  | construction {e : Node} (hk : e.kind = .newExpr) (harg : e.arguments ≠ []) :
      RestsOn scope e e.arguments
  | call {e receiver : Node} (hk : e.kind = .call) (hr : e.child? .receiver = some receiver) :
      RestsOn scope e (receiver :: e.arguments)
  | identifier {e s : Node} {x : String} (hk : e.kind = .identifier) (hs : scope = some s)
      (hx : e.name = some x) (hbound : s.bindings x ≠ []) : RestsOn scope e (s.bindings x)

/-- The set keeps the rules: it contains each expression that rests on members of it. -/
def Closed (scope : Option Node) (S : Set Node) : Prop :=
  ∀ e ps, RestsOn scope e ps → (∀ p ∈ ps, p ∈ S) → e ∈ S

/-- The trust in `e` rests on `p`, among others. -/
def Needs (scope : Option Node) (e p : Node) : Prop := ∃ ps, RestsOn scope e ps ∧ p ∈ ps

variable {scope : Option Node} {e p : Node} {ps qs : List Node}

theorem RestsOn.unique (h : RestsOn scope e ps) (h' : RestsOn scope e qs) : ps = qs := by
  cases h <;> cases h' <;> grind

theorem RestsOn.mem_subnodes (h : RestsOn scope e ps) (hk : e.kind ≠ .identifier) (hp : p ∈ ps) :
    p ∈ e.subnodes := by
  have hargument : ∀ a ∈ e.arguments, a ∈ e.subnodes := fun a ha =>
    List.mem_map_of_mem (Node.mem_children_of_mem_childrenIn ha)
  cases h with
  | literal => simp at hp
  | compound => exact hp
  | construction => exact hargument p hp
  | call _ hr =>
    rcases List.mem_cons.1 hp with rfl | hp
    · obtain ⟨c, hc, rfl⟩ := Option.map_eq_some_iff.1 hr
      exact List.mem_map_of_mem (List.mem_of_find?_eq_some hc)
    · exact hargument p hp
  | identifier hk' => exact absurd hk' hk

theorem RestsOn.size_lt (h : RestsOn scope e ps) (hk : e.kind ≠ .identifier) (hp : p ∈ ps) :
    p.size < e.size := by
  obtain ⟨c, hc, rfl⟩ := List.mem_map.1 (h.mem_subnodes hk hp)
  exact Node.size_lt_of_mem hc

/-! ## The check follows the rules -/

theorem verdicts_eq (known : Option String → Bool) (cs : List (Role × Node)) :
    verdicts known cs = cs.map fun c => (c.1, trustedWith known c.2) := by
  induction cs with
  | nil => rfl
  | cons c cs ih =>
    obtain ⟨r, n⟩ := c
    rw [verdicts, ih, List.map_cons]

theorem all_verdicts (known : Option String → Bool) (e : Node) (r : Role) :
    ((verdicts known e.children).filter (·.1 == r)).all (·.2) =
      (e.childrenIn r).all (trustedWith known) := by
  rw [verdicts_eq, List.filter_map, Node.childrenIn, List.all_map, List.all_map]
  rfl

theorem isEmpty_verdicts (known : Option String → Bool) (e : Node) (r : Role) :
    ((verdicts known e.children).filter (·.1 == r)).isEmpty = (e.childrenIn r).isEmpty := by
  rw [verdicts_eq, List.filter_map, Node.childrenIn, List.isEmpty_map, List.isEmpty_map]
  rfl

theorem find?_verdicts (known : Option String → Bool) (e : Node) (r : Role) :
    ((verdicts known e.children).find? (·.1 == r)).any (·.2) =
      (e.child? r).any (trustedWith known) := by
  rw [verdicts_eq, List.find?_map, Node.child?, Option.any_map, Option.any_map]
  rfl

/-- The check at one expression, in terms of its children. -/
theorem trustedWith_eq (known : Option String → Bool) (e : Node) :
    trustedWith known e =
      match e.kind with
      | .stringLiteral | .numberLiteral | .boolLiteral => true
      | .arrayLiteral | .binary => e.subnodes.all (trustedWith known)
      | .newExpr => !e.arguments.isEmpty && e.arguments.all (trustedWith known)
      | .call => (e.child? .receiver).any (trustedWith known) && e.arguments.all (trustedWith known)
      | .identifier => known e.name
      | _ => false := by
  have hall : (verdicts known e.children).all (·.2) = e.subnodes.all (trustedWith known) := by
    rw [verdicts_eq, Node.subnodes, List.all_map, List.all_map]
    rfl
  simp only [Node.arguments, ← all_verdicts, ← isEmpty_verdicts known, ← find?_verdicts, ← hall]
  obtain ⟨h, cs⟩ := e
  exact trustedWith.eq_1 known h cs

theorem trustedWith_iff (known : Option String → Bool) (hk : e.kind ≠ .identifier) :
    trustedWith known e = true ↔
      ∃ ps, RestsOn scope e ps ∧ ∀ p ∈ ps, trustedWith known p = true := by
  constructor
  · intro h
    rw [trustedWith_eq] at h
    split at h
    case h_1 hk | h_2 hk | h_3 hk => exact ⟨[], .literal (by simp [hk]), by simp⟩
    case h_4 hk | h_5 hk => exact ⟨_, .compound (by simp [hk]), List.all_eq_true.1 h⟩
    case h_6 hk =>
      obtain ⟨harg, hall⟩ : e.arguments ≠ [] ∧ ∀ p ∈ e.arguments, trustedWith known p = true := by
        simpa using h
      exact ⟨_, .construction hk harg, hall⟩
    case h_7 hk =>
      obtain ⟨hr, hall⟩ := Bool.and_eq_true_iff.1 h
      obtain ⟨receiver, hreceiver, hr⟩ := (Option.any_eq_true _ _).1 hr
      refine ⟨_, .call hk hreceiver, List.forall_mem_cons.2 ⟨hr, List.all_eq_true.1 hall⟩⟩
    case h_8 hk' => exact absurd hk' hk
    case h_9 => cases h
  · rintro ⟨ps, hrests, hps⟩
    rw [trustedWith_eq]
    cases hrests with
    | literal hk => rcases hk with hk | hk | hk <;> simp only [hk]
    | compound hk => rcases hk with hk | hk <;> simpa only [hk, List.all_eq_true] using hps
    | construction hk harg => simpa [hk, harg] using hps
    | call hk hr => simpa [hk, hr] using hps
    | identifier hk' => exact absurd hk' hk

/-- An expression that is no identifier is trusted if its parts are, through as many bindings. -/
theorem isTrusted_iff (hk : e.kind ≠ .identifier) (depth : Nat) :
    isTrusted scope depth e = true ↔
      ∃ ps, RestsOn scope e ps ∧ ∀ p ∈ ps, isTrusted scope depth p = true := by
  cases depth with
  | zero => exact trustedWith_iff _ hk
  | succ depth => exact trustedWith_iff _ hk

/-- An identifier is trusted if the values bound to its name are, through one binding less. -/
theorem isTrusted_identifier_iff (hk : e.kind = .identifier) (depth : Nat) :
    isTrusted scope depth e = true ↔
      ∃ d ps, depth = d + 1 ∧ RestsOn scope e ps ∧ ∀ p ∈ ps, isTrusted scope d p = true := by
  constructor
  · intro h
    cases depth with
    | zero =>
      rw [isTrusted, trustedWith_identifier _ hk] at h
      cases h
    | succ d =>
      rw [isTrusted, trustedWith_identifier _ hk] at h
      split at h
      case h_1 s x hx =>
        obtain ⟨hbound, hall⟩ : s.bindings x ≠ [] ∧
            ∀ b ∈ s.bindings x, isTrusted (some s) d b = true := by
          simpa using h
        exact ⟨d, _, rfl, .identifier hk rfl hx hbound, hall⟩
      case h_2 => cases h
  · rintro ⟨d, ps, rfl, hrests, hps⟩
    cases hrests with
    | identifier _ hs hx hbound =>
      subst hs
      simpa [isTrusted_identifier _ hk hx, hbound] using hps
    | literal hk' | compound hk' | construction hk' | call hk' => simp [hk] at hk'

/-- Induction along a successful check. The depth falls where a binding is followed, and the size
of the expression everywhere else. -/
theorem isTrusted_induction {P : Nat → Node → Prop}
    (part : ∀ depth e ps, e.kind ≠ .identifier → RestsOn scope e ps →
      (∀ p ∈ ps, isTrusted scope depth p = true ∧ P depth p) → P depth e)
    (binding : ∀ depth e ps, e.kind = .identifier → RestsOn scope e ps →
      (∀ p ∈ ps, isTrusted scope depth p = true ∧ P depth p) → P (depth + 1) e)
    (depth : Nat) (e : Node) (h : isTrusted scope depth e = true) : P depth e := by
  by_cases hk : e.kind = .identifier
  · obtain ⟨d, ps, hd, hrests, hps⟩ := (isTrusted_identifier_iff hk depth).1 h
    rw [hd]
    refine binding d e ps hk hrests fun p hp => ⟨hps p hp, ?_⟩
    exact isTrusted_induction part binding d p (hps p hp)
  · obtain ⟨ps, hrests, hps⟩ := (isTrusted_iff hk depth).1 h
    refine part depth e ps hk hrests fun p hp => ⟨hps p hp, ?_⟩
    exact isTrusted_induction part binding depth p (hps p hp)
termination_by (depth, e.size)
decreasing_by
  · exact Prod.Lex.left _ _ (by omega)
  · exact Prod.Lex.right _ (hrests.size_lt hk hp)

/-! ## The fixpoint -/

/-- More bindings in a row never take trust away. -/
theorem isTrusted_succ {depth : Nat} (h : isTrusted scope depth e = true) :
    isTrusted scope (depth + 1) e = true := by
  refine isTrusted_induction (P := fun depth e => isTrusted scope (depth + 1) e = true) ?_ ?_
    depth e h
  · intro depth e ps hk hrests hps
    exact (isTrusted_iff hk (depth + 1)).2 ⟨ps, hrests, fun p hp => (hps p hp).2⟩
  · intro depth e ps hk hrests hps
    exact (isTrusted_identifier_iff hk (depth + 2)).2
      ⟨depth + 1, ps, rfl, hrests, fun p hp => (hps p hp).2⟩

theorem isTrusted_mono {depth depth' : Nat} (hle : depth ≤ depth')
    (h : isTrusted scope depth e = true) : isTrusted scope depth' e = true := by
  induction hle with
  | refl => exact h
  | step _ ih => exact isTrusted_succ ih

/-- Finitely many trusted expressions are trusted at one depth. -/
theorem exists_depth (h : ∀ p ∈ ps, ∃ depth, isTrusted scope depth p = true) :
    ∃ depth, ∀ p ∈ ps, isTrusted scope depth p = true := by
  induction ps with
  | nil => exact ⟨0, by simp⟩
  | cons q qs ih =>
    obtain ⟨d, hd⟩ := h q List.mem_cons_self
    obtain ⟨d', hd'⟩ := ih fun p hp => h p (List.mem_cons_of_mem q hp)
    refine ⟨max d d', List.forall_mem_cons.2 ⟨?_, fun p hp => ?_⟩⟩
    · exact isTrusted_mono (Nat.le_max_left d d') hd
    · exact isTrusted_mono (Nat.le_max_right d d') (hd' p hp)

/-- What is trusted at some depth keeps the rules. -/
theorem closed_isTrusted (scope : Option Node) :
    Closed scope {e | ∃ depth, isTrusted scope depth e = true} := by
  intro e ps hrests hps
  obtain ⟨d, hd⟩ := exists_depth hps
  by_cases hk : e.kind = .identifier
  · exact ⟨d + 1, (isTrusted_identifier_iff hk (d + 1)).2 ⟨d, ps, rfl, hrests, hd⟩⟩
  · exact ⟨d, (isTrusted_iff hk d).2 ⟨ps, hrests, hd⟩⟩

/-- Nothing is trusted that the rules do not make trusted. -/
theorem Closed.mem_of_isTrusted {S : Set Node} (hS : Closed scope S) {depth : Nat}
    (h : isTrusted scope depth e = true) : e ∈ S := by
  refine isTrusted_induction (P := fun _ e => e ∈ S) ?_ ?_ depth e h
  · exact fun _ e ps _ hrests hps => hS e ps hrests fun p hp => (hps p hp).2
  · exact fun _ e ps _ hrests hps => hS e ps hrests fun p hp => (hps p hp).2

/-! ## Circles -/

/-- What a trusted expression needs is trusted, and at less depth if a binding leads there. -/
theorem Needs.exists_depth {depth : Nat} (hneeds : Needs scope e p)
    (h : isTrusted scope depth e = true) :
    ∃ d ≤ depth, isTrusted scope d p = true ∧ (e.kind = .identifier → d < depth) := by
  obtain ⟨ps, hrests, hp⟩ := hneeds
  by_cases hk : e.kind = .identifier
  · obtain ⟨d, qs, rfl, hrests', hqs⟩ := (isTrusted_identifier_iff hk depth).1 h
    obtain rfl := hrests.unique hrests'
    exact ⟨d, Nat.le_succ d, hqs p hp, fun _ => Nat.lt_succ_self d⟩
  · obtain ⟨qs, hrests', hqs⟩ := (isTrusted_iff hk depth).1 h
    obtain rfl := hrests.unique hrests'
    exact ⟨depth, Nat.le_refl depth, hqs p hp, fun hk' => absurd hk' hk⟩

/-- Along a chain of needs that starts at an identifier, the depth that is left falls. -/
theorem exists_lt_of_needs {depth : Nat} (hk : e.kind = .identifier)
    (hchain : Relation.TransGen (Needs scope) e p) (h : isTrusted scope depth e = true) :
    ∃ d < depth, isTrusted scope d p = true := by
  induction hchain with
  | single hneeds =>
    obtain ⟨d, -, hd, hlt⟩ := hneeds.exists_depth h
    exact ⟨d, hlt hk, hd⟩
  | tail _ hneeds ih =>
    obtain ⟨d, hlt, hd⟩ := ih
    obtain ⟨d', hle, hd', -⟩ := hneeds.exists_depth hd
    exact ⟨d', Nat.lt_of_le_of_lt hle hlt, hd'⟩

theorem isTrusted_congr_name {e' : Node} (hk : e.kind = .identifier) (hk' : e'.kind = .identifier)
    (hname : e'.name = e.name) (depth : Nat) :
    isTrusted scope depth e' = isTrusted scope depth e := by
  cases depth with
  | zero =>
    rw [isTrusted, trustedWith_identifier _ hk, trustedWith_identifier _ hk']
  | succ depth =>
    rw [isTrusted, trustedWith_identifier _ hk, trustedWith_identifier _ hk', hname]

/-- A name that needs itself is trusted at no depth: the depth would fall forever. -/
theorem isTrusted_of_circle {e' : Node} (hk : e.kind = .identifier) (hk' : e'.kind = .identifier)
    (hname : e'.name = e.name) (hchain : Relation.TransGen (Needs scope) e e') (depth : Nat) :
    isTrusted scope depth e = false := by
  induction depth using Nat.strongRecOn with
  | ind depth ih =>
    refine Bool.eq_false_iff.2 fun h => ?_
    obtain ⟨d, hlt, hd⟩ := exists_lt_of_needs hk hchain h
    rw [isTrusted_congr_name hk hk' hname, ih d hlt] at hd
    cases hd

/-- **The check approximates the least fixpoint of the rules from below.** More bindings in a row
never take trust away. What is trusted at some depth is the least set that keeps the rules. A name
that needs itself, by one of its values or by a chain of others, is trusted at no depth. -/
theorem isTrusted_isLeast (scope : Option Node) :
    (∀ (e : Node) (depth : Nat), isTrusted scope depth e = true →
      isTrusted scope (depth + 1) e = true) ∧
    IsLeast {S | Closed scope S} {e | ∃ depth, isTrusted scope depth e = true} ∧
    ∀ e e' : Node, e.kind = .identifier → e'.kind = .identifier → e'.name = e.name →
      Relation.TransGen (Needs scope) e e' → ∀ depth, isTrusted scope depth e = false := by
  refine ⟨fun e depth => isTrusted_succ, ⟨closed_isTrusted scope, fun S hS e he => ?_⟩,
    fun e e' => isTrusted_of_circle⟩
  obtain ⟨depth, h⟩ := he
  exact Closed.mem_of_isTrusted hS h

/-- A function that runs `a = "1"; b = [a]; x = y; y = x;`. -/
def circling : Node :=
  let list : Node :=
    { kind := .arrayLiteral, span := ⟨1, 1, 1, 4⟩
      children := [(.element, .ident "a" ⟨1, 2, 1, 3⟩)] }
  takesData [writeOf "=" "a" (.string "1" ⟨1, 1, 1, 2⟩), writeOf "=" "b" list,
    writeOf "=" "x" (.ident "y" ⟨1, 5, 1, 6⟩), writeOf "=" "y" (.ident "x" ⟨1, 5, 1, 6⟩)]

/-- `b` is two bindings away from a literal, and `x` infinitely many. -/
theorem isTrusted_isLeast_circling :
    let x : Node := .ident "x" ⟨1, 5, 1, 6⟩
    let b : Node := .ident "b" ⟨1, 1, 1, 2⟩
    x.kind = .identifier ∧ Relation.TransGen (Needs (some circling)) x x ∧
    (∀ depth, isTrusted (some circling) depth x = false) ∧
    isTrusted (some circling) 1 b = false ∧ isTrusted (some circling) 2 b = true ∧
    isTrusted (some circling) 3 b = true ∧ ∀ S, Closed (some circling) S → b ∈ S := by
  intro x b
  obtain ⟨hmono, ⟨-, hleast⟩, hcircle⟩ := isTrusted_isLeast (some circling)
  have hx : circling.bindings "x" = [.ident "y" ⟨1, 5, 1, 6⟩] := by decide +kernel
  have hy : circling.bindings "y" = [x] := by decide +kernel
  have hxy : Needs (some circling) x (.ident "y" ⟨1, 5, 1, 6⟩) :=
    ⟨circling.bindings "x", .identifier rfl rfl rfl (by simp [hx]), by simp [hx]⟩
  have hyx : Needs (some circling) (.ident "y" ⟨1, 5, 1, 6⟩) x :=
    ⟨circling.bindings "y", .identifier rfl rfl rfl (by simp [hy]), by simp [hy]⟩
  have hchain : Relation.TransGen (Needs (some circling)) x x := .tail (.single hxy) hyx
  have hb : isTrusted (some circling) 2 b = true := by decide +kernel
  exact ⟨rfl, hchain, hcircle x x rfl rfl rfl hchain, by decide +kernel, hb, hmono b 2 hb,
    fun S hS => hleast hS ⟨2, hb⟩⟩

end TreeLint.Rules.InsecureDeserialization
