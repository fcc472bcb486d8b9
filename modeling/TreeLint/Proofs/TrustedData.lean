import Mathlib.Logic.Basic
import TreeLint.Rules.InsecureDeserialization

/-!
# Trust in decoded data

The rule on decoding trusts a call if its data can be traced back to literals. The trace goes from
an identifier to the values bound to its name in the callable, by the declarations of locals and
by plain assignments (`Node.bindings`), and it takes those for everything the name may stand for.

**Theorem.** A call that decodes an identifier is reported exactly if the name has no such value in
the callable, or one that cannot be traced back.

So what a parameter brings into the callable counts only as long as nothing else is bound to its
name, and what a compound assignment adds to a local does not count at all. A parameter that is
overwritten with a literal on one branch only, and a local that starts as a literal and takes a
parameter in by `+=`, are both trusted. The callable goes into the verdict by its declarations of
locals and its plain assignments, and by nothing else (`bindings_congr`, `isTrusted_congr`).
-/

namespace TreeLint.Rules.InsecureDeserialization

/-- Whether `x` is a parameter of the callable. -/
def IsParameter (c : Node) (x : String) : Prop :=
  ∃ p ∈ c.childrenIn .param, p.kind = .parameter ∧ p.nameText = x

/-- Whether a compound assignment in the scope of the callable takes a parameter into `x`. -/
def TakesParameter (c : Node) (x : String) : Prop :=
  ∃ a ∈ c.scopedDescendants, a.kind = .assignment ∧ a.valueText ≠ "=" ∧
    (∃ t, a.child? .target = some t ∧ t.isIdentifier x = true) ∧
    ∃ v p, a.child? .value = some v ∧ v.isIdentifier p = true ∧ IsParameter c p

/-! ## Bindings -/

/-- Whether the node may bind a value to a name: it declares a local, or is a plain assignment. -/
def binds (n : Node) : Bool := n.kind == .localVar || n.isPlainAssignment

theorem boundValue?_of_not_binds {n : Node} (h : binds n = false) (x : String) :
    n.boundValue? x = none := by
  simp only [binds, Bool.or_eq_false_iff] at h
  simp [Node.boundValue?, h.1, h.2]

/-- Callables with the same declarations of locals and the same plain assignments bind the same
values. -/
theorem bindings_congr {c c' : Node}
    (h : c'.scopedDescendants.filter binds = c.scopedDescendants.filter binds) (x : String) :
    c'.bindings x = c.bindings x := by
  have hfilter : ∀ c : Node,
      c.bindings x = (c.scopedDescendants.filter binds).filterMap (Node.boundValue? x) := by
    intro c
    rw [Node.bindings, List.filterMap_filter]
    congr 1
    funext n
    by_cases hn : binds n = true
    · rw [if_pos hn]
    · rw [if_neg hn, boundValue?_of_not_binds (by simpa using hn)]
  rw [hfilter, hfilter, h]

/-! ## Traces -/

theorem trustedWith_identifier (known : Option String → Bool) {e : Node}
    (hk : e.kind = .identifier) : trustedWith known e = known e.name := by
  obtain ⟨h, cs⟩ := e
  have hkind : h.kind = .identifier := hk
  rw [trustedWith]
  simp only [hkind]

theorem isTrusted_identifier (c : Node) {e : Node} {x : String} (hk : e.kind = .identifier)
    (hx : e.name = some x) (depth : Nat) :
    isTrusted (some c) (depth + 1) e =
      (!(c.bindings x).isEmpty && (c.bindings x).all (isTrusted (some c) depth)) := by
  rw [isTrusted, trustedWith_identifier _ hk, hx]

theorem isTrusted_congr {c c' : Node} (h : ∀ x, c'.bindings x = c.bindings x) (depth : Nat)
    (e : Node) : isTrusted (some c') depth e = isTrusted (some c) depth e := by
  induction depth generalizing e with
  | zero => rw [isTrusted, isTrusted]
  | succ depth ih =>
    have htrusted : isTrusted (some c') depth = isTrusted (some c) depth := funext ih
    rw [isTrusted, isTrusted]
    congr 1
    funext name
    cases name with
    | none => rfl
    | some x => simp only [h x, htrusted]

theorem report_eq_nil_iff {sinks : List String} {s : Site} {n source : Node}
    (hsink : sinks.contains n.nameText = true) (hsource : source? n = some source) :
    report sinks s n = [] ↔ isTrusted s.callable? maxTraceDepth source = true := by
  simp only [report, hsink, hsource, if_true]
  by_cases h : isTrusted s.callable? maxTraceDepth source = true
  · simp [h]
  · simp [h]

/-- **When a decoded identifier is reported.** If the nearest callable around the call binds no
value to the name, or a value that cannot be traced back to literals in one step less. Whether the
name is a parameter, and what compound assignments write to it, does not matter: a callable with the
same declarations of locals and the same plain assignments gets the same verdict. -/
theorem report_of_identifier (sinks : List String) {s : Site} {n source c : Node} {x : String}
    (hsink : sinks.contains n.nameText = true) (hsource : source? n = some source)
    (hk : source.kind = .identifier) (hx : source.name = some x) (hc : s.callable? = some c) :
    (report sinks s n ≠ [] ↔
      c.bindings x = [] ∨ ∃ b ∈ c.bindings x, isTrusted (some c) (maxTraceDepth - 1) b = false) ∧
    ∀ (s' : Site) (c' : Node), s'.callable? = some c' →
      c'.scopedDescendants.filter binds = c.scopedDescendants.filter binds →
      (report sinks s' n ≠ [] ↔ report sinks s n ≠ []) := by
  have hverdict : isTrusted s.callable? maxTraceDepth source =
      (!(c.bindings x).isEmpty && (c.bindings x).all (isTrusted (some c) (maxTraceDepth - 1))) := by
    rw [hc]
    exact isTrusted_identifier c hk hx (maxTraceDepth - 1)
  constructor
  · rw [Ne, report_eq_nil_iff hsink hsource, hverdict]
    simp only [Bool.and_eq_true, Bool.not_eq_true', List.isEmpty_eq_false_iff, List.all_eq_true,
      not_and_or, not_not, not_forall, Bool.not_eq_true, exists_prop, ne_eq]
  · intro s' c' hc' hbindings
    rw [Ne, Ne, report_eq_nil_iff hsink hsource, report_eq_nil_iff hsink hsource, hc, hc',
      isTrusted_congr (bindings_congr hbindings)]

/-! ## A parameter that is decoded -/

def paramOf (x : String) : Node := { kind := .parameter, span := ⟨1, 1, 1, 2⟩, name := some x }

/-- The assignment of `value` to `x` with an operator. -/
def writeOf (op x : String) (value : Node) : Node :=
  { kind := .assignment, span := ⟨1, 1, 1, 9⟩, value := some op
    children := [(.target, .ident x ⟨1, 1, 1, 2⟩), (.value, value)] }

/-- The call `load(x)`. -/
def loadOf (x : String) : Node :=
  (Node.callOf "load" ⟨1, 1, 1, 9⟩).push .argument (.ident x ⟨1, 6, 1, 7⟩)

/-- A function of `data` with a body. -/
def takesData (ns : List Node) : Node :=
  let body : Node := (Node.leaf .block ⟨1, 1, 9, 9⟩).pushAll .statement ns
  ({ kind := .function, span := ⟨1, 1, 9, 9⟩, name := some "f" } : Node).push .param
    (paramOf "data") |>.push .body body

/-- The site of the last of the statements of a function of `data`. -/
def lastSite (ns : List Node) : Site :=
  let f := takesData ns
  ⟨.parsed "codec.js" "" f, (f.child? .body).toList ++ [f], ns.length - 1⟩

/-- Overwrites its parameter with a literal on one branch and decodes it. -/
def overwrites : List Node :=
  [((Node.leaf .ifStmt ⟨1, 1, 1, 9⟩).push .condition (.ident "debug" ⟨1, 1, 1, 6⟩)).push .thenBranch
    (writeOf "=" "data" (.string "{}" ⟨1, 1, 1, 3⟩)),
  loadOf "data"]

/-- Takes its parameter into a local that starts as a literal, and decodes the local. -/
def appends : List Node :=
  [({ kind := .localVar, span := ⟨1, 1, 1, 9⟩, name := some "text" } : Node).push .value
    (.string "{}" ⟨1, 1, 1, 3⟩),
  writeOf "+=" "text" (.ident "data" ⟨1, 1, 1, 5⟩),
  loadOf "text"]

/-- A parameter that nothing is assigned to has no bound value, whatever `+=` adds to it. -/
theorem report_of_identifier_parameter :
    let s := lastSite [loadOf "data"]
    let s' := lastSite [writeOf "+=" "data" (.string "{}" ⟨1, 1, 1, 3⟩), loadOf "data"]
    ["load"].contains (loadOf "data").nameText = true ∧
    source? (loadOf "data") = some (.ident "data" ⟨1, 6, 1, 7⟩) ∧
    s.callable? = some (takesData [loadOf "data"]) ∧
    report ["load"] s (loadOf "data") ≠ [] ∧ report ["load"] s' (loadOf "data") ≠ [] := by
  intro s s'
  have hsource : source? (loadOf "data") = some (.ident "data" ⟨1, 6, 1, 7⟩) := by decide +kernel
  have hc : s.callable? = some (takesData [loadOf "data"]) := by decide +kernel
  have hreport := report_of_identifier ["load"] (s := s) (n := loadOf "data") (x := "data")
    (by decide) hsource rfl rfl hc
  have hreported : report ["load"] s (loadOf "data") ≠ [] :=
    hreport.1.2 (.inl (by decide +kernel))
  refine ⟨by decide, hsource, hc, hreported, ?_⟩
  have hsame := hreport.2 s' (takesData [writeOf "+=" "data" (.string "{}" ⟨1, 1, 1, 3⟩),
    loadOf "data"]) (by decide +kernel) (by decide +kernel)
  exact hsame.2 hreported

/-- Two calls that decode what a parameter brought in, and that nothing is reported at. -/
theorem parameter_data_trusted :
    ((lastSite overwrites).callable? = some (takesData overwrites) ∧
      ["load"].contains (loadOf "data").nameText = true ∧
      source? (loadOf "data") = some (.ident "data" ⟨1, 6, 1, 7⟩) ∧
      IsParameter (takesData overwrites) "data" ∧
      report ["load"] (lastSite overwrites) (loadOf "data") = []) ∧
    (lastSite appends).callable? = some (takesData appends) ∧
      ["load"].contains (loadOf "text").nameText = true ∧
      source? (loadOf "text") = some (.ident "text" ⟨1, 6, 1, 7⟩) ∧
      TakesParameter (takesData appends) "text" ∧
      report ["load"] (lastSite appends) (loadOf "text") = [] := by
  have hparam : ∀ ns, IsParameter (takesData ns) "data" := fun ns =>
    ⟨paramOf "data", List.mem_cons_self, rfl, rfl⟩
  have htakes : TakesParameter (takesData appends) "text" :=
    ⟨writeOf "+=" "text" (.ident "data" ⟨1, 1, 1, 5⟩), by decide +kernel, rfl, by decide,
      ⟨_, rfl, rfl⟩, _, "data", rfl, rfl, hparam appends⟩
  exact ⟨⟨by decide +kernel, by decide, by decide +kernel, hparam overwrites, by decide +kernel⟩,
    by decide +kernel, by decide, by decide +kernel, htakes, by decide +kernel⟩

end TreeLint.Rules.InsecureDeserialization
