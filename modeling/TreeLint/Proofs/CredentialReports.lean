import TreeLint.Proofs.QuadraticNests
import TreeLint.Proofs.Registration
import TreeLint.Proofs.SpansInText

/-!
# Where credentials are reported

A string literal that ends up where a call takes a credential is reported in one of two places. A
local whose name is like `password` is reported where it is bound, and then not again where it is
passed. Any other local is reported where it is passed, and so is a literal passed in place.

**Theorem (`findings_of_bound_argument`).** Nothing is lost between the two. If an argument that
takes a credential is a local to which its callable binds a literal, then a complete report has a
finding at the argument, or one at each place in the callable where the local is bound to a literal.
The bindings that the argument is traced to are declarations and plain assignments in the scope of
the callable, and each of them has a visit of its own (`reportBinding_of_boundValue?`).

Which arguments take a credential is for the first entry of the callee to say.

**Theorem (`honours_iff`).** All literals that are passed to a callee in some position are reported
iff the first entry for the callee lists the position. So all entries count only if no callee has two
of them; of two entries for one callee the second is passed over (`second_entry_ignored`).
-/

namespace TreeLint

namespace Engine

theorem finalize_mem_findings {e : Engine} {u : SourceUnit} {root : Node} (hu : u.tree = .ok root)
    {t : Interrupts} (ht : (e.analyze u t).isComplete) {v : Visit} (hv : v ∈ root.visits)
    {d : Detector} (hd : d ∈ e.registry.detectors) (hkind : v.node.kind ∈ d.kinds) {f : Finding}
    (hf : f ∈ d.findings (v.site u) v.node (d.evaluate (v.site u) v.node)) :
    e.finalize u f ∈ (e.analyze u t).findings := by
  have hasked : d ∈ e.registry.detectorsFor v.node.kind :=
    Registry.mem_detectorsFor_iff.2 ⟨hd, hkind⟩
  rw [e.analyze_of_isComplete hu ht]
  exact List.mem_flatMap.2
    ⟨v, hv, List.mem_flatMap.2 ⟨d, hasked, List.mem_map_of_mem hf⟩⟩

end Engine

theorem Visit.exists_visit_of_callable? {root : Node} {v : Visit} (hv : v ∈ root.visits)
    {u : SourceUnit} {scope : Node} (h : (v.site u).callable? = some scope) :
    ∃ p ∈ root.visits, p.node = scope := by
  obtain ⟨-, below, above, hancestors, -⟩ := List.find?_eq_some_iff_append.1 h
  obtain ⟨p, hp, hnode, -⟩ := exists_visit_of_ancestors hv hancestors
  exact ⟨p, hp, hnode⟩

namespace Rules.HardcodedCredential

variable {c : Setup} {s : Site} {n arg scope : Node} {callee x : String}

/-! ## At one node -/

/-- The finding at a literal that is bound to a name. -/
def boundFinding (s : Site) (n : Node) (x : String) : Finding :=
  (s.finding rule n ("String literal assigned to credential-like name '" ++ x ++ "'")).withHint hint

/-- The finding at a literal that is passed in place. -/
def passedFinding (s : Site) (callee : String) (arg : Node) : Finding :=
  (s.finding rule arg
    ("String literal passed as credential argument to '" ++ callee ++ "'")).withHint hint

/-- The finding at a local that holds a literal and is passed. -/
def heldFinding (s : Site) (callee : String) (arg : Node) (x : String) : Finding :=
  (s.finding rule arg
    ("'" ++ x ++ "' holds a string literal passed as credential argument to '" ++ callee ++
      "'")).withHint hint

/-- Whether the node binds a literal to the local `x`. -/
def bindsSecret (x : String) (n : Node) : Bool := (n.boundValue? x).any isSecret

theorem any_bindings_isSecret :
    (scope.bindings x).any isSecret = scope.scopedDescendants.any (bindsSecret x) := by
  rw [Node.bindings, List.any_filterMap]
  refine congrArg _ (funext fun n => ?_)
  rw [bindsSecret]
  cases n.boundValue? x <;> rfl

/-- What is traced as a binding is a binding that the rule looks at. -/
theorem binding?_of_boundValue? {value : Node} (h : n.boundValue? x = some value) (hx : x ≠ "") :
    binding? n = some (x, value) := by
  unfold Node.boundValue? at h
  split at h
  · next hlocal =>
    obtain ⟨hkind, rfl⟩ : n.kind = .localVar ∧ n.nameText = x := by simpa using hlocal
    simp [binding?, hkind, h]
  · split at h
    · next hassignment =>
      obtain ⟨⟨hkind, hplain⟩, htarget⟩ : (n.kind = .assignment ∧ n.valueText = "=") ∧
          (n.child? .target).any (·.isIdentifier x) = true := by
        simpa [Node.isPlainAssignment] using hassignment
      obtain ⟨target, hchild, hoccurrence⟩ := (Option.any_eq_true _ _).1 htarget
      obtain ⟨hidentifier, hname⟩ : target.kind = .identifier ∧ target.nameText = x := by
        simpa [Node.isIdentifier] using hoccurrence
      -- A target without a name would be read as the empty one.
      have haccess : target.accessName? = some x := by
        cases hname' : target.name with
        | none => exact absurd (by simpa [Node.nameText, hname'] using hname.symm) hx
        | some y =>
          obtain rfl : y = x := by simpa [Node.nameText, hname'] using hname
          simp [Node.accessName?, hidentifier, hname']
      simp [binding?, hkind, hplain, hchild, haccess, h]
    · cases h

theorem ne_empty_of_isCredentialName (h : c.isCredentialName x = true) : x ≠ "" := by
  simp only [Setup.isCredentialName, Bool.and_eq_true, bne_iff_ne] at h
  exact h.1

/-- A literal bound to a name like that of a credential is reported at the binding. -/
theorem reportBinding_of_bindsSecret (s : Site) (h : bindsSecret x n = true)
    (hx : c.isCredentialName x = true) : reportBinding c s n = [boundFinding s n x] := by
  obtain ⟨value, hvalue, hsecret⟩ := (Option.any_eq_true _ _).1 h
  rw [reportBinding, binding?_of_boundValue? hvalue (ne_empty_of_isCredentialName hx)]
  simp [hx, hsecret, boundFinding]

theorem kind_mem_of_bindsSecret (h : bindsSecret x n = true) : n.kind ∈ kinds := by
  obtain ⟨value, hvalue, -⟩ := (Option.any_eq_true _ _).1 h
  unfold Node.boundValue? at hvalue
  split at hvalue
  · next hlocal =>
    have hkind : n.kind = .localVar := by simp_all
    simp [hkind, kinds]
  · split at hvalue
    · next hassignment =>
      have hkind : n.kind = .assignment := by simp_all [Node.isPlainAssignment]
      simp [hkind, kinds]
    · cases hvalue

/-- A local with another name is reported where it is passed. -/
theorem slotFinding?_of_bound (hkind : arg.kind = .identifier) (hname : arg.name = some x)
    (hscope : s.callable? = some scope) (hbound : (scope.bindings x).any isSecret = true)
    (hx : c.isCredentialName x = false) :
    slotFinding? c s callee arg = some (heldFinding s callee arg x) := by
  have hliteral : isSecret arg = false := by simp [isSecret, hkind]
  simp [slotFinding?, hliteral, hkind, hname, hscope, hx, hbound, heldFinding]

theorem slotFinding?_of_isSecret (h : isSecret arg = true) :
    slotFinding? c s callee arg = some (passedFinding s callee arg) := by
  simp [slotFinding?, h, passedFinding]

theorem kind_mem_of_callee? (h : callee? n = some callee) : n.kind ∈ kinds := by
  unfold callee? at h
  split at h
  · next hkind => simp [hkind, kinds]
  · next hkind => simp [hkind, kinds]
  · cases h

/-- What the rule finds in the positions that the first entry for the callee lists. -/
theorem mem_reportSlots_iff (hcallee : callee? n = some callee) {f : Finding} :
    f ∈ reportSlots c s n ↔
      ∃ slot, c.slots.find? (·.callee == callee) = some slot ∧
        ∃ i ∈ slot.slots, ∃ arg, n.arguments[i]? = some arg ∧ slotFinding? c s callee arg = some f := by
  rw [reportSlots, hcallee]
  dsimp only
  cases c.slots.find? (·.callee == callee) with
  | none => simp
  | some slot =>
    simp only [List.mem_filterMap, Option.some.injEq, exists_eq_left']
    constructor
    · rintro ⟨arg, ⟨i, hi, harg⟩, hf⟩
      exact ⟨i, hi, arg, harg, hf⟩
    · rintro ⟨i, hi, arg, harg, hf⟩
      exact ⟨arg, ⟨i, hi, harg⟩, hf⟩

theorem report_of_callee? (hcallee : callee? n = some callee) : report c s n = reportSlots c s n := by
  have hbinding : reportBinding c s n = [] := by
    unfold callee? at hcallee
    unfold reportBinding binding?
    split at hcallee
    · next hkind => simp [hkind]
    · next hkind => simp [hkind]
    · cases hcallee
  rw [report, hbinding, List.nil_append]

/-! ## In a whole tree -/

theorem mem_detectors_of_ofSettings {s : Settings} {g : Registry}
    (hg : Registry.ofSettings s = .ok g) (hc : setup? s.rules = .ok c)
    (hon : rule.id ∉ s.analysis.disabledRules) :
    Detector.reporting rule kinds (report c) ∈ g.detectors := by
  obtain ⟨ds, hds, -, rfl⟩ := Registry.ofSettings_eq_ok_iff.1 hg
  have hmem : Detector.reporting rule kinds (report c) ∈ ds := by
    simp only [Registry.standardDetectors, detector, hc, Except.map, Except.ok.injEq] at hds
    simp [← hds]
  exact List.mem_filter.2 ⟨hmem, by simpa [Detector.id, Detector.reporting] using hon⟩

section Complete

variable {settings : Settings} {e : Engine} {u : SourceUnit} {root : Node} {t : Interrupts}
  {v : Visit}

theorem finalize_mem_of_mem_report (he : Registry.ofSettings settings = .ok e.registry)
    (hc : setup? settings.rules = .ok c) (hon : rule.id ∉ settings.analysis.disabledRules)
    (hu : u.tree = .ok root) (ht : (e.analyze u t).isComplete) (hv : v ∈ root.visits)
    (hkind : v.node.kind ∈ kinds) {f : Finding} (hf : f ∈ report c (v.site u) v.node) :
    e.finalize u f ∈ (e.analyze u t).findings :=
  e.finalize_mem_findings hu ht hv (mem_detectors_of_ofSettings he hc hon) hkind hf

/-- **Nothing is lost between the argument and the binding.** In a tree that is walked to its end, let
a call or construction stand in a callable, and let an argument in a position that the first entry
for its callee lists be an identifier to which the callable binds a literal. If the name is not that
of a credential, there is a finding at the argument. If it is, there is a finding at each node in the
scope of the callable that binds a literal to the name, and there is such a node. -/
theorem findings_of_bound_argument (he : Registry.ofSettings settings = .ok e.registry)
    (hc : setup? settings.rules = .ok c) (hon : rule.id ∉ settings.analysis.disabledRules)
    (hu : u.tree = .ok root) (ht : (e.analyze u t).isComplete) (hv : v ∈ root.visits)
    (hcallee : callee? v.node = some callee) {slot : CredentialSlot}
    (hslot : settings.rules.slotsInForce.find? (·.callee == callee) = some slot) {i : Nat}
    (hi : i ∈ slot.slots) (harg : v.node.arguments[i]? = some arg)
    (hidentifier : arg.kind = .identifier) (hname : arg.name = some x)
    (hscope : (v.site u).callable? = some scope)
    (hbound : (scope.bindings x).any isSecret = true) :
    (c.isCredentialName x = false →
      ∃ f ∈ (e.analyze u t).findings, f.ruleId = rule.id ∧ f.span = u.clamp arg.span ∧
        f.message = (heldFinding (v.site u) callee arg x).message) ∧
    (c.isCredentialName x = true →
      (∃ b ∈ scope.scopedDescendants, bindsSecret x b = true) ∧
      ∀ b ∈ scope.scopedDescendants, bindsSecret x b = true →
        ∃ f ∈ (e.analyze u t).findings, f.ruleId = rule.id ∧ f.span = u.clamp b.span ∧
          f.message = (boundFinding (v.site u) b x).message) := by
  have hslots : c.slots = settings.rules.slotsInForce := by
    unfold setup? at hc
    grind
  have hmessage : ∀ f : Finding, (e.finalize u f).message = f.message := by
    intro f
    obtain ⟨snippet, h⟩ := e.finalize_eq u f
    rw [h]
  refine ⟨fun hx => ?_, fun hx => ⟨?_, fun b hb hbinds => ?_⟩⟩
  · have hfound : slotFinding? c (v.site u) callee arg = some (heldFinding (v.site u) callee arg x) :=
      slotFinding?_of_bound hidentifier hname hscope hbound hx
    have hmem : heldFinding (v.site u) callee arg x ∈ report c (v.site u) v.node := by
      rw [report_of_callee? hcallee]
      exact (mem_reportSlots_iff hcallee).2 ⟨slot, hslots ▸ hslot, i, hi, arg, harg, hfound⟩
    exact ⟨_, finalize_mem_of_mem_report he hc hon hu ht hv (kind_mem_of_callee? hcallee) hmem,
      e.ruleId_finalize u _, e.span_finalize u _, hmessage _⟩
  · rwa [any_bindings_isSecret, List.any_eq_true] at hbound
  · -- The binding is visited, since the walk comes to the callable and enters its scope.
    obtain ⟨p, hp, rfl⟩ := Visit.exists_visit_of_callable? hv hscope
    obtain ⟨w, hw, -, rfl⟩ := (Visit.mem_scopedDescendants_iff hp).1 hb
    have hmem : boundFinding (w.site u) w.node x ∈ report c (w.site u) w.node := by
      rw [report, reportBinding_of_bindsSecret _ hbinds hx]
      exact List.mem_append_left _ List.mem_cons_self
    exact ⟨_, finalize_mem_of_mem_report he hc hon hu ht hw (kind_mem_of_bindsSecret hbinds) hmem,
      e.ruleId_finalize u _, e.span_finalize u _, hmessage _⟩

/-- A declaration of the local `x` with a literal. -/
def declareSecret (x : String) (span : Span) : Node :=
  ({ kind := .localVar, span, name := some x } : Node).push .value (.string "hunter2" span)

/-- A call of `getConnection` with two locals, where it takes a credential. -/
def connectCall : Node :=
  (Node.callOf "getConnection" ⟨4, 1, 4, 9⟩).pushAll .argument
    [.string "db" ⟨4, 1, 4, 3⟩, .ident "pwd" ⟨4, 4, 4, 6⟩, .ident "phrase" ⟨4, 7, 4, 9⟩]

/-- An assignment of another literal to the first local. -/
def connectAssignment : Node :=
  (({ kind := .assignment, span := ⟨3, 1, 3, 9⟩, value := some "=" } : Node).push .target
    (.ident "pwd" ⟨3, 1, 3, 3⟩)).push .value (.string "letmein" ⟨3, 4, 3, 9⟩)

/-- A function that binds literals to the two locals and passes both. -/
def connectTree : Node :=
  (Node.leaf .function ⟨1, 1, 4, 9⟩).pushAll .statement
    [declareSecret "pwd" ⟨1, 1, 1, 9⟩, declareSecret "phrase" ⟨2, 1, 2, 9⟩, connectAssignment,
      connectCall]

def connectUnit : SourceUnit :=
  .parsed "connect.js" "let pwd =\nphrase = \"\"\npwd = \"\"\nconnect()" connectTree

/-- With `pwd` as the only pattern, `pwd` is reported where it is bound, both times, and `phrase`
where it is passed. -/
theorem findings_of_bound_argument_connect :
    let settings : Settings := { rules := { credentialPatterns := some ["pwd"] } }
    let v : Visit := ⟨[3], [connectTree], connectCall⟩
    ∃ (e : Engine) (c : Setup), Registry.ofSettings settings = .ok e.registry ∧
      setup? settings.rules = .ok c ∧ rule.id ∉ settings.analysis.disabledRules ∧
      connectUnit.tree = .ok connectTree ∧ (e.analyze connectUnit .never).isComplete ∧
      v ∈ connectTree.visits ∧ callee? v.node = some "getConnection" ∧
      settings.rules.slotsInForce.find? (·.callee == "getConnection") =
        some ⟨"getConnection", [1, 2]⟩ ∧
      (v.site connectUnit).callable? = some connectTree ∧
      (connectTree.bindings "pwd").any isSecret = true ∧
      (connectTree.bindings "phrase").any isSecret = true ∧
      c.isCredentialName "pwd" = true ∧ c.isCredentialName "phrase" = false ∧
      ∀ span : Span, span ∈ [⟨1, 1, 1, 9⟩, ⟨3, 1, 3, 9⟩, ⟨4, 7, 4, 9⟩] →
        ∃ f ∈ (e.analyze connectUnit .never).findings, f.ruleId = rule.id ∧ f.span = span := by
  intro settings v
  obtain ⟨g, hg⟩ : ∃ g, Registry.ofSettings settings = .ok g := by
    cases h : Registry.ofSettings settings with
    | ok g => exact ⟨g, rfl⟩
    | error err =>
      have hsome : (Registry.ofSettings settings).toOption.isSome = true := by decide +kernel
      simp [h, Except.toOption] at hsome
  obtain ⟨c, hc, hpwd, hphrase⟩ : ∃ c, setup? settings.rules = .ok c ∧
      c.isCredentialName "pwd" = true ∧ c.isCredentialName "phrase" = false := by
    have hnames : (setup? settings.rules).toOption.any (fun c =>
        c.isCredentialName "pwd" && !c.isCredentialName "phrase") = true := by decide +kernel
    cases h : setup? settings.rules with
    | ok c => exact ⟨c, rfl, by simpa [h, Except.toOption] using hnames⟩
    | error err => simp [h, Except.toOption] at hnames
  let e : Engine := ⟨g, true⟩
  have hcomplete : (e.analyze connectUnit .never).isComplete := by
    rw [e.analyze_never (u := connectUnit) rfl]
    rfl
  have hv : v ∈ connectTree.visits := Node.mem_visits_iff.2 ⟨rfl, rfl⟩
  have hslot : settings.rules.slotsInForce.find? (·.callee == "getConnection") =
      some ⟨"getConnection", [1, 2]⟩ := by decide
  have hscope : (v.site connectUnit).callable? = some connectTree := by decide +kernel
  have hpwdBound : (connectTree.bindings "pwd").any isSecret = true := by decide +kernel
  have hphraseBound : (connectTree.bindings "phrase").any isSecret = true := by decide +kernel
  refine ⟨e, c, hg, hc, List.not_mem_nil, rfl, hcomplete, hv, rfl, hslot, hscope, hpwdBound,
    hphraseBound, hpwd, hphrase, fun span hspan => ?_⟩
  have hfirst : connectCall.arguments[1]? = some (.ident "pwd" ⟨4, 4, 4, 6⟩) := by decide +kernel
  have hsecond : connectCall.arguments[2]? = some (.ident "phrase" ⟨4, 7, 4, 9⟩) := by
    decide +kernel
  have hbindings := ((findings_of_bound_argument (e := e) hg hc List.not_mem_nil
    (u := connectUnit) rfl hcomplete hv rfl hslot (i := 1) (by decide) hfirst rfl rfl hscope
    hpwdBound).2 hpwd).2
  have hargument := (findings_of_bound_argument (e := e) hg hc List.not_mem_nil
    (u := connectUnit) rfl hcomplete hv rfl hslot (i := 2) (by decide) hsecond rfl rfl hscope
    hphraseBound).1 hphrase
  simp only [List.mem_cons, List.not_mem_nil, or_false] at hspan
  rcases hspan with rfl | rfl | rfl
  · obtain ⟨f, hf, hrule, hat, -⟩ := hbindings (declareSecret "pwd" ⟨1, 1, 1, 9⟩)
      (by decide +kernel) (by decide +kernel)
    exact ⟨f, hf, hrule, hat.trans (by decide +kernel)⟩
  · obtain ⟨f, hf, hrule, hat, -⟩ := hbindings connectAssignment (by decide +kernel)
      (by decide +kernel)
    exact ⟨f, hf, hrule, hat.trans (by decide +kernel)⟩
  · obtain ⟨f, hf, hrule, hat, -⟩ := hargument
    exact ⟨f, hf, hrule, hat.trans (by decide +kernel)⟩

end Complete

/-! ## Entries for a callee -/

/-- Each literal that is passed to the callee in the position is reported. -/
def Setup.Honours (c : Setup) (callee : String) (i : Nat) : Prop :=
  ∀ (s : Site) (n arg : Node), callee? n = some callee → n.arguments[i]? = some arg →
    isSecret arg = true → passedFinding s callee arg ∈ report c s n

/-- A call with a literal after `i` other arguments. -/
def callWithLiteral (callee : String) (i : Nat) : Node :=
  (Node.callOf callee {}).pushAll .argument
    (List.replicate i (Node.leaf .block {}) ++ [.string "hunter2" ⟨1, 1, 1, 9⟩])

theorem arguments_callWithLiteral (callee : String) (i : Nat) :
    (callWithLiteral callee i).arguments =
      List.replicate i (Node.leaf .block {}) ++ [.string "hunter2" ⟨1, 1, 1, 9⟩] := by
  simp [callWithLiteral, Node.arguments, Node.childrenIn, Node.pushAll, Node.callOf]

theorem eq_of_slotFinding?_callWithLiteral {i j : Nat}
    (harg : (callWithLiteral callee i).arguments[j]? = some arg)
    (hf : (slotFinding? c s callee arg).isSome) : j = i := by
  rw [arguments_callWithLiteral, List.getElem?_append] at harg
  split at harg
  · next hlt =>
    rw [List.length_replicate] at hlt
    obtain rfl : Node.leaf .block {} = arg := by simpa [List.getElem?_replicate, hlt] using harg
    simp [slotFinding?, isSecret, Node.leaf] at hf
  · next hle =>
    simp only [List.length_replicate, List.getElem?_singleton] at hle harg
    split at harg
    · omega
    · cases harg

/-- **Which entries count.** All literals passed to a callee in some position are reported iff the
first entry for the callee lists the position. So if no callee has two entries, each position of each
entry counts. -/
theorem honours_iff (c : Setup) :
    (∀ callee i, c.Honours callee i ↔
      ∃ slot, c.slots.find? (·.callee == callee) = some slot ∧ i ∈ slot.slots) ∧
    ((c.slots.map (·.callee)).Nodup →
      ∀ slot ∈ c.slots, ∀ i ∈ slot.slots, c.Honours slot.callee i) := by
  have hfirst : ∀ callee i, c.Honours callee i ↔
      ∃ slot, c.slots.find? (·.callee == callee) = some slot ∧ i ∈ slot.slots := by
    intro callee i
    constructor
    · intro h
      have hcallee : callee? (callWithLiteral callee i) = some callee := rfl
      have harg : (callWithLiteral callee i).arguments[i]? =
          some (.string "hunter2" ⟨1, 1, 1, 9⟩) := by simp [arguments_callWithLiteral]
      have hmem := h ⟨.parsed "" "" (callWithLiteral callee i), [], 0⟩ _ _ hcallee harg
        (by decide)
      rw [report_of_callee? hcallee, mem_reportSlots_iff hcallee] at hmem
      obtain ⟨slot, hslot, j, hj, arg, harg, hf⟩ := hmem
      obtain rfl := eq_of_slotFinding?_callWithLiteral harg (by rw [hf]; rfl)
      exact ⟨slot, hslot, hj⟩
    · rintro ⟨slot, hslot, hi⟩ s n arg hcallee harg hsecret
      rw [report_of_callee? hcallee, mem_reportSlots_iff hcallee]
      exact ⟨slot, hslot, i, hi, arg, harg, slotFinding?_of_isSecret hsecret⟩
  exact ⟨hfirst, fun hdistinct slot hslot i hi =>
    (hfirst _ _).2 ⟨slot, find?_key hdistinct hslot, hi⟩⟩

/-- The second position counts if its entry is for another callee, and not if it is for the same
one. -/
theorem honours_iff_two_entries :
    Setup.Honours ⟨none, [⟨"connect", [0]⟩, ⟨"login", [1]⟩]⟩ "login" 1 ∧
      ¬Setup.Honours ⟨none, [⟨"connect", [0]⟩, ⟨"connect", [1]⟩]⟩ "connect" 1 := by
  constructor
  · exact (honours_iff ⟨none, [⟨"connect", [0]⟩, ⟨"login", [1]⟩]⟩).2 (by decide) ⟨"login", [1]⟩
      (by decide) 1 (by decide)
  · rw [(honours_iff _).1]
    rintro ⟨slot, hslot, hi⟩
    obtain rfl : ⟨"connect", [0]⟩ = slot := by simpa using hslot
    simp at hi

/-- The second of two entries for one callee is passed over: the literal in its position is not
reported. -/
theorem second_entry_ignored :
    let c : Setup := ⟨none, [⟨"connect", [0]⟩, ⟨"connect", [1]⟩]⟩
    let n := callWithLiteral "connect" 1
    (∃ slot ∈ c.slots, slot.callee = "connect" ∧ 1 ∈ slot.slots) ∧
      callee? n = some "connect" ∧ n.arguments[1]? = some (.string "hunter2" ⟨1, 1, 1, 9⟩) ∧
      isSecret (.string "hunter2" ⟨1, 1, 1, 9⟩) = true ∧
      report c ⟨.parsed "connect.js" "connect()" n, [], 0⟩ n = [] := by
  decide +kernel

end Rules.HardcodedCredential

end TreeLint
