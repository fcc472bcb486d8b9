import TreeLint.Proofs.JsonValues

/-!
# Documents are read back as they were written

A document is written as a text of lists and objects that stand in each other: an edge of the tree
costs three of them, the list of the children, the pair of role and node and the object of the
node. A reader has 127 levels.

**Theorem** (`ofDocument_write`). For every document, whose text may be any text and whose tree may
have any kinds, roles, texts and spans, under a path whose language is known (or need not be): if
the written text nests at most 127 lists and objects, it becomes a unit with this text and this
tree; if it nests more, it becomes a unit without a tree, on account of a bad text. The first is
the case exactly for the trees of at most 41 edges in depth.

* `nesting` counts the open brackets of any text, `nesting_write` gives it for a written document.
* `readNode_answers` goes by induction on the tree: with `depth` levels left, a node is read back if
  three levels for each edge and two for the node fit into them, and is nested too deep if not.
-/

namespace TreeLint.Document

open Json (encodeChar Answers Reads Takes Starts Closing Member)

/-! ## Nesting -/

/-- Where a place in a JSON text stands: outside the quoted texts, inside one, or right after a
backslash in one. -/
inductive Stand where
  | plain | quoted | escaped

/-- The greatest number of brackets that are open at a time, from a place on where `level` of them
are open. -/
def nestingFrom : Stand → (level : Nat) → List Char → Nat
  | _, level, [] => level
  | .escaped, level, _ :: s => nestingFrom .quoted level s
  | .quoted, level, c :: s =>
    nestingFrom (if c == '\\' then .escaped else if c == '"' then .plain else .quoted) level s
  | .plain, level, c :: s =>
    if c == '[' || c == '{' then nestingFrom .plain (level + 1) s
    else if c == ']' || c == '}' then max level (nestingFrom .plain (level - 1) s)
    else nestingFrom (if c == '"' then .quoted else .plain) level s

/-- How many lists and objects of a JSON text stand in each other. -/
def nesting (text : String) : Nat := nestingFrom .plain 0 text.toList

theorem level_le_nestingFrom (stand : Stand) (level : Nat) (s : List Char) :
    level ≤ nestingFrom stand level s := by
  fun_induction nestingFrom stand level s <;> omega

/-- A written value opens `k` levels of its own and closes them again. -/
def Nests (k : Nat) (w : List Char) : Prop :=
  ∀ level rest, nestingFrom .plain level (w ++ rest) =
    max (level + k) (nestingFrom .plain level rest)

theorem Nests.append {k k' : Nat} {w w' : List Char} (h : Nests k w) (h' : Nests k' w') :
    Nests (max k k') (w ++ w') := by
  intro level rest
  rw [List.append_assoc, h, h']
  omega

theorem nests_plain {w : List Char} (h : ∀ c ∈ w, c ∉ ['[', '{', ']', '}', '"']) : Nests 0 w := by
  intro level rest
  rw [Nat.add_zero, Nat.max_eq_right (level_le_nestingFrom .plain level rest)]
  induction w with
  | nil => rfl
  | cons c w ih =>
    obtain ⟨hc, hw⟩ := List.forall_mem_cons.1 h
    rw [List.cons_append, nestingFrom, ← ih hw]
    simp only [List.mem_cons, List.not_mem_nil, or_false, not_or] at hc
    simp [hc]

theorem Nests.bracket {k : Nat} {w : List Char} (h : Nests k w) {c d : Char}
    (hc : c = '[' ∨ c = '{') (hd : d = ']' ∨ d = '}') : Nests (k + 1) (c :: w ++ [d]) := by
  intro level rest
  have hopen : ∀ s, nestingFrom .plain level (c :: s) = nestingFrom .plain (level + 1) s := by
    intro s
    obtain rfl | rfl := hc <;> simp [nestingFrom]
  have hclose : nestingFrom .plain (level + 1) (d :: rest) =
      max (level + 1) (nestingFrom .plain level rest) := by
    obtain rfl | rfl := hd <;> simp [nestingFrom]
  rw [List.append_assoc, List.cons_append, hopen, h, List.singleton_append, hclose]
  omega

/-- A written character neither ends the text nor opens a bracket. -/
theorem nestingFrom_encodeChar (c : Char) (level : Nat) (rest : List Char) :
    nestingFrom .quoted level (encodeChar c ++ rest) = nestingFrom .quoted level rest := by
  unfold encodeChar
  split
  · rfl
  · rfl
  · rfl
  · rfl
  · rfl
  · rfl
  · rfl
  · next hquote hbackslash _ _ _ _ _ =>
    by_cases hc : c < ' '
    · have hhex : ∀ n < 16, Json.hexDigit n ≠ '\\' ∧ Json.hexDigit n ≠ '"' := by decide
      have hlt : c.toNat < 32 := hc
      have hhigh := hhex (c.toNat / 16) (by omega)
      have hlow := hhex (c.toNat % 16) (by omega)
      simp [hc, nestingFrom, hhigh, hlow]
    · have hplain : c ≠ '"' ∧ c ≠ '\\' := ⟨hquote, hbackslash⟩
      simp [hc, nestingFrom, hplain]

theorem nests_text (t : String) : Nests 0 (writeText t) := by
  intro level rest
  have hchars : ∀ s : List Char, nestingFrom .quoted level (s.flatMap encodeChar ++ '"' :: rest) =
      nestingFrom .plain level rest := by
    intro s
    induction s with
    | nil => simp [nestingFrom]
    | cons c s ih => rw [List.flatMap_cons, List.append_assoc, nestingFrom_encodeChar, ih]
  rw [Nat.add_zero, Nat.max_eq_right (level_le_nestingFrom .plain level rest)]
  simp [writeText, Json.encode, nestingFrom, hchars]

theorem nests_word32 (n : UInt32) : Nests 0 (writeWord32 n) := by
  refine nests_plain fun c hc hmem => ?_
  have hdigit : c.isDigit := Nat.isDigit_of_mem_toDigits (by decide) (by decide) hc
  have hbrackets : ∀ c ∈ ['[', '{', ']', '}', '"'], ¬c.isDigit := by simp
  exact hbrackets c hmem hdigit

/-- Items or fields that open `k` levels at most, and one of them as many. -/
def NestAll (k : Nat) (ws : List (List Char)) : Prop :=
  ∀ first, Nests k (Json.continued first ws)

theorem nestAll_nil : NestAll 0 [] := fun first => by
  cases first <;> exact nests_plain (by simp [Json.continued])

theorem NestAll.cons {k k' : Nat} {w : List Char} {ws : List (List Char)} (h : Nests k w)
    (hws : NestAll k' ws) : NestAll (max k k') (w :: ws) := by
  intro first
  cases first with
  | true => exact h.append (hws false)
  | false =>
    have hcomma : Nests 0 [','] := nests_plain (by simp)
    have hall := (hcomma.append h).append (hws false)
    rwa [Nat.zero_max] at hall

theorem NestAll.append {k k' : Nat} {ws ws' : List (List Char)} (h : NestAll k ws)
    (h' : NestAll k' ws') : NestAll (max k k') (ws ++ ws') := by
  intro first
  rw [Json.continued_append]
  exact (h first).append (h' _)

theorem NestAll.object {k : Nat} {ws : List (List Char)} (h : NestAll k ws) :
    Nests (k + 1) (writeObject ws) := by
  rw [writeObject, Json.commas_eq_continued]
  exact (h true).bracket (.inr rfl) (.inr rfl)

theorem NestAll.list {k : Nat} {ws : List (List Char)} (h : NestAll k ws) :
    Nests (k + 1) (writeList ws) := by
  rw [writeList, Json.commas_eq_continued]
  exact (h true).bracket (.inl rfl) (.inl rfl)

theorem Nests.field {k : Nat} {w : List Char} (h : Nests k w) (key : String) :
    Nests k (writeField key w) := by
  have hcolon : Nests 0 [':'] := nests_plain (by simp)
  have hall := (nests_text key).append (hcolon.append h)
  rwa [Nat.zero_max, Nat.zero_max] at hall

theorem nestAll_zero {ws : List (List Char)} (h : ∀ w ∈ ws, Nests 0 w) : NestAll 0 ws := by
  induction ws with
  | nil => exact nestAll_nil
  | cons w ws ih =>
    obtain ⟨hw, hws⟩ := List.forall_mem_cons.1 h
    exact .cons hw (ih hws)

theorem nests_span (s : Span) : Nests 1 (writeSpan s) :=
  NestAll.object (nestAll_zero (by simp [(nests_word32 _).field]))

theorem nestAll_headFields (h : Head) : NestAll 1 (headFields h) := by
  have hopt : ∀ key (t : Option String), NestAll 0 (writeOptional key t) := by
    intro key t
    refine nestAll_zero fun w hw => ?_
    obtain ⟨t, -, rfl⟩ := List.mem_map.1 hw
    exact (nests_text t).field key
  have hmodifiers : ∃ k ≤ 1, NestAll k (if h.modifiers.isEmpty then []
      else [writeField "modifiers" (writeList (h.modifiers.map writeText))]) := by
    split
    · exact ⟨0, by omega, nestAll_nil⟩
    · have htexts : NestAll 0 (h.modifiers.map writeText) :=
        nestAll_zero (List.forall_mem_map.2 fun t _ => nests_text t)
      exact ⟨1, Nat.le_refl 1, .cons (htexts.list.field _) nestAll_nil⟩
  obtain ⟨k, hk, hmodifiers⟩ := hmodifiers
  have hfirst : NestAll 1 [writeField "kind" (writeText h.kind.name),
      writeField "span" (writeSpan h.span)] :=
    .cons ((nests_text _).field _) (.cons ((nests_span _).field _) nestAll_nil)
  have hall := (((hfirst.append (hopt "name" h.name)).append (hopt "value" h.value)).append
    (hopt "typeName" h.typeName)).append hmodifiers
  rwa [Nat.max_eq_left (by omega)] at hall

mutual

/-- A node opens three levels for each edge below it, and two for itself. -/
theorem nests_node : (n : Node) → Nests (3 * edgeDepth n + 2) (writeNode n)
  | ⟨h, []⟩ => (nestAll_headFields h).object
  | ⟨h, c :: cs⟩ => by
    have hchildren := ((nestAll_children (c :: cs)).list.field "children")
    have hnode := ((nestAll_headFields h).append (.cons hchildren nestAll_nil)).object
    rw [writeNode, edgeDepth]
    rwa [Nat.max_eq_right (by omega), Nat.max_eq_left (by omega)] at hnode

theorem nestAll_children : (cs : List (Role × Node)) →
    NestAll (3 * edgeDepthList cs) (writeChildren cs)
  | [] => nestAll_nil
  | (r, n) :: cs => by
    have hpair := (NestAll.cons (nests_text r.name) (.cons (nests_node n) nestAll_nil)).list
    have hall := NestAll.cons hpair (nestAll_children cs)
    rw [writeChildren, edgeDepthList]
    rwa [show max (max 0 (max (3 * edgeDepth n + 2) 0) + 1) (3 * edgeDepthList cs) =
      3 * max (edgeDepth n + 1) (edgeDepthList cs) by omega] at hall

end

/-- A written document nests three levels for each edge of its tree, and three for itself, the root
and the span of the root. -/
theorem nesting_write (d : Document) : nesting (write d) = 3 * edgeDepth d.root + 3 := by
  have hfields := NestAll.cons ((nests_text d.source).field "source")
    (.cons ((nests_node d.root).field "root") nestAll_nil)
  have hall := hfields.object 0 []
  rw [List.append_nil, nestingFrom] at hall
  rw [nesting, write, String.toList_ofList, hall]
  omega

/-! ## Spans and heads -/

theorem starts_object (ws : List (List Char)) : Starts (writeObject ws) :=
  ⟨'{', _, rfl, by decide, by decide⟩

theorem starts_list (ws : List (List Char)) : Starts (writeList ws) :=
  ⟨'[', _, rfl, by decide, by decide⟩

theorem starts_text (t : String) : Starts (writeText t) := ⟨'"', _, rfl, by decide, by decide⟩

theorem writeField_ne_nil (key : String) (w : List Char) : writeField key w ≠ [] := by
  simp [writeField, writeText, Json.encode]

theorem length_lt_writeField (key : String) (w : List Char) :
    w.length < (writeField key w).length := by
  simp [writeField]
  omega

/-- A reader with more rounds than a written list or object has characters has enough of them for
the number of its items and for each item. -/
theorem lt_of_bracket {c d : Char} {ws : List (List Char)} {fuel : Nat}
    (hfuel : (c :: commas ws ++ [d]).length < fuel) :
    (∀ w ∈ ws, w.length < fuel) ∧ ((∀ w ∈ ws, w ≠ []) → ws.length < fuel) := by
  simp only [List.length_append, List.length_cons, List.length_nil] at hfuel
  constructor
  · intro w hw
    have := Json.length_le_commas hw
    omega
  · intro hne
    have := Json.count_le_commas hne
    omega

theorem span_answers {s : Span} {fuel depth : Nat} (hfuel : (writeSpan s).length < fuel) :
    Answers (readSpan fuel depth) (writeSpan s) s (0 < depth) := by
  have hcount := (lt_of_bracket hfuel).2 (by simp [writeField_ne_nil])
  have hfields : Takes spanFields fuel {} [writeField "startLine" (writeWord32 s.startLine),
      writeField "startCol" (writeWord32 s.startCol), writeField "endLine" (writeWord32 s.endLine),
      writeField "endCol" (writeWord32 s.endCol)]
      ⟨some s.startLine, some s.startCol, some s.endLine, some s.endCol⟩ _ :=
    .cons (Json.fieldValue_answers rfl rfl (Json.word32_reads s.startLine).answers) <|
    .cons (Json.fieldValue_answers rfl rfl (Json.word32_reads s.startCol).answers) <|
    .cons (Json.fieldValue_answers rfl rfl (Json.word32_reads s.endLine).answers) <|
    .cons (Json.fieldValue_answers rfl rfl (Json.word32_reads s.endCol).answers) (.nil _)
  have hfinish : SpanDraft.finish? ⟨some s.startLine, some s.startCol, some s.endLine,
      some s.endCol⟩ = some s := rfl
  refine (Json.record_answers hfields hfinish hcount).congr ?_
  simp

/-! ## Nodes -/

/-- What the fields of a written node make up. -/
def draftOf (h : Head) (cs : List (Role × Node)) : NodeDraft where
  kind := some h.kind
  span := some h.span
  name := h.name.map some
  value := h.value.map some
  typeName := h.typeName.map some
  modifiers := if h.modifiers.isEmpty then none else some h.modifiers
  children := if cs.isEmpty then none else some cs

theorem finish?_draftOf (h : Head) (cs : List (Role × Node)) :
    (draftOf h cs).finish? = some ⟨h, cs⟩ := by
  obtain ⟨kind, span, name, value, typeName, modifiers⟩ := h
  cases name <;> cases value <;> cases typeName <;> cases modifiers <;> cases cs <;> rfl

theorem takes_optional {δ : Type} {fields : List (Member δ)} {key : String}
    {get : δ → Option (Option String)} {set : δ → Option String → δ}
    (hfind : fields.find? (·.name == key) = some (.of key get set Json.optionalText))
    {loop : Nat} {d d' : δ} (hd : get d = none) {t : Option String}
    (hset : t.elim d (fun t => set d (some t)) = d') :
    Takes fields loop d (writeOptional key t) d' True := by
  subst hset
  cases t with
  | none => exact .nil d
  | some t => exact Json.takes_field hfind hd rfl (Json.optionalText_reads t).answers

theorem texts_answers {ts : List String} {fuel depth : Nat}
    (hfuel : (writeList (ts.map writeText)).length < fuel) :
    Answers (Json.list Json.text fuel depth) (writeList (ts.map writeText)) ts (0 < depth) := by
  have hcount := (lt_of_bracket hfuel).2
    (List.forall_mem_map.2 fun t _ => (starts_text t).ne_nil)
  rw [List.length_map] at hcount
  have htexts : Answers (Json.list Json.text fuel depth) (writeList (ts.map writeText))
      (ts.map fun t => t) (0 < depth ∧ ∀ t ∈ ts, True) :=
    Json.list_answers (fun _ t _ => (Json.text_reads t).answers) (fun t _ => starts_text t) hcount
  simpa using htexts

/-- The fields of a head need one level, for the span and for the list of modifiers. -/
theorem head_takes {child : List Char → Json.Result Node} {fuel depth : Nat} {h : Head}
    (hfuel : ∀ w ∈ headFields h, w.length < fuel) :
    Takes (nodeFields child fuel depth) fuel {} (headFields h) (draftOf h []) (0 < depth) := by
  have hkind : Takes (nodeFields child fuel depth) fuel {}
      [writeField "kind" (writeText h.kind.name)] { kind := some h.kind } True :=
    Json.takes_field rfl rfl (by rfl) (Json.name_reads (Kind.ofName?_name h.kind) depth).answers
  have hspan : Takes (nodeFields child fuel depth) fuel { kind := some h.kind }
      [writeField "span" (writeSpan h.span)] { kind := some h.kind, span := some h.span }
      (0 < depth) :=
    Json.takes_field rfl rfl (by rfl) (span_answers
      (Nat.lt_trans (length_lt_writeField "span" _) (hfuel _ (by simp [headFields]))))
  have hname : Takes (nodeFields child fuel depth) fuel
      { kind := some h.kind, span := some h.span } (writeOptional "name" h.name)
      { kind := some h.kind, span := some h.span, name := h.name.map some } True :=
    takes_optional rfl rfl (by cases h.name <;> rfl)
  have hvalue : Takes (nodeFields child fuel depth) fuel
      { kind := some h.kind, span := some h.span, name := h.name.map some }
      (writeOptional "value" h.value)
      { kind := some h.kind, span := some h.span, name := h.name.map some,
        value := h.value.map some } True :=
    takes_optional rfl rfl (by cases h.value <;> rfl)
  have htype : Takes (nodeFields child fuel depth) fuel
      { kind := some h.kind, span := some h.span, name := h.name.map some,
        value := h.value.map some }
      (writeOptional "typeName" h.typeName)
      { kind := some h.kind, span := some h.span, name := h.name.map some,
        value := h.value.map some, typeName := h.typeName.map some } True :=
    takes_optional rfl rfl (by cases h.typeName <;> rfl)
  have hmodifiers : Takes (nodeFields child fuel depth) fuel
      { kind := some h.kind, span := some h.span, name := h.name.map some,
        value := h.value.map some, typeName := h.typeName.map some }
      (if h.modifiers.isEmpty then []
        else [writeField "modifiers" (writeList (h.modifiers.map writeText))])
      (draftOf h []) (h.modifiers.isEmpty ∨ 0 < depth) := by
    by_cases hempty : h.modifiers.isEmpty
    · simpa [draftOf, hempty] using Takes.nil _
    · rw [if_neg hempty]
      have hlist : (writeList (h.modifiers.map writeText)).length < fuel :=
        Nat.lt_trans (length_lt_writeField "modifiers" _) (hfuel _ (by simp [headFields, hempty]))
      refine (Json.takes_field rfl rfl ?_ (texts_answers hlist)).congr ?_
      · simp [draftOf, hempty]
      · simp [hempty]
  refine (((((hkind.append hspan).append hname).append hvalue).append htype).append
    hmodifiers).congr ?_
  grind

/-- A child with its role. -/
def writeChild (c : Role × Node) : List Char := writeList [writeText c.1.name, writeNode c.2]

theorem starts_child (c : Role × Node) : Starts (writeChild c) := starts_list _

theorem writeChildren_eq (cs : List (Role × Node)) : writeChildren cs = cs.map writeChild := by
  induction cs with
  | nil => rfl
  | cons c cs ih => rw [writeChildren, ih, List.map_cons, writeChild]

/-- The fields of a node. -/
def fieldsOf (h : Head) (cs : List (Role × Node)) : List (List Char) :=
  headFields h ++
    if cs.isEmpty then [] else [writeField "children" (writeList (cs.map writeChild))]

theorem writeNode_eq (h : Head) (cs : List (Role × Node)) :
    writeNode ⟨h, cs⟩ = writeObject (fieldsOf h cs) := by
  cases cs with
  | nil => simp [writeNode, fieldsOf]
  | cons c cs => simp [writeNode, fieldsOf, writeChildren_eq]

theorem starts_node (n : Node) : Starts (writeNode n) := by
  obtain ⟨h, cs⟩ := n
  rw [writeNode_eq]
  exact starts_object _

theorem fieldsOf_ne_nil {h : Head} {cs : List (Role × Node)} : ∀ w ∈ fieldsOf h cs, w ≠ [] := by
  intro w hw
  have hfield : ∃ key v, w = writeField key v := by
    simp only [fieldsOf, headFields, writeOptional] at hw
    grind
  obtain ⟨key, v, rfl⟩ := hfield
  exact writeField_ne_nil key v

theorem edgeDepthList_le {cs : List (Role × Node)} {k : Nat} :
    edgeDepthList cs ≤ k ↔ ∀ c ∈ cs, edgeDepth c.2 + 1 ≤ k := by
  induction cs with
  | nil => simp [edgeDepthList]
  | cons c cs ih => rw [edgeDepthList, Nat.max_le, ih, List.forall_mem_cons]

theorem children_answers {child : List Char → Json.Result Node} {fuel depth : Nat}
    {cs : List (Role × Node)} {fits : Role × Node → Prop}
    (hchild : 1 < depth → ∀ c ∈ cs, Answers child (writeNode c.2) c.2 (fits c))
    (hfuel : (writeList (cs.map writeChild)).length < fuel) :
    Answers
      (Json.list (Json.pair (Json.name Role.ofName? (depth - 2)) child (depth - 1)) fuel depth)
      (writeList (cs.map writeChild)) cs (0 < depth ∧ ∀ c ∈ cs, 1 < depth ∧ fits c) := by
  have hcount := (lt_of_bracket hfuel).2
    (List.forall_mem_map.2 fun c _ => (starts_child c).ne_nil)
  rw [List.length_map] at hcount
  have hpair : ∀ c ∈ cs, Answers
      (Json.pair (Json.name Role.ofName? (depth - 2)) child (depth - 1)) (writeChild c) c
      (1 < depth ∧ fits c) := by
    intro c hc
    have hname := Json.name_reads (Role.ofName?_name c.1) (depth - 2)
    exact (Json.pair_answers hname (fun hlt => hchild (by omega) c hc) (starts_text _)
      (starts_node _)).congr (and_congr_left' (by omega))
  have hlist : Answers
      (Json.list (Json.pair (Json.name Role.ofName? (depth - 2)) child (depth - 1)) fuel depth)
      (writeList (cs.map writeChild)) (cs.map fun c => c)
      (0 < depth ∧ ∀ c ∈ cs, 1 < depth ∧ fits c) :=
    Json.list_answers (fun _ => hpair) (fun c _ => starts_child c) hcount
  rwa [List.map_id'] at hlist

/-- A node whose children answer. -/
theorem readNodeWith_answers {child : List Char → Json.Result Node} {fuel depth : Nat} {h : Head}
    {cs : List (Role × Node)} {fits : Role × Node → Prop}
    (hchild : 3 ≤ depth → ∀ c ∈ cs, Answers child (writeNode c.2) c.2 (fits c))
    (hfuel : (writeNode ⟨h, cs⟩).length < fuel) :
    Answers (readNodeWith child fuel depth) (writeNode ⟨h, cs⟩) ⟨h, cs⟩
      (2 ≤ depth ∧ ∀ c ∈ cs, 3 ≤ depth ∧ fits c) := by
  rw [writeNode_eq] at hfuel ⊢
  obtain ⟨hpieces, hcount⟩ := lt_of_bracket hfuel
  have hhead : Takes (nodeFields child fuel (depth - 1)) fuel {} (headFields h) (draftOf h [])
      (0 < depth - 1) :=
    head_takes fun w hw => hpieces w (List.mem_append_left _ hw)
  have hchildren : Takes (nodeFields child fuel (depth - 1)) fuel (draftOf h [])
      (if cs.isEmpty then [] else [writeField "children" (writeList (cs.map writeChild))])
      (draftOf h cs) (cs.isEmpty ∨ 2 ≤ depth ∧ ∀ c ∈ cs, 3 ≤ depth ∧ fits c) := by
    by_cases hempty : cs.isEmpty
    · simpa [List.isEmpty_iff.1 hempty] using Takes.nil _
    · have hlist : (writeList (cs.map writeChild)).length < fuel :=
        Nat.lt_trans (length_lt_writeField "children" _)
          (hpieces _ (by simp [fieldsOf, hempty]))
      rw [if_neg hempty]
      refine (Json.takes_field rfl rfl ?_
        (children_answers (fun hlt => hchild (by omega)) hlist)).congr ?_
      · simp [draftOf, hempty]
      · grind
  refine (Json.record_answers (hhead.append hchildren) (finish?_draftOf h cs)
    (hcount fieldsOf_ne_nil)).congr ?_
  grind

/-- Where the depth allows for a child, it has three levels less. -/
theorem readNode_eq (fuel depth : Nat) : ∃ child,
    readNode fuel depth = readNodeWith child fuel depth ∧
      (3 ≤ depth → child = readNode fuel (depth - 3)) := by
  match depth with
  | 0 => exact ⟨Json.failAt .tooDeep, rfl, by omega⟩
  | 1 => exact ⟨Json.failAt .tooDeep, rfl, by omega⟩
  | 2 => exact ⟨Json.failAt .tooDeep, rfl, by omega⟩
  | depth + 3 => exact ⟨readNode fuel depth, rfl, fun _ => rfl⟩

theorem child_lt {h : Head} {cs : List (Role × Node)} {fuel : Nat}
    (hfuel : (writeNode ⟨h, cs⟩).length < fuel) : ∀ c ∈ cs, (writeChild c).length < fuel := by
  intro c hc
  rw [writeNode_eq] at hfuel
  have hfield := (lt_of_bracket hfuel).1 (writeField "children" (writeList (cs.map writeChild)))
    (by simp [fieldsOf, List.ne_nil_of_mem hc])
  exact (lt_of_bracket (Nat.lt_trans (length_lt_writeField _ _) hfield)).1 _
    (List.mem_map_of_mem hc)

mutual

/-- A written node is read back if its levels fit into the depth, and nested too deep if not. -/
theorem readNode_answers : (n : Node) → {fuel depth : Nat} → (writeNode n).length < fuel →
    Answers (readNode fuel depth) (writeNode n) n (3 * edgeDepth n + 2 ≤ depth)
  | ⟨h, cs⟩, fuel, depth, hfuel => by
    obtain ⟨child, hread, hchild⟩ := readNode_eq fuel depth
    have hchildren : 3 ≤ depth → ∀ c ∈ cs, Answers child (writeNode c.2) c.2
        (3 * edgeDepth c.2 + 2 ≤ depth - 3) := by
      intro hdepth
      rw [hchild hdepth]
      exact readChildren_answers cs (child_lt hfuel)
    rw [hread]
    refine (readNodeWith_answers hchildren hfuel).congr ?_
    have hfits : 3 * edgeDepthList cs + 2 ≤ depth ↔
        2 ≤ depth ∧ edgeDepthList cs ≤ (depth - 2) / 3 := by omega
    rw [edgeDepth, hfits, edgeDepthList_le]
    exact and_congr_right fun _ => forall₂_congr fun c _ => by omega

theorem readChildren_answers : (cs : List (Role × Node)) → {fuel depth : Nat} →
    (∀ c ∈ cs, (writeChild c).length < fuel) →
    ∀ c ∈ cs, Answers (readNode fuel depth) (writeNode c.2) c.2 (3 * edgeDepth c.2 + 2 ≤ depth)
  | [], _, _, _ => by simp
  | (r, n) :: cs, _, _, hfuel => by
    obtain ⟨hchild, hchildren⟩ := List.forall_mem_cons.1 hfuel
    exact List.forall_mem_cons.2 ⟨readNode_answers n ((lt_of_bracket hchild).1 _ (by simp)),
      readChildren_answers cs hchildren⟩

end

/-! ## Documents -/

/-- The fields of a document. -/
def documentFields (d : Document) : List (List Char) :=
  [writeField "source" (writeText d.source), writeField "root" (writeNode d.root)]

/-- A written document is read back if its tree has at most forty-one edges in depth, and nested
too deep if not. -/
theorem document_answers {d : Document} {fuel : Nat}
    (hfuel : (writeObject (documentFields d)).length < fuel) :
    Answers (Json.record (fields fuel (depthLimit - 1)) {} Draft.finish? fuel depthLimit)
      (writeObject (documentFields d)) d (edgeDepth d.root ≤ 41) := by
  obtain ⟨hpieces, hcount⟩ := lt_of_bracket hfuel
  have hroot : (writeNode d.root).length < fuel :=
    Nat.lt_trans (length_lt_writeField "root" _) (hpieces _ (by simp [documentFields]))
  have hfields : Takes (fields fuel (depthLimit - 1)) fuel {} (documentFields d)
      ⟨some d.source, some d.root⟩ (True ∧ 3 * edgeDepth d.root + 2 ≤ 126 ∧ True) :=
    .cons (Json.fieldValue_answers rfl rfl (Json.text_reads d.source).answers) <|
    .cons (Json.fieldValue_answers rfl rfl (readNode_answers d.root hroot)) (.nil _)
  have hfinish : Draft.finish? ⟨some d.source, some d.root⟩ = some d := rfl
  refine (Json.record_answers hfields hfinish (hcount ?_)).congr ?_
  · simp [documentFields, writeField_ne_nil]
  · simp only [depthLimit, true_and, and_true]
    omega

theorem toList_write (d : Document) : (write d).toList = writeObject (documentFields d) := by
  rw [write, String.toList_ofList, documentFields]

theorem read_write {d : Document} (h : edgeDepth d.root ≤ 41) : read (write d) = .ok d := by
  have hread := (document_answers (Nat.lt_add_one _)).reads h [] Json.closing_nil
  rw [List.append_nil] at hread
  simp only [read, toList_write, readAll, hread]
  rfl

theorem read_write_deep {d : Document} (h : 41 < edgeDepth d.root) :
    ∃ left, read (write d) = .error (.text .tooDeep left) := by
  obtain ⟨left, hread⟩ := (document_answers (Nat.lt_add_one _)).refuses (Nat.not_le.2 h) []
  rw [List.append_nil] at hread
  exact ⟨left, by simp only [read, toList_write, readAll, hread]⟩

end Document

/-- A written document becomes a unit with its text and its tree if it nests at most 127 lists and
objects, and a unit without a tree if it nests more. It nests at most 127 if its tree has at most
forty-one edges in depth. -/
theorem SourceUnit.ofDocument_write (d : Document) {anyLanguage : Bool} {path : String}
    (hpath : anyLanguage = true ∨ (Language.ofPath? path).isSome) :
    (Document.nesting d.write ≤ 127 →
      SourceUnit.ofDocument anyLanguage path d.write = .parsed path d.source d.root) ∧
    (127 < Document.nesting d.write → ∃ line column : Nat,
      SourceUnit.ofDocument anyLanguage path d.write =
        .failed path "" (.badText path (.ofNat line) (.ofNat column)
          s!"recursion limit exceeded at line {line} column {column}")) ∧
    (Document.nesting d.write ≤ 127 ↔ Document.edgeDepth d.root ≤ 41) := by
  have hnesting := Document.nesting_write d
  have hknown : (!anyLanguage && (Language.ofPath? path).isNone) = false := by
    obtain rfl | hsome := hpath
    · rfl
    · simp [Option.isNone_eq_false_iff.2 hsome]
  refine ⟨fun hle => ?_, fun hlt => ?_, by omega⟩
  · rw [ofDocument, hknown, Document.read_write (by omega)]
    rfl
  · obtain ⟨left, hread⟩ := Document.read_write_deep (d := d) (by omega)
    rw [ofDocument, hknown, hread]
    exact ⟨_, _, rfl⟩

/-- Blocks that stand in each other. -/
def Document.tower : (edges : Nat) → Node
  | 0 => .leaf .block {}
  | edges + 1 => { kind := .block, children := [(.statement, tower edges)] }

theorem Document.edgeDepth_tower (edges : Nat) : edgeDepth (tower edges) = edges := by
  induction edges with
  | zero => rfl
  | succ edges ih => simp [tower, edgeDepth, edgeDepthList, ih]

theorem SourceUnit.ofDocument_write_tower :
    (Language.ofPath? "src/A.java").isSome ∧
    SourceUnit.ofDocument false "src/A.java" (Document.write ⟨"class A", Document.tower 41⟩) =
      .parsed "src/A.java" "class A" (Document.tower 41) ∧
    ∃ line column : Nat,
      SourceUnit.ofDocument false "src/A.java" (Document.write ⟨"class A", Document.tower 42⟩) =
        .failed "src/A.java" "" (.badText "src/A.java" (.ofNat line) (.ofNat column)
          s!"recursion limit exceeded at line {line} column {column}") := by
  have hpath : (Language.ofPath? "src/A.java").isSome := by decide +kernel
  have hshallow := SourceUnit.ofDocument_write ⟨"class A", Document.tower 41⟩ <|
    show false = true ∨ _ from .inr hpath
  have hdeep := SourceUnit.ofDocument_write ⟨"class A", Document.tower 42⟩ <|
    show false = true ∨ _ from .inr hpath
  rw [Document.edgeDepth_tower] at hshallow hdeep
  exact ⟨hpath, hshallow.1 (hshallow.2.2.2 (by decide)),
    hdeep.2.1 (Nat.not_le.1 fun hle => absurd (hdeep.2.2.1 hle) (by decide))⟩

end TreeLint
