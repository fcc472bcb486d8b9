import TreeLint.Proofs.DirectiveLines

/-!
# Directives in comments

A comment with the marker is a directive, and whether it is alone on its line is read off what stands
before the earliest comment opener on the line. A *lead* is a text that the search for openers passes
over: it has no opener in it and ends in a blank, if it is not empty. Of a line that goes on with an
opener behind a lead, the lead is what stands before the comment (`beforeComment?_of_lead`).

**Theorem (`suppressionsOf_trailing`).** Code behind blanks, with the directive of all rules behind it,
declares a suppression of its own line. With a closed block comment before the code, it declares one
of the next line: the earliest opener is then that of the block comment, and only blanks stand before
it. So the directive misses the code that it trails (`trailing_directive_misses_its_line`).
-/

namespace TreeLint

open Text

namespace Directive

/-! ## The earliest opener -/

/-- One step of the search for the shortest text. -/
def shorter (best : Option (List Char)) (before : List Char) : Option (List Char) :=
  match best with
  | none => some before
  | some b => if before.length < b.length then some before else some b

theorem beforeComment?_eq_foldl (s : List Char) :
    beforeComment? s =
      (openers.filterMap fun o => (breakOn o s).map (·.1)).foldl shorter none := rfl

/-- The search finds `b` if it is among the texts and only texts equal to it are as short. -/
theorem foldl_shorter {b : List Char} {bs : List (List Char)} {best : Option (List Char)}
    (hmin : ∀ x ∈ best.toList ++ bs, b.length ≤ x.length ∧ (x.length = b.length → x = b))
    (hmem : b ∈ best.toList ++ bs) : bs.foldl shorter best = some b := by
  induction bs generalizing best with
  | nil =>
    rw [List.append_nil] at hmem
    exact Option.mem_toList.1 hmem
  | cons y bs ih =>
    rw [List.foldl_cons]
    cases best with
    | none => exact ih hmin hmem
    | some x =>
      rw [shorter]
      have hx := hmin x List.mem_cons_self
      have hy := hmin y (List.mem_cons_of_mem _ List.mem_cons_self)
      have hrest : ∀ z ∈ bs, b.length ≤ z.length ∧ (z.length = b.length → z = b) := fun z hz =>
        hmin z (List.mem_cons_of_mem _ (List.mem_cons_of_mem _ hz))
      have hcases : b = x ∨ b = y ∨ b ∈ bs := by simpa using hmem
      by_cases hlt : y.length < x.length
      · rw [if_pos hlt]
        refine ih (by simpa using ⟨hy, hrest⟩) ?_
        rcases hcases with rfl | rfl | hb
        · omega
        · exact List.mem_cons_self
        · exact List.mem_cons_of_mem _ hb
      · rw [if_neg hlt]
        refine ih (by simpa using ⟨hx, hrest⟩) ?_
        rcases hcases with rfl | rfl | hb
        · exact List.mem_cons_self
        · obtain rfl : x = b := hx.2 (by omega)
          exact List.mem_cons_self
        · exact List.mem_cons_of_mem _ hb

/-- The shortest text before an opener is what stands before the comment. -/
theorem beforeComment?_eq_some {s b after o : List Char} (ho : o ∈ openers)
    (h : breakOn o s = some (b, after))
    (hmin : ∀ o' ∈ openers, ∀ b' after', breakOn o' s = some (b', after') →
      b.length ≤ b'.length) : beforeComment? s = some b := by
  rw [beforeComment?_eq_foldl]
  refine foldl_shorter (fun x hx => ?_) ?_
  · obtain ⟨o', ho', hx⟩ := List.mem_filterMap.1 hx
    obtain ⟨⟨x, after'⟩, hfound, rfl⟩ := Option.map_eq_some_iff.1 hx
    refine ⟨hmin o' ho' x after' hfound, fun hlength => ?_⟩
    -- Both are at the start of the text.
    have hsplit := (append_of_breakOn hfound).symm.trans (append_of_breakOn h)
    rw [List.append_assoc, List.append_assoc] at hsplit
    exact (List.append_inj hsplit hlength).1
  · exact List.mem_filterMap.2 ⟨o, ho, by rw [h]; rfl⟩

/-! ## Leads -/

/-- What can stand before a comment without being taken for a part of it. -/
structure IsLead (lead : List Char) : Prop where
  ends : ∀ c ∈ lead.getLast?, isBlank c = true
  noOpener : ∀ o ∈ openers, ¬o <:+: lead

variable {lead : List Char}

theorem solid_of_mem_openers {o : List Char} (ho : o ∈ openers) : o.any isBlank = false := by
  revert o
  decide

theorem ne_nil_of_mem_openers {o : List Char} (ho : o ∈ openers) : o ≠ [] := by
  rintro rfl
  revert ho
  decide

/-- A lead is empty or ends in a character that no needle without blanks has. -/
theorem IsLead.eq_nil_or_concat (h : IsLead lead) :
    lead = [] ∨ ∃ p d, lead = p ++ [d] ∧
      ∀ needle : List Char, needle.any isBlank = false → d ∉ needle := by
  rcases List.eq_nil_or_concat' lead with hnil | ⟨p, d, rfl⟩
  · exact .inl hnil
  · refine .inr ⟨p, d, rfl, fun needle hsolid hmem => ?_⟩
    exact List.any_eq_false.1 hsolid d hmem (h.ends d (by simp))

/-- So such a needle is not found across the end of a lead. -/
theorem IsLead.isInfix_append (h : IsLead lead) {needle : List Char}
    (hsolid : needle.any isBlank = false) (hne : needle ≠ []) (s : List Char) :
    needle <:+: lead ++ s ↔ needle <:+: lead ∨ needle <:+: s := by
  rcases h.eq_nil_or_concat with rfl | ⟨p, d, rfl, hd⟩
  · rw [List.nil_append, List.infix_nil, or_iff_right hne]
  · rw [List.append_assoc, List.singleton_append, isInfix_cut (hd needle hsolid),
      isInfix_cut (hd needle hsolid), List.infix_nil, or_iff_left hne]

/-- The search for an opener passes over a lead. -/
theorem IsLead.breakOn (h : IsLead lead) {o : List Char} (ho : o ∈ openers) (s : List Char) :
    breakOn o (lead ++ s) = (breakOn o s).map fun (before, after) => (lead ++ before, after) := by
  have hnone := h.noOpener o ho
  rcases h.eq_nil_or_concat with rfl | ⟨p, d, rfl, hd⟩
  · simp
  · have hp : ¬o <:+: p := fun hinside => hnone (hinside.trans (List.prefix_append p [d]).isInfix)
    rw [List.append_assoc, List.singleton_append,
      breakOn_cut_of_none (hd o (solid_of_mem_openers ho)) hp]
    simp

/-- A lead is what stands before the comment whose opener follows it. -/
theorem beforeComment?_of_lead (h : IsLead lead) {o : List Char} (ho : o ∈ openers)
    (rest : List Char) : beforeComment? (lead ++ (o ++ rest)) = some lead := by
  have hself : Text.breakOn o (lead ++ (o ++ rest)) = some (lead, rest) := by
    rw [h.breakOn ho, breakOn_self (ne_nil_of_mem_openers ho)]
    simp
  refine beforeComment?_eq_some ho hself fun o' ho' b' after' hfound => ?_
  rw [h.breakOn ho'] at hfound
  obtain ⟨⟨b, after⟩, -, heq⟩ := Option.map_eq_some_iff.1 hfound
  obtain ⟨rfl, -⟩ := Prod.mk.inj heq
  rw [List.length_append]
  exact Nat.le_add_right _ _

theorem isLead_of_blank (h : ∀ c ∈ lead, isBlank c = true) : IsLead lead where
  ends := fun c hc => h c (List.mem_of_getLast? hc)
  noOpener := fun _ ho => not_isInfix_of_disjoint (ne_nil_of_mem_openers ho)
    (disjoint_of_blank h (solid_of_mem_openers ho))

theorem isLead_of_code {code : List Char} (h : ∀ o ∈ openers, ¬o <:+: code) :
    IsLead (code ++ [' ']) where
  ends := fun c hc => by
    obtain rfl : ' ' = c := by simpa using hc
    decide
  noOpener := fun o ho hinside => by
    have hblank : ' ' ∉ o := by
      intro hmem
      exact List.any_eq_false.1 (solid_of_mem_openers ho) ' ' hmem (by decide)
    rcases (isInfix_cut hblank).1 hinside with hcode | hnil
    · exact h o ho hcode
    · exact ne_nil_of_mem_openers ho (List.infix_nil.1 hnil)

/-! ## The directive of a line -/

/-- The selectors for the ids of a list. -/
def selectorsFor (ids : List String) : List RuleSelector :=
  if ids.isEmpty then [.any] else ids.map .rule

theorem selectorsFor_ignoredIds_nil : selectorsFor (ignoredIds []) = [.any] := rfl

/-- The marker behind a blank, and no marker before it. -/
theorem ofComment?_marked {p : List Char} (hp : ¬marker <:+: p) (after : List Char) :
    ofComment? (p ++ ' ' :: (marker ++ after)) =
      (beforeComment? (p ++ [' '])).map fun code =>
        ⟨selectorsFor (ignoredIds after), allBlank code⟩ := by
  have hfound : breakOn marker (p ++ ' ' :: (marker ++ after)) = some (p ++ [' '], after) := by
    rw [breakOn_cut_of_none (by decide) hp, breakOn_self (by decide)]
    rfl
  rw [ofComment?, hfound]
  dsimp only
  cases beforeComment? (p ++ [' ']) with
  | none => rfl
  | some code => rfl

theorem ofLine?_of_lead (h : IsLead lead) {o : List Char} (ho : o ∈ openers) {rest : List Char}
    (hmarker : ¬marker <:+: lead ++ (o ++ rest)) (after : List Char) :
    ofLine? (lead ++ (o ++ rest) ++ ' ' :: (marker ++ after)) =
      some ⟨selectorsFor (ignoredIds after), allBlank lead⟩ := by
  have hbefore : beforeComment? (lead ++ (o ++ rest) ++ [' ']) = some lead := by
    rw [List.append_assoc, List.append_assoc]
    exact beforeComment?_of_lead h ho (rest ++ [' '])
  rw [ofLine?, ofComment?_marked hmarker, hbefore]
  rfl

end Directive

open Directive

theorem suppressionsOf_of_line (file : String) {line : List Char} (h : '\n' ∉ line) :
    suppressionsOf file (String.ofList line) = (ofLine? line).elim [] (·.suppressions file 1) := by
  rw [suppressionsOf_eq_rows, String.toList_ofList, rows_of_not_mem h]
  exact List.append_nil _

/-! ## Directives behind code -/

/-- Code without the openers of comments and without the marker, on one line. -/
structure IsBareCode (code : List Char) : Prop where
  notBlank : allBlank code = false
  noOpener : ∀ o ∈ openers, ¬o <:+: code
  noMarker : ¬marker <:+: code
  noBreak : '\n' ∉ code

/-- A closed block comment with blanks around it, without the marker and on one line. -/
structure IsBlockComment (s : List Char) : Prop where
  closed : ∃ p inner q, allBlank p = true ∧ allBlank q = true ∧
    s = p ++ "/*".toList ++ inner ++ "*/".toList ++ q
  noMarker : ¬marker <:+: s
  noBreak : '\n' ∉ s

section Trailing

variable {b c : List Char}

theorem not_isInfix_before_marker (h : ¬marker <:+: b ++ c) :
    ¬marker <:+: b ++ c ++ " //".toList := by
  show ¬marker <:+: b ++ c ++ ' ' :: "//".toList
  rw [isInfix_cut (by decide)]
  exact not_or.2 ⟨h, by decide⟩

/-- Code behind blanks is a lead with the blank behind it. -/
theorem ofLine?_trailing_blank (hb : ∀ d ∈ b, isBlank d = true) (hc : IsBareCode c) :
    ofLine? (b ++ c ++ " //".toList ++ ' ' :: marker) = some ⟨[.any], false⟩ := by
  have hlead : IsLead (b ++ c ++ [' ']) := by
    refine isLead_of_code fun o ho => ?_
    rw [isInfix_disjoint_append (ne_nil_of_mem_openers ho)
      (disjoint_of_blank hb (solid_of_mem_openers ho))]
    exact hc.noOpener o ho
  have hmarker : ¬marker <:+: b ++ c := by
    rw [isInfix_disjoint_append (by decide) (disjoint_of_blank hb (by decide))]
    exact hc.noMarker
  have hcode : allBlank (b ++ c ++ [' ']) = false := by
    rw [allBlank, List.all_append, List.all_append, ← allBlank, ← allBlank, hc.notBlank,
      Bool.and_false, Bool.false_and]
  have hfront : ¬marker <:+: b ++ c ++ [' '] ++ ("//".toList ++ []) := by
    simpa using not_isInfix_before_marker hmarker
  have hline := ofLine?_of_lead hlead (by decide) hfront []
  rw [hcode, selectorsFor_ignoredIds_nil] at hline
  simpa using hline

/-- Behind a block comment the lead is what stands before that comment. -/
theorem ofLine?_trailing_block (hb : IsBlockComment b) (hc : IsBareCode c) :
    ofLine? (b ++ c ++ " //".toList ++ ' ' :: marker) = some ⟨[.any], true⟩ := by
  obtain ⟨⟨p, inner, q, hp, hq, rfl⟩, hnone, -⟩ := hb
  have hmarker : ¬marker <:+: p ++ "/*".toList ++ inner ++ "*/".toList ++ q ++ c := by
    have hsplit : p ++ "/*".toList ++ inner ++ "*/".toList ++ q ++ c =
        (p ++ "/*".toList ++ inner ++ ['*']) ++ '/' :: (q ++ c) := by simp
    rw [hsplit, isInfix_cut (by decide),
      isInfix_disjoint_append (by decide) (disjoint_of_blank (allBlank_iff.1 hq) (by decide))]
    refine not_or.2 ⟨fun hinside => hnone (hinside.trans ?_), hc.noMarker⟩
    exact ⟨[], '/' :: q, by simp⟩
  have hfront : ¬marker <:+:
      p ++ ("/*".toList ++ (inner ++ "*/".toList ++ q ++ c ++ " //".toList)) := by
    simpa using not_isInfix_before_marker hmarker
  have hline := ofLine?_of_lead (isLead_of_blank (allBlank_iff.1 hp)) (by decide) hfront []
  rw [hp, selectorsFor_ignoredIds_nil] at hline
  simpa using hline

end Trailing

/-- **Directives that trail code.** Let code without openers and marker stand behind blanks or behind
a closed block comment. With the directive of all rules behind it, it declares one suppression: of its
own line behind blanks, of the next line behind a block comment. -/
theorem suppressionsOf_trailing (file : String) {b c : String}
    (hb : allBlank b.toList = true ∧ '\n' ∉ b.toList ∨ IsBlockComment b.toList)
    (hc : IsBareCode c.toList) :
    suppressionsOf file (b ++ c ++ " // faultline-ignore") =
      [⟨file, .any, .line (if allBlank b.toList then 1 else 2)⟩] := by
  have htext : b ++ c ++ " // faultline-ignore" =
      String.ofList (b.toList ++ c.toList ++ " //".toList ++ ' ' :: marker) := by
    rw [← String.toList_inj, String.toList_ofList, String.toList_append, String.toList_append,
      List.append_assoc (b.toList ++ c.toList)]
    rfl
  have hbreak : '\n' ∉ b.toList := hb.elim (·.2) (·.noBreak)
  have hline : '\n' ∉ b.toList ++ c.toList ++ " //".toList ++ ' ' :: marker := by
    have hrest : '\n' ∉ " //".toList ++ ' ' :: marker := by decide
    simp only [List.mem_append, not_or] at hrest ⊢
    exact ⟨⟨⟨hbreak, hc.noBreak⟩, hrest.1⟩, hrest.2⟩
  rw [htext, suppressionsOf_of_line file hline]
  rcases hb with ⟨hblank, -⟩ | hblock
  · rw [ofLine?_trailing_blank (allBlank_iff.1 hblank) hc, if_pos hblank]
    rfl
  · have hnot : ¬allBlank b.toList = true := by
      obtain ⟨p, inner, q, -, -, hsplit⟩ := hblock.closed
      rw [hsplit, allBlank_iff]
      intro hall
      exact absurd (hall '/' (by simp)) (by decide)
    rw [ofLine?_trailing_block hblock hc, if_neg hnot]
    rfl

/-- The same code behind a blank and behind a block comment. -/
theorem suppressionsOf_trailing_two :
    allBlank " ".toList = true ∧ IsBlockComment " /* one */ ".toList ∧ IsBareCode "x = 1;".toList ∧
      suppressionsOf "A.java" (" " ++ "x = 1;" ++ " // faultline-ignore") =
        [⟨"A.java", .any, .line 1⟩] ∧
      suppressionsOf "A.java" (" /* one */ " ++ "x = 1;" ++ " // faultline-ignore") =
        [⟨"A.java", .any, .line 2⟩] := by
  have hblock : IsBlockComment " /* one */ ".toList :=
    ⟨⟨[' '], " one ".toList, [' '], by decide, by decide, by decide⟩, by decide +kernel, by decide⟩
  have hcode : IsBareCode "x = 1;".toList :=
    ⟨by decide, by decide +kernel, by decide +kernel, by decide⟩
  exact ⟨by decide, hblock, hcode,
    suppressionsOf_trailing "A.java" (.inl ⟨by decide, by decide⟩) hcode,
    suppressionsOf_trailing "A.java" (.inr hblock) hcode⟩

/-- A directive that trails code does not always target its own line: behind a block comment and code
it targets the next one. -/
theorem trailing_directive_misses_its_line :
    IsBlockComment "/* one */ ".toList ∧ IsBareCode "x = 1;".toList ∧
      suppressionsOf "A.java" ("/* one */ " ++ "x = 1;" ++ " // faultline-ignore") ≠
        [⟨"A.java", .any, .line 1⟩] := by
  refine ⟨⟨⟨[], " one ".toList, [' '], rfl, by decide, by decide⟩, by decide +kernel, by decide⟩,
    ⟨by decide, by decide +kernel, by decide +kernel, by decide⟩, by decide +kernel⟩

end TreeLint
