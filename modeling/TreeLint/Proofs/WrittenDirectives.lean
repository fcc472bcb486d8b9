import TreeLint.Proofs.CommentDirectives

/-!
# Directives read back as they are written

A directive can be written as a comment (`commentText`: an opener, the marker, rule ids divided by
commas, perhaps a reason and the end of a block comment) or as an annotation (`annotationText`: rule ids
in quotes).

**Theorem (`suppressionsOf_written`).** What is written is read back: one suppression for each id, in
order, or one of all rules for a comment without ids. Behind blanks the target is the next line, behind
code the line itself.

The reader cuts its text with searches, and the ids must not be cut with it. An id in a comment has no
blank, comma, `--` or `*/` in it, and between two ids stand a comma and a blank, so no needle of the
reader lies in the list or across two of its entries (`not_isInfix_idList`). An id in an annotation has
no quote in it, so the pieces between quotes are the ids and what divides them (`oddElements_quotedList`).
-/

namespace TreeLint

open Text

namespace Directive

/-! ## Lists of ids -/

/-- Ids with a comma and a blank between them. -/
def idList (ids : List (List Char)) : List Char := ", ".toList.intercalate ids

theorem idList_cons_cons (id id' : List Char) (ids : List (List Char)) :
    idList (id :: id' :: ids) = id ++ ',' :: ' ' :: idList (id' :: ids) := by
  rw [idList, List.intercalate_cons_cons, List.append_assoc]
  rfl

theorem not_mem_idList {c : Char} (hcomma : c ≠ ',') (hblank : c ≠ ' ') {ids : List (List Char)}
    (h : ∀ id ∈ ids, c ∉ id) : c ∉ idList ids := by
  induction ids with
  | nil => simp [idList]
  | cons id ids ih =>
    obtain ⟨hid, hids⟩ := List.forall_mem_cons.1 h
    cases ids with
    | nil => simpa [idList] using hid
    | cons id' ids =>
      rw [idList_cons_cons]
      simp only [List.mem_append, List.mem_cons, not_or]
      exact ⟨hid, hcomma, hblank, ih hids⟩

/-- A needle that is in no id and has neither comma nor blank is not in the list. -/
theorem not_isInfix_idList {needle : List Char} (hne : needle ≠ []) (hcomma : ',' ∉ needle)
    (hblank : ' ' ∉ needle) {ids : List (List Char)} (h : ∀ id ∈ ids, ¬needle <:+: id) :
    ¬needle <:+: idList ids := by
  induction ids with
  | nil => exact fun hinside => hne (List.infix_nil.1 hinside)
  | cons id ids ih =>
    obtain ⟨hid, hids⟩ := List.forall_mem_cons.1 h
    cases ids with
    | nil => simpa [idList] using hid
    | cons id' ids =>
      rw [idList_cons_cons, isInfix_cut hcomma, not_or]
      refine ⟨hid, ?_⟩
      rw [← List.nil_append (' ' :: _), isInfix_cut hblank, not_or]
      exact ⟨fun hinside => hne (List.infix_nil.1 hinside), ih hids⟩

/-- An id that can stand in the list of a comment. -/
structure IsListable (id : List Char) : Prop where
  ne_nil : id ≠ []
  noBlank : id.any isBlank = false
  noComma : ',' ∉ id
  noReason : ¬"--".toList <:+: id
  noClosing : ¬"*/".toList <:+: id

theorem words_idList {ids : List (List Char)} (h : ∀ id ∈ ids, IsListable id) :
    words isSeparator (idList ids) = ids := by
  induction ids with
  | nil => rfl
  | cons id ids ih =>
    obtain ⟨hid, hids⟩ := List.forall_mem_cons.1 h
    have hword : words isSeparator id = [id] := by
      refine words_of_forall_not hid.ne_nil fun c hc => ?_
      have hblank : ¬isBlank c = true := List.any_eq_false.1 hid.noBlank c hc
      have hcomma : c ≠ ',' := by
        rintro rfl
        exact hid.noComma hc
      simp [isSeparator, hblank, hcomma]
    cases ids with
    | nil => simpa [idList] using hword
    | cons id' ids =>
      rw [idList_cons_cons, words_cut (by decide), words_cons (by decide), hword, ih hids]
      rfl

/-! ## Comments -/

/-- What follows the list in a comment: nothing, or a blank and what is cut off. -/
inductive IsTail : List Char → Prop
  | nil : IsTail []
  | cut {t : List Char} : upTo "--".toList (upTo "*/".toList t) = [] → IsTail (' ' :: t)

/-- The end of a comment. -/
def tailText (reason : Option (List Char)) (closed : Bool) : List Char :=
  (reason.elim [] (" -- ".toList ++ ·)) ++ if closed then " */".toList else []

theorem isTail_tailText (reason : Option (List Char)) (closed : Bool) :
    IsTail (tailText reason closed) := by
  cases reason with
  | none =>
    cases closed with
    | false => exact .nil
    | true => exact .cut (t := "*/".toList) (by decide)
  | some r =>
    have hcut : ∀ rest, upTo "--".toList (upTo "*/".toList ("--".toList ++ rest)) = [] := by
      intro rest
      have hdisjoint : List.Disjoint "--".toList "*/".toList := by
        show List.Disjoint ['-', '-'] ['*', '/']
        simp
      rw [upTo_disjoint_append (by decide) hdisjoint, upTo_self (by decide)]
    have htail : tailText (some r) closed =
        ' ' :: ("--".toList ++ (' ' :: (r ++ if closed then " */".toList else []))) := rfl
    rw [htail]
    exact .cut (hcut _)

theorem ignoredIds_idList {ids : List (List Char)} (h : ∀ id ∈ ids, IsListable id)
    {tail : List Char} (htail : IsTail tail) :
    ignoredIds (' ' :: (idList ids ++ tail)) = ids.map String.ofList := by
  have hreason : ¬"--".toList <:+: idList ids :=
    not_isInfix_idList (by decide) (by decide) (by decide) fun id hid => (h id hid).noReason
  have hclosing : ¬"*/".toList <:+: idList ids :=
    not_isInfix_idList (by decide) (by decide) (by decide) fun id hid => (h id hid).noClosing
  have hframed : Framed (idList ids ++ tail) (' ' :: (idList ids ++ tail)) :=
    ⟨[' '], [], List.forall_mem_singleton.2 (by decide), by simp, by simp⟩
  rw [ignoredIds_eq, words_upTo_of_framed hframed]
  cases htail with
  | nil =>
    rw [List.append_nil, upTo_of_not_isInfix hclosing, upTo_of_not_isInfix hreason, words_idList h]
  | cut hcut =>
    rw [upTo_cut_of_none (by decide) hclosing, upTo_cut_of_none (by decide) hreason, hcut,
      words_cut (by decide), words_idList h]
    exact congrArg _ (List.append_nil ids)

/-- The text of a comment with the marker. -/
def commentText (opener : String) (ids : List String) (reason : Option String) (closed : Bool) :
    String :=
  opener ++ " faultline-ignore " ++ ", ".intercalate ids ++ reason.elim "" (" -- " ++ ·) ++
    if closed then " */" else ""

theorem toList_commentText (opener : String) (ids : List String) (reason : Option String)
    (closed : Bool) :
    (commentText opener ids reason closed).toList =
      opener.toList ++ ' ' :: (marker ++ ' ' :: (idList (ids.map String.toList) ++
        tailText (reason.map String.toList) closed)) := by
  have hmarker : " faultline-ignore ".toList = ' ' :: (marker ++ [' ']) := rfl
  have hreason : (reason.elim "" (" -- " ++ ·)).toList =
      (reason.map String.toList).elim [] (" -- ".toList ++ ·) := by
    cases reason with
    | none => rfl
    | some r => exact String.toList_append
  have hclosing : (if closed then " */" else "").toList = if closed then " */".toList else [] := by
    cases closed <;> rfl
  simp only [commentText, String.toList_append, String.toList_intercalate, hmarker, hreason,
    hclosing, idList, tailText, List.append_assoc, List.cons_append, List.nil_append]

/-! ## Annotations -/

/-- The ids in quotes, with a comma and a blank between them. -/
def quotedList (ids : List (List Char)) : List Char := idList (ids.map fun id => '"' :: id ++ ['"'])

theorem quotedList_cons (id : List Char) (ids : List (List Char)) :
    quotedList (id :: ids) =
      '"' :: (id ++ '"' :: if ids = [] then [] else ", ".toList ++ quotedList ids) := by
  cases ids with
  | nil => simp [quotedList, idList]
  | cons id' ids =>
    rw [quotedList, List.map_cons, List.map_cons, idList_cons_cons, if_neg (List.cons_ne_nil _ _)]
    simp [quotedList]

/-- An id that can stand in the list of an annotation. -/
structure IsQuotable (id : List Char) : Prop where
  ne_nil : id ≠ []
  noQuote : '"' ∉ id
  noBracket : ')' ∉ id
  noMarker : ¬marker <:+: id
  noBreak : '\n' ∉ id

theorem quotedList_append (before id after : List Char) (ids : List (List Char)) :
    before ++ (quotedList (id :: ids) ++ after) =
      before ++ '"' ::
        (id ++ '"' :: ((if ids = [] then [] else ", ".toList ++ quotedList ids) ++ after)) := by
  rw [quotedList_cons, List.cons_append, List.append_assoc, List.cons_append]

/-- Between quotes stand the ids, and what divides them. -/
theorem oddElements_quotedList {ids : List (List Char)} (h : ∀ id ∈ ids, '"' ∉ id)
    {before after : List Char} (hbefore : '"' ∉ before) (hafter : '"' ∉ after) :
    oddElements (pieces (· == '"') (before ++ (quotedList ids ++ after))) = ids := by
  induction ids generalizing before with
  | nil =>
    have hplain : '"' ∉ before ++ after := by simp [hbefore, hafter]
    rw [quotedList, List.map_nil, idList, List.intercalate_nil, List.nil_append,
      pieces_of_not_mem hplain]
    rfl
  | cons id ids ih =>
    obtain ⟨hid, hids⟩ := List.forall_mem_cons.1 h
    rw [quotedList_append, pieces_cut rfl, pieces_cut rfl, pieces_of_not_mem hbefore,
      pieces_of_not_mem hid]
    show id :: oddElements (pieces (· == '"') _) = id :: ids
    congr 1
    by_cases hlast : ids = []
    · rw [if_pos hlast, List.nil_append, pieces_of_not_mem hafter, hlast]
      rfl
    · rw [if_neg hlast, List.append_assoc, ih hids (by decide)]

theorem not_isInfix_quotedList {ids : List (List Char)} (h : ∀ id ∈ ids, ¬marker <:+: id)
    {before after : List Char} (hbefore : ¬marker <:+: before) (hafter : ¬marker <:+: after)
    (hne : ids ≠ []) : ¬marker <:+: before ++ (quotedList ids ++ after) := by
  induction ids generalizing before with
  | nil => exact absurd rfl hne
  | cons id ids ih =>
    obtain ⟨hid, hids⟩ := List.forall_mem_cons.1 h
    rw [quotedList_append, isInfix_cut (by decide), isInfix_cut (by decide), not_or, not_or]
    refine ⟨hbefore, hid, ?_⟩
    by_cases hlast : ids = []
    · rwa [if_pos hlast, List.nil_append]
    · rw [if_neg hlast, List.append_assoc]
      exact ih hids (by decide +kernel) hlast

theorem not_mem_quotedList {c : Char} (hcomma : c ≠ ',') (hblank : c ≠ ' ') (hquote : c ≠ '"')
    {ids : List (List Char)} (h : ∀ id ∈ ids, c ∉ id) : c ∉ quotedList ids := by
  refine not_mem_idList hcomma hblank fun quoted hquoted => ?_
  obtain ⟨id, hid, rfl⟩ := List.mem_map.1 hquoted
  rw [List.mem_append, List.mem_cons, List.mem_singleton, not_or, not_or]
  exact ⟨⟨hquote, h id hid⟩, hquote⟩

/-- The text of an annotation, behind its name. -/
def annotationArguments (ids : List (List Char)) : List Char :=
  ['\x7b'] ++ (quotedList ids ++ ['\x7d'])

theorem ofLine?_annotation {indent : List Char} (hindent : ∀ c ∈ indent, isBlank c = true)
    {ids : List (List Char)} (hne : ids ≠ []) (h : ∀ id ∈ ids, IsQuotable id) :
    ofLine? (indent ++ ("@SuppressWarnings(".toList ++ (annotationArguments ids ++ [')']))) =
      some ⟨ids.map fun id => .rule (String.ofList id), true⟩ := by
  have hnone : ofComment?
      (indent ++ ("@SuppressWarnings(".toList ++ (annotationArguments ids ++ [')']))) = none := by
    have hmarker : ¬marker <:+:
        "@SuppressWarnings(\x7b".toList ++ (quotedList ids ++ "\x7d)".toList) :=
      not_isInfix_quotedList (fun id hid => (h id hid).noMarker) (by decide +kernel)
        (by decide +kernel) hne
    have hline : breakOn marker
        (indent ++ ("@SuppressWarnings(".toList ++ (annotationArguments ids ++ [')']))) = none := by
      rw [breakOn_eq_none_iff,
        isInfix_disjoint_append (by decide) (disjoint_of_blank hindent (by decide))]
      simpa [annotationArguments] using hmarker
    rw [ofComment?, hline]
  have htrim : trimStart
      (indent ++ ("@SuppressWarnings(".toList ++ (annotationArguments ids ++ [')']))) =
        "@SuppressWarnings(".toList ++ (annotationArguments ids ++ [')']) := by
    rw [trimStart_append, if_pos (allBlank_iff.2 hindent)]
    rfl
  have hbracket : breakOn [')'] (annotationArguments ids ++ [')']) =
      some (annotationArguments ids, []) := by
    have hdisjoint : List.Disjoint (annotationArguments ids) [')'] := by
      have hlist : ')' ∉ quotedList ids :=
        not_mem_quotedList (by decide) (by decide) (by decide) fun id hid => (h id hid).noBracket
      rw [List.disjoint_singleton]
      simpa [annotationArguments] using hlist
    have hself : breakOn [')'] [')'] = some ([], []) := rfl
    rw [breakOn_disjoint_append (by decide) hdisjoint, hself]
    simp
  have hids : oddElements (pieces (· == '"') (annotationArguments ids)) = ids :=
    oddElements_quotedList (fun id hid => (h id hid).noQuote) (by decide) (by decide)
  have hall : ids.filter (· != []) = ids := by
    refine List.filter_eq_self.2 fun id hid => ?_
    simpa using (h id hid).ne_nil
  rw [ofLine?, hnone, ofAnnotation?, htrim, after?_self]
  simp only [hbracket, hids, hall, Option.none_or]
  rw [if_neg (by simpa using hne)]
  rfl

/-- The text of an annotation with a list of ids. -/
def annotationText (ids : List String) : String :=
  "@SuppressWarnings(\x7b" ++ ", ".intercalate (ids.map fun id => "\"" ++ id ++ "\"") ++ "\x7d)"

theorem toList_annotationText (ids : List String) :
    (annotationText ids).toList =
      "@SuppressWarnings(".toList ++ (annotationArguments (ids.map String.toList) ++ [')']) := by
  have hquoted : (ids.map fun id => "\"" ++ id ++ "\"").map String.toList =
      (ids.map String.toList).map fun id => '"' :: id ++ ['"'] := by
    rw [List.map_map, List.map_map]
    refine List.map_congr_left fun id _ => ?_
    simp [String.toList_append]
  have hopen : "@SuppressWarnings(\x7b".toList = "@SuppressWarnings(".toList ++ ['\x7b'] := by
    decide +kernel
  unfold annotationText
  rw [String.toList_append, String.toList_append, String.toList_intercalate, hquoted, hopen,
    annotationArguments, quotedList, idList, List.append_assoc, List.append_assoc,
    List.append_assoc ['\x7b'], List.append_assoc]
  rfl

end Directive

open Directive

/-! ## Written directives -/

/-- The suppressions of a line for the rules of a list, or for all rules without one. -/
def declared (file : String) (line : UInt32) (ids : List String) : List Suppression :=
  if ids = [] then [⟨file, .any, .line line⟩] else ids.map fun id => ⟨file, .rule id, .line line⟩

theorem suppressions_selectorsFor (file : String) (ids : List String) (standalone : Bool) :
    (⟨selectorsFor ids, standalone⟩ : Directive).suppressions file 1 =
      declared file (if standalone then 2 else 1) ids := by
  have hline : UInt32.ofNat (if standalone then 1 + 1 else 1) = if standalone then 2 else 1 := by
    cases standalone <;> rfl
  cases ids with
  | nil => simp [Directive.suppressions, selectorsFor, declared, hline]
  | cons id ids => simp [Directive.suppressions, selectorsFor, declared, hline]

theorem newline_not_mem_comment {o : List Char} (ho : o ∈ openers) {ids : List (List Char)}
    (hids : ∀ id ∈ ids, IsListable id) {reason : Option (List Char)}
    (hreason : ∀ r ∈ reason, '\n' ∉ r) (closed : Bool) :
    '\n' ∉ o ++ ' ' :: (marker ++ ' ' :: (idList ids ++ tailText reason closed)) := by
  have hopeners : ∀ o ∈ openers, '\n' ∉ o := by decide
  have hmarker : '\n' ∉ marker := by decide
  have hlist : '\n' ∉ idList ids := by
    refine not_mem_idList (by decide) (by decide) fun id hid hmem => ?_
    exact List.any_eq_false.1 (hids id hid).noBlank '\n' hmem (by decide)
  have htail : '\n' ∉ tailText reason closed := by
    have hclosing : '\n' ∉ if closed then " */".toList else [] := by cases closed <;> decide
    cases reason with
    | none => exact hclosing
    | some r =>
      have hr : '\n' ∉ r := hreason r rfl
      have hopening : '\n' ∉ " -- ".toList := by decide
      simp only [tailText, Option.elim_some, List.mem_append, not_or]
      exact ⟨⟨hopening, hr⟩, hclosing⟩
  have hblank : '\n' ≠ ' ' := by decide
  simp only [List.mem_append, List.mem_cons, not_or]
  exact ⟨hopeners o ho, hblank, hmarker, hblank, hlist, htail⟩

theorem suppressionsOf_comment (file : String) {lead : List Char} (hlead : IsLead lead)
    (hmarker : ¬marker <:+: lead) (hbreak : '\n' ∉ lead) {opener : String}
    (hopener : opener ∈ ["//", "#", "--", "/*"]) {ids : List String}
    (hids : ∀ id ∈ ids, IsListable id.toList) {reason : Option String}
    (hreason : ∀ r ∈ reason, '\n' ∉ r.toList) (closed : Bool) :
    suppressionsOf file (String.ofList lead ++ commentText opener ids reason closed) =
      declared file (if allBlank lead then 2 else 1) ids := by
  have ho : opener.toList ∈ openers := List.mem_map_of_mem hopener (f := String.toList)
  have hall : ∀ s ∈ ids.map String.toList, IsListable s := by simpa using hids
  have hfront : ¬marker <:+: lead ++ (opener.toList ++ []) := by
    have hnone : ∀ o ∈ openers, ¬marker <:+: o := by decide +kernel
    rw [List.append_nil, hlead.isInfix_append (by decide) (by decide), not_or]
    exact ⟨hmarker, hnone _ ho⟩
  have htext : String.ofList lead ++ commentText opener ids reason closed =
      String.ofList (lead ++ (opener.toList ++ []) ++ ' ' :: (marker ++ ' ' ::
        (idList (ids.map String.toList) ++ tailText (reason.map String.toList) closed))) := by
    rw [List.append_nil, List.append_assoc, String.ofList_append, ← toList_commentText,
      String.ofList_toList]
  have hline : '\n' ∉ lead ++ (opener.toList ++ []) ++ ' ' :: (marker ++ ' ' ::
      (idList (ids.map String.toList) ++ tailText (reason.map String.toList) closed)) := by
    rw [List.append_nil, List.append_assoc, List.mem_append, not_or]
    exact ⟨hbreak, newline_not_mem_comment ho hall (by simpa using hreason) closed⟩
  have hnames : (ids.map String.toList).map String.ofList = ids := by
    rw [List.map_map]
    exact List.map_id'' (fun _ => String.ofList_toList) ids
  rw [htext, suppressionsOf_of_line file hline, ofLine?_of_lead hlead ho hfront,
    ignoredIds_idList hall (isTail_tailText _ closed), hnames]
  exact suppressions_selectorsFor file ids (allBlank lead)

theorem suppressionsOf_annotation (file : String) {indent : List Char}
    (hindent : ∀ c ∈ indent, isBlank c = true) (hbreak : '\n' ∉ indent) {ids : List String}
    (hne : ids ≠ []) (hids : ∀ id ∈ ids, IsQuotable id.toList) :
    suppressionsOf file (String.ofList indent ++ annotationText ids) = declared file 2 ids := by
  have hall : ∀ s ∈ ids.map String.toList, IsQuotable s := by simpa using hids
  have hsome : ids.map String.toList ≠ [] := by simpa using hne
  have htext : String.ofList indent ++ annotationText ids =
      String.ofList (indent ++ ("@SuppressWarnings(".toList ++
        (annotationArguments (ids.map String.toList) ++ [')']))) := by
    rw [String.ofList_append, ← toList_annotationText, String.ofList_toList]
  have hlist : '\n' ∉ quotedList (ids.map String.toList) :=
    not_mem_quotedList (by decide) (by decide) (by decide) fun s hs => (hall s hs).noBreak
  have hline : '\n' ∉ indent ++ ("@SuppressWarnings(".toList ++
      (annotationArguments (ids.map String.toList) ++ [')'])) := by
    have hname : '\n' ∉ "@SuppressWarnings(".toList := by decide
    simp only [annotationArguments, List.mem_append, List.mem_cons, not_or]
    exact ⟨hbreak, hname, ⟨by decide, hlist, by decide⟩, by decide⟩
  have hnames : (ids.map String.toList).map (fun s => RuleSelector.rule (String.ofList s)) =
      ids.map .rule := by
    rw [List.map_map]
    exact List.map_congr_left fun id _ => congrArg _ String.ofList_toList
  rw [htext, suppressionsOf_of_line file hline, ofLine?_annotation hindent hsome hall, hnames,
    declared, if_neg hne, Option.elim_some, Directive.suppressions, List.map_map]
  rfl

/-- **Directives are read back.** Take a comment that is written with ids without blanks, commas, `--`
and `*/`. Behind blanks it declares one suppression of the next line for each id, in order, or one for
all rules if there is no id; behind code with a blank it declares the same of its own line. An
annotation behind blanks that is written with ids without quotes and brackets declares one suppression
of the next line for each id. -/
theorem suppressionsOf_written (file : String) :
    (∀ opener ∈ ["//", "#", "--", "/*"], ∀ (ids : List String) (reason : Option String)
      (closed : Bool), (∀ id ∈ ids, IsListable id.toList) → (∀ r ∈ reason, '\n' ∉ r.toList) →
        (∀ indent : String, allBlank indent.toList = true → '\n' ∉ indent.toList →
          suppressionsOf file (indent ++ commentText opener ids reason closed) =
            declared file 2 ids) ∧
        ∀ code : String, IsBareCode code.toList →
          suppressionsOf file (code ++ " " ++ commentText opener ids reason closed) =
            declared file 1 ids) ∧
    ∀ (indent : String) (ids : List String), allBlank indent.toList = true →
      '\n' ∉ indent.toList → ids ≠ [] → (∀ id ∈ ids, IsQuotable id.toList) →
        suppressionsOf file (indent ++ annotationText ids) =
          ids.map fun id => ⟨file, .rule id, .line 2⟩ := by
  refine ⟨fun opener hopener ids reason closed hids hreason => ⟨?_, ?_⟩, ?_⟩
  · intro indent hblank hbreak
    have hcomment := suppressionsOf_comment file (isLead_of_blank (allBlank_iff.1 hblank))
      (not_isInfix_of_disjoint (by decide) (disjoint_of_blank (allBlank_iff.1 hblank) (by decide)))
      hbreak hopener hids hreason closed
    rwa [String.ofList_toList, if_pos hblank] at hcomment
  · intro code hcode
    have hmarker : ¬marker <:+: code.toList ++ [' '] := by
      rw [isInfix_cut (by decide), not_or]
      exact ⟨hcode.noMarker, by decide⟩
    have hbreak : '\n' ∉ code.toList ++ [' '] := by
      rw [List.mem_append, not_or]
      exact ⟨hcode.noBreak, by decide⟩
    have hsolid : allBlank (code.toList ++ [' ']) = false := by
      rw [allBlank, List.all_append, ← allBlank, hcode.notBlank, Bool.false_and]
    have htext : String.ofList (code.toList ++ [' ']) = code ++ " " := by
      rw [← String.toList_inj, String.toList_ofList, String.toList_append]
      rfl
    have hcomment := suppressionsOf_comment file (isLead_of_code hcode.noOpener) hmarker hbreak
      hopener hids hreason closed
    rwa [htext, hsolid, if_neg Bool.false_ne_true] at hcomment
  · intro indent ids hblank hbreak hne hids
    have hannotation := suppressionsOf_annotation file (allBlank_iff.1 hblank) hbreak hne hids
    rwa [String.ofList_toList, declared, if_neg hne] at hannotation

/-- Two ids in a comment behind blanks and behind code, and in an annotation. -/
theorem suppressionsOf_written_two :
    (∀ id ∈ ["sql-injection", "secrets"], IsListable id.toList ∧ IsQuotable id.toList) ∧
      IsBareCode "x = 1;".toList ∧ '\n' ∉ "a */ -- b".toList ∧
      suppressionsOf "A.java"
          ("  " ++ commentText "#" ["sql-injection", "secrets"] (some "a */ -- b") false) =
        [⟨"A.java", .rule "sql-injection", .line 2⟩, ⟨"A.java", .rule "secrets", .line 2⟩] ∧
      suppressionsOf "A.java"
          ("x = 1;" ++ " " ++ commentText "/*" ["sql-injection", "secrets"] none true) =
        [⟨"A.java", .rule "sql-injection", .line 1⟩, ⟨"A.java", .rule "secrets", .line 1⟩] ∧
      suppressionsOf "A.java" ("  " ++ annotationText ["sql-injection", "secrets"]) =
        [⟨"A.java", .rule "sql-injection", .line 2⟩, ⟨"A.java", .rule "secrets", .line 2⟩] := by
  have hlistable : ∀ id ∈ ["sql-injection", "secrets"], IsListable id.toList := by
    rw [List.forall_mem_cons, List.forall_mem_singleton]
    exact ⟨⟨by decide, by decide, by decide, by decide +kernel, by decide +kernel⟩,
      ⟨by decide, by decide, by decide, by decide +kernel, by decide +kernel⟩⟩
  have hquotable : ∀ id ∈ ["sql-injection", "secrets"], IsQuotable id.toList := by
    rw [List.forall_mem_cons, List.forall_mem_singleton]
    exact ⟨⟨by decide, by decide, by decide, by decide +kernel, by decide⟩,
      ⟨by decide, by decide, by decide, by decide +kernel, by decide⟩⟩
  have hcode : IsBareCode "x = 1;".toList :=
    ⟨by decide, by decide +kernel, by decide +kernel, by decide⟩
  obtain ⟨hcomments, hannotations⟩ := suppressionsOf_written "A.java"
  refine ⟨fun id hid => ⟨hlistable id hid, hquotable id hid⟩, hcode, by decide, ?_, ?_, ?_⟩
  · exact (hcomments "#" (by decide) _ (some "a */ -- b") false hlistable (by decide)).1 "  "
      (by decide) (by decide)
  · exact (hcomments "/*" (by decide) _ none true hlistable (by simp)).2 "x = 1;" hcode
  · exact hannotations "  " ["sql-injection", "secrets"] (by decide) (by decide) (by decide)
      hquotable

end TreeLint
