import TreeLint.Finding.Suppression
import TreeLint.Proofs.TextLines

/-!
# Directives line by line

What a line declares does not depend on the lines around it, and blanks at its end do not matter
(`ofLine?_append_blank`): they go with what is trimmed after the marker, or stand behind the closing
bracket of an annotation. Carriage returns are blanks, so it makes no difference which line break a
line has, and the lines of a text may be taken to be its rows (`suppressionsOf_eq_rows`).

**Theorem (`suppressionsOf_newline`).** The suppressions of two texts with a newline between them are
those of the first and then those of the second, moved down by the rows of the first. So a line
declares by itself what it declares, and texts that differ only in carriage returns at the ends of
lines declare the same.
-/

namespace TreeLint

/-! ## Blanks at the end of a line -/

namespace Directive

open Text

variable {blanks : List Char}

/-- What divides the rule ids of a comment. -/
def isSeparator (c : Char) : Bool := c == ',' || isBlank c

theorem isSeparator_of_isBlank {c : Char} (h : isBlank c = true) : isSeparator c = true := by
  rw [isSeparator, h, Bool.or_true]

theorem words_upTo_of_framed {s t : List Char} (h : Framed t s) :
    words isSeparator (upTo "--".toList (upTo "*/".toList s)) =
      words isSeparator (upTo "--".toList (upTo "*/".toList t)) := by
  have hclosing : Framed (upTo "*/".toList t) (upTo "*/".toList s) :=
    h.upTo (by decide) (by decide)
  have hreason : Framed (upTo "--".toList (upTo "*/".toList t))
      (upTo "--".toList (upTo "*/".toList s)) := hclosing.upTo (by decide) (by decide)
  exact hreason.words fun c => isSeparator_of_isBlank

/-- Trimming makes no difference to the ids. -/
theorem ignoredIds_eq (after : List Char) :
    ignoredIds after =
      (words isSeparator (upTo "--".toList (upTo "*/".toList after))).map String.ofList := by
  rw [words_upTo_of_framed (framed_trim after)]
  rfl

theorem ignoredIds_append_blank (h : ∀ c ∈ blanks, isBlank c = true) (after : List Char) :
    ignoredIds (after ++ blanks) = ignoredIds after := by
  have hframed : Framed after (after ++ blanks) := ⟨[], blanks, by simp, h, rfl⟩
  rw [ignoredIds_eq, ignoredIds_eq, words_upTo_of_framed hframed]

theorem ofComment?_append_blank (h : ∀ c ∈ blanks, isBlank c = true) (line : List Char) :
    ofComment? (line ++ blanks) = ofComment? line := by
  have hbreak := breakOn_append_disjoint (show marker ≠ [] by decide)
    (disjoint_of_blank h (by decide)) line
  cases hline : breakOn marker line with
  | none => simp only [ofComment?, hbreak, hline, Option.map_none]
  | some found =>
    simp only [ofComment?, hbreak, hline, Option.map_some, ignoredIds_append_blank h]

theorem ofAnnotation?_append_blank (h : ∀ c ∈ blanks, isBlank c = true) (line : List Char) :
    ofAnnotation? (line ++ blanks) = ofAnnotation? line := by
  by_cases hline : allBlank line
  · -- There is nothing but blanks, with those at the end and without them.
    have hnone : ∀ s, allBlank s = true → ofAnnotation? s = none := by
      intro s hs
      rw [ofAnnotation?, trimStart, List.dropWhile_eq_nil_iff.2 (allBlank_iff.1 hs)]
      rfl
    rw [hnone line hline, hnone _ (by rwa [allBlank_append h])]
  · rw [ofAnnotation?, ofAnnotation?, trimStart_append, if_neg hline,
      after?_append_disjoint (disjoint_of_blank h (by decide))]
    cases after? "@SuppressWarnings(".toList (trimStart line) with
    | none => rfl
    | some rest =>
      have hbreak := breakOn_append_disjoint (List.cons_ne_nil ')' [])
        (disjoint_of_blank h (by decide)) rest
      cases hrest : breakOn [')'] rest with
      | none => simp only [Option.map_some, hbreak, hrest, Option.map_none]
      | some found => simp only [Option.map_some, hbreak, hrest, allBlank_append h]

theorem ofLine?_append_blank (h : ∀ c ∈ blanks, isBlank c = true) (line : List Char) :
    ofLine? (line ++ blanks) = ofLine? line := by
  rw [ofLine?, ofLine?, ofComment?_append_blank h, ofAnnotation?_append_blank h]

theorem ofLine?_append_returns (h : ∀ c ∈ blanks, c = '\r') (line : List Char) :
    ofLine? (line ++ blanks) = ofLine? line := by
  refine ofLine?_append_blank (fun c hc => ?_) line
  rw [h c hc]
  decide

theorem ofLine?_dropReturn (row : List Char) : ofLine? (dropReturn row) = ofLine? row := by
  obtain ⟨returns, hreturns, hrow⟩ := exists_returns_of_dropReturn row
  calc ofLine? (dropReturn row)
      = ofLine? (dropReturn row ++ returns) := (ofLine?_append_returns hreturns _).symm
    _ = ofLine? row := by rw [← hrow]

theorem ofLine?_chop (row : List Char) : ofLine? (chop row) = ofLine? row := by
  obtain ⟨returns, hreturns, hrow⟩ := exists_returns_of_chop row
  calc ofLine? (chop row)
      = ofLine? (chop row ++ returns) := (ofLine?_append_returns hreturns _).symm
    _ = ofLine? row := by rw [← hrow]

end Directive

/-! ## The lines of a list -/

/-- The suppression for a text that stands `k` lines further down. -/
def Suppression.moveDown (k : Nat) (s : Suppression) : Suppression :=
  match s.scope with
  | .line n => { s with scope := .line (n + UInt32.ofNat k) }
  | .span _ => s

theorem Directive.suppressions_add (file : String) (n k : Nat) (d : Directive) :
    d.suppressions file (n + k) = (d.suppressions file n).map (·.moveDown k) := by
  have htarget : UInt32.ofNat (if d.standalone then n + k + 1 else n + k) =
      UInt32.ofNat (if d.standalone then n + 1 else n) + UInt32.ofNat k := by
    rw [← UInt32.ofNat_add]
    split
    · rw [Nat.add_right_comm]
    · rfl
  rw [Directive.suppressions, Directive.suppressions, htarget, List.map_map]
  rfl

section Lists

variable (file : String)

theorem suppressionsFrom_add (n k : Nat) (ls : List (List Char)) :
    suppressionsFrom file (n + k) ls = (suppressionsFrom file n ls).map (·.moveDown k) := by
  induction ls generalizing n with
  | nil => rfl
  | cons line ls ih =>
    rw [suppressionsFrom, suppressionsFrom, List.map_append, Nat.add_right_comm, ih]
    cases Directive.ofLine? line with
    | none => rfl
    | some d => rw [Option.elim_some, Option.elim_some, Directive.suppressions_add]

theorem suppressionsFrom_append (n : Nat) (ls ms : List (List Char)) :
    suppressionsFrom file n (ls ++ ms) =
      suppressionsFrom file n ls ++ suppressionsFrom file (n + ls.length) ms := by
  induction ls generalizing n with
  | nil => rfl
  | cons line ls ih =>
    rw [List.cons_append, suppressionsFrom, suppressionsFrom, ih, List.append_assoc,
      List.length_cons, Nat.add_assoc, Nat.add_comm 1]

/-- Only the directives of the lines matter. -/
theorem suppressionsFrom_congr (n : Nat) {ls ms : List (List Char)}
    (h : ls.map Directive.ofLine? = ms.map Directive.ofLine?) :
    suppressionsFrom file n ls = suppressionsFrom file n ms := by
  induction ls generalizing n ms with
  | nil =>
    obtain rfl : ms = [] := List.map_eq_nil_iff.1 h.symm
    rfl
  | cons line ls ih =>
    cases ms with
    | nil => cases h
    | cons line' ms =>
      obtain ⟨hline, hls⟩ := List.cons.inj h
      rw [suppressionsFrom, suppressionsFrom, hline, ih (n + 1) hls]

theorem exists_target_of_mem {n : Nat} {ls : List (List Char)} {x : Suppression}
    (h : x ∈ suppressionsFrom file n ls) :
    ∃ j ≤ n + ls.length, x.scope = .line (UInt32.ofNat j) := by
  induction ls generalizing n with
  | nil => cases h
  | cons line ls ih =>
    rw [suppressionsFrom, List.mem_append] at h
    rcases h with h | h
    · cases hline : Directive.ofLine? line with
      | none =>
        rw [hline] at h
        cases h
      | some d =>
        rw [hline, Option.elim_some, Directive.suppressions] at h
        obtain ⟨rule, -, rfl⟩ := List.mem_map.1 h
        refine ⟨_, ?_, rfl⟩
        rw [List.length_cons]
        split <;> omega
    · obtain ⟨j, hj, hscope⟩ := ih h
      exact ⟨j, by rw [List.length_cons]; omega, hscope⟩

end Lists

/-! ## Texts -/

open Text

theorem suppressionsOf_eq_rows (file text : String) :
    suppressionsOf file text = suppressionsFrom file 1 (rows text.toList) := by
  obtain ⟨ended, last, hrows⟩ := exists_rows_eq_concat text.toList
  have hended : (ended.map dropReturn).map Directive.ofLine? = ended.map Directive.ofLine? := by
    rw [List.map_map]
    exact List.map_congr_left fun row _ => Directive.ofLine?_dropReturn row
  rw [suppressionsOf, lines_eq hrows, hrows, suppressionsFrom_append, suppressionsFrom_append,
    suppressionsFrom_congr file 1 hended, List.length_map]
  congr 1
  -- The last row is a line unless it is empty, and then it declares nothing.
  cases last with
  | nil => rfl
  | cons c row => rfl

theorem toList_newline (s t : String) : (s ++ "\n" ++ t).toList = s.toList ++ '\n' :: t.toList := by
  rw [String.toList_append, String.toList_append, List.append_assoc]
  rfl

theorem suppressionsOf_append_newline (file s t : String) :
    suppressionsOf file (s ++ "\n" ++ t) =
      suppressionsOf file s ++
        (suppressionsOf file t).map (·.moveDown (s.toList.count '\n' + 1)) := by
  rw [suppressionsOf_eq_rows, suppressionsOf_eq_rows, suppressionsOf_eq_rows, toList_newline,
    rows_newline, suppressionsFrom_append, length_rows, suppressionsFrom_add]

/-- Moved down, a target stays a line unless it is the one after line `UInt32.size - 1`. -/
theorem toNat_moved_target {s t : String}
    (hlines : (lines (s ++ "\n" ++ t).toList).length < UInt32.size) {file : String}
    {x : Suppression} (hx : x ∈ suppressionsOf file t) :
    ∃ n : UInt32, x.scope = .line n ∧
      ((n + UInt32.ofNat (s.toList.count '\n' + 1)).toNat = n.toNat + (s.toList.count '\n' + 1) ∨
        n.toNat + (s.toList.count '\n' + 1) = UInt32.size) := by
  obtain ⟨j, hj, hscope⟩ := exists_target_of_mem file hx
  rw [toList_newline, lines_newline, List.length_append, List.length_map, length_rows] at hlines
  have hn : (UInt32.ofNat j).toNat = j := UInt32.toNat_ofNat_of_lt' (by omega)
  have hk : (UInt32.ofNat (s.toList.count '\n' + 1)).toNat = s.toList.count '\n' + 1 :=
    UInt32.toNat_ofNat_of_lt' (by omega)
  refine ⟨_, hscope, ?_⟩
  rw [UInt32.toNat_add, hn, hk]
  by_cases hfits : j + (s.toList.count '\n' + 1) < UInt32.size
  · exact .inl (Nat.mod_eq_of_lt hfits)
  · exact .inr (by omega)

/-- A line declares by itself what it declares, whatever is above and below. -/
theorem suppressionsOf_line (file : String) {before after : List String}
    (h : ∀ line ∈ before ++ after, '\n' ∉ line.toList) :
    ∃ above below, ∀ line : String, '\n' ∉ line.toList →
      suppressionsOf file ("\n".intercalate (before ++ line :: after)) =
        above ++ (suppressionsOf file line).map (·.moveDown before.length) ++ below := by
  refine ⟨suppressionsFrom file 1 (before.map String.toList),
    suppressionsFrom file (1 + before.length + 1) (after.map String.toList), fun line hline => ?_⟩
  have hrows : rows ("\n".intercalate (before ++ line :: after)).toList =
      before.map String.toList ++ ([line.toList] ++ after.map String.toList) := by
    rw [String.toList_intercalate, List.map_append, List.map_cons]
    refine rows_intercalate (by simp) fun row hrow => ?_
    rcases List.mem_append.1 hrow with hrow | hrow
    · obtain ⟨other, hother, rfl⟩ := List.mem_map.1 hrow
      exact h other (List.mem_append_left _ hother)
    · rcases List.mem_cons.1 hrow with rfl | hrow
      · exact hline
      · obtain ⟨other, hother, rfl⟩ := List.mem_map.1 hrow
        exact h other (List.mem_append_right _ hother)
  rw [suppressionsOf_eq_rows, suppressionsOf_eq_rows, hrows, rows_of_not_mem hline,
    suppressionsFrom_append, suppressionsFrom_append, suppressionsFrom_add, List.length_map,
    List.append_assoc]
  rfl

/-- Carriage returns at the ends of rows make no difference. -/
theorem suppressionsOf_congr_chop (file : String) {s t : String}
    (h : (rows s.toList).map chop = (rows t.toList).map chop) :
    suppressionsOf file s = suppressionsOf file t := by
  have hchop : ∀ rs : List (List Char),
      rs.map Directive.ofLine? = (rs.map chop).map Directive.ofLine? := by
    intro rs
    rw [List.map_map]
    exact List.map_congr_left fun row _ => (Directive.ofLine?_chop row).symm
  rw [suppressionsOf_eq_rows, suppressionsOf_eq_rows]
  exact suppressionsFrom_congr file 1 (by rw [hchop, h, ← hchop])

/-- **Suppressions line by line.** The suppressions of two texts with a newline between them are those
of the first, and then those of the second with each target moved down by one more line than the first
has newlines. Targets are words; in a text of fewer than `UInt32.size` lines the sums are those of
numbers, but for a directive alone on line `UInt32.size - 1`, below which words count no line. In a text
of several lines, what is above a line and what is below it declare the same whatever the line is, and
the line declares what it declares by itself. Carriage returns at the ends of lines make no
difference. -/
theorem suppressionsOf_newline (file : String) :
    (∀ s t : String, suppressionsOf file (s ++ "\n" ++ t) =
      suppressionsOf file s ++
        (suppressionsOf file t).map (·.moveDown (s.toList.count '\n' + 1))) ∧
    (∀ s t : String, (lines (s ++ "\n" ++ t).toList).length < UInt32.size →
      ∀ x ∈ suppressionsOf file t, ∃ n : UInt32, x.scope = .line n ∧
        ((n + UInt32.ofNat (s.toList.count '\n' + 1)).toNat =
            n.toNat + (s.toList.count '\n' + 1) ∨
          n.toNat + (s.toList.count '\n' + 1) = UInt32.size)) ∧
    (∀ before after : List String, (∀ line ∈ before ++ after, '\n' ∉ line.toList) →
      ∃ above below, ∀ line : String, '\n' ∉ line.toList →
        suppressionsOf file ("\n".intercalate (before ++ line :: after)) =
          above ++ (suppressionsOf file line).map (·.moveDown before.length) ++ below) ∧
    (∀ s t : String, (rows s.toList).map chop = (rows t.toList).map chop →
      suppressionsOf file s = suppressionsOf file t) ∧
    ∀ s : String, suppressionsOf file (String.ofList (withReturns s.toList)) =
      suppressionsOf file s := by
  refine ⟨suppressionsOf_append_newline file, fun s t hlines x hx => toNat_moved_target hlines hx,
    fun before after h => suppressionsOf_line file h, fun s t h => suppressionsOf_congr_chop file h,
    fun s => suppressionsOf_congr_chop file ?_⟩
  rw [String.toList_ofList]
  exact map_chop_rows_withReturns s.toList

/-- A text that ends in a newline and one with both line breaks and a carriage return at its end: the
directive after the empty line is on the third line, and stands alone. -/
theorem suppressionsOf_newline_mixed :
    let s := "int a;\n"
    let t := "// faultline-ignore a\r\nb(2); # faultline-ignore\r"
    (lines (s ++ "\n" ++ t).toList).length < UInt32.size ∧
      (∀ line ∈ ["int a;", ""] ++ ["b(2);"], '\n' ∉ line.toList) ∧
      '\n' ∉ "// faultline-ignore a".toList ∧
      (rows "a\r\nb".toList).map chop = (rows "a\nb\r\r".toList).map chop ∧
      suppressionsOf "A.java" (s ++ "\n" ++ t) =
        [⟨"A.java", .rule "a", .line 4⟩, ⟨"A.java", .any, .line 4⟩] ∧
      suppressionsOf "A.java" (String.ofList (withReturns (s ++ "\n" ++ t).toList)) =
        suppressionsOf "A.java" (s ++ "\n" ++ t) ∧
      (∃ above below, ∀ line : String, '\n' ∉ line.toList →
        suppressionsOf "A.java" ("\n".intercalate (["int a;", ""] ++ line :: ["b(2);"])) =
          above ++ (suppressionsOf "A.java" line).map (·.moveDown 2) ++ below) ∧
      suppressionsOf "A.java" "a\r\nb" = suppressionsOf "A.java" "a\nb\r\r" ∧
      ∀ x ∈ suppressionsOf "A.java" t, ∃ n : UInt32, x.scope = .line n ∧
        ((n + UInt32.ofNat (s.toList.count '\n' + 1)).toNat =
            n.toNat + (s.toList.count '\n' + 1) ∨
          n.toNat + (s.toList.count '\n' + 1) = UInt32.size) := by
  intro s t
  obtain ⟨happend, htargets, hline, hchop, hreturns⟩ := suppressionsOf_newline "A.java"
  have hshort : (lines (s ++ "\n" ++ t).toList).length < UInt32.size := by decide +kernel
  have hplain : ∀ line ∈ ["int a;", ""] ++ ["b(2);"], '\n' ∉ line.toList := by decide +kernel
  have hrows : (rows "a\r\nb".toList).map chop = (rows "a\nb\r\r".toList).map chop := by
    decide +kernel
  refine ⟨hshort, hplain, by decide +kernel, hrows, ?_, hreturns _, hline _ _ hplain,
    hchop _ _ hrows, htargets s t hshort⟩
  rw [happend]
  decide +kernel

end TreeLint
