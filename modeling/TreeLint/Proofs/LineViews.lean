import TreeLint.Proofs.LineTable

/-!
# The lines of a text, seen in three ways

Findings take their snippets from the table of lines of a unit, directives in comments are numbered
by the lines of the text, and lines of code are counted over these lines too. A final newline starts
a row but no line, and a line keeps carriage returns that the table drops. Do the views agree?

**Theorem (`lineViews_agree`).** They do, if the lines can be counted in a word. The table has a
line for each number from 1 to the number of lines, and it is the piece of the text between two
newlines, without the carriage returns at its end. Line `i` of the text is that line, up to carriage
returns at its end. The table counts one line more iff the text is empty or ends in a newline; that
line is empty, so the lines of code are the lines of the table that are not blank.
-/

namespace TreeLint

namespace Text

variable {s t row : List Char}

/-! ## Rows put together again -/

theorem intercalate_rows (s : List Char) : ['\n'].intercalate (rows s) = s := by
  induction s with
  | nil => rfl
  | cons c s ih =>
    by_cases hc : c = '\n'
    · obtain ⟨first, later, hrows⟩ := List.exists_cons_of_ne_nil (pieces_ne_nil (· == '\n') s)
      rw [rows, hrows] at ih
      rw [hc, rows_cons_newline, rows, hrows, List.intercalate_cons_cons, ih]
      rfl
    · obtain ⟨first, later, hrows, hcons⟩ := exists_rows_cons hc s
      rw [hrows] at ih
      rw [hcons, ← ih]
      cases later with
      | nil => rfl
      | cons row later =>
        rw [List.intercalate_cons_cons, List.intercalate_cons_cons]
        rfl

theorem newline_notMem_of_mem_rows : ∀ row ∈ rows s, '\n' ∉ row := by
  induction s with
  | nil => decide
  | cons c s ih =>
    by_cases hc : c = '\n'
    · rw [hc, rows_cons_newline]
      exact List.forall_mem_cons.2 ⟨List.not_mem_nil, ih⟩
    · obtain ⟨first, later, hrows, hcons⟩ := exists_rows_cons hc s
      rw [hrows] at ih
      obtain ⟨hfirst, hlater⟩ := List.forall_mem_cons.1 ih
      rw [hcons]
      refine List.forall_mem_cons.2 ⟨?_, hlater⟩
      rw [List.mem_cons, not_or]
      exact ⟨Ne.symm hc, hfirst⟩

theorem exists_rows_concat {c : Char} (hc : c ≠ '\n') (s : List Char) :
    ∃ ended row, rows (s ++ [c]) = ended ++ [row ++ [c]] := by
  induction s with
  | nil => exact ⟨[], [], rows_of_not_mem (by simpa using Ne.symm hc)⟩
  | cons d s ih =>
    obtain ⟨ended, row, hrows⟩ := ih
    by_cases hd : d = '\n'
    · refine ⟨[] :: ended, row, ?_⟩
      rw [hd, List.cons_append, rows_cons_newline, hrows, List.cons_append]
    · obtain ⟨first, later, hsame, hcons⟩ := exists_rows_cons hd (s ++ [c])
      rw [hrows] at hsame
      rw [List.cons_append, hcons]
      cases ended with
      | nil =>
        obtain ⟨rfl, rfl⟩ := List.cons.inj hsame
        exact ⟨[], d :: row, rfl⟩
      | cons row' ended =>
        obtain ⟨rfl, rfl⟩ := List.cons.inj hsame
        exact ⟨(d :: row') :: ended, row, rfl⟩

/-- The last row is empty iff the text is, or a newline ends it. -/
theorem last_row_eq_nil_iff {ended : List (List Char)} {last : List Char}
    (h : rows s = ended ++ [last]) : last = [] ↔ s = [] ∨ s.getLast? = some '\n' := by
  have hlast : (rows s).getLast? = some last := by rw [h, List.getLast?_concat]
  rcases List.eq_nil_or_concat' s with rfl | ⟨t, c, rfl⟩
  · obtain rfl : [] = last := Option.some.inj hlast
    simp
  · by_cases hc : c = '\n'
    · subst hc
      have hrows : rows (t ++ ['\n']) = rows t ++ [[]] := rows_newline t []
      rw [hrows, List.getLast?_concat] at hlast
      obtain rfl := Option.some.inj hlast
      simp
    · obtain ⟨ended', row, hrows⟩ := exists_rows_concat hc t
      rw [hrows, List.getLast?_concat] at hlast
      obtain rfl := Option.some.inj hlast
      simp [hc]

/-! ## Carriage returns -/

theorem chop_append_returns {returns : List Char} (h : ∀ c ∈ returns, c = '\r') (t : List Char) :
    chop (t ++ returns) = chop t := by
  have hdropped : ∀ c ∈ returns.reverse, (c == '\r') = true := fun c hc =>
    beq_iff_eq.2 (h c (List.mem_reverse.1 hc))
  rw [chop, dropEndWhile, List.reverse_append, List.dropWhile_append_of_pos hdropped]
  rfl

theorem chop_dropReturn (row : List Char) : chop (dropReturn row) = chop row := by
  obtain ⟨returns, hreturns, hrow⟩ := exists_returns_of_dropReturn row
  calc chop (dropReturn row)
      = chop (dropReturn row ++ returns) := (chop_append_returns hreturns _).symm
    _ = chop row := by rw [← hrow]

theorem getLast?_chop_ne (row : List Char) : (chop row).getLast? ≠ some '\r' := by
  intro h
  have hnot := last_dropEndWhile (· == '\r') row '\r' h
  cases hnot

/-- **A row without its carriage returns**: the row is it and then carriage returns, and it does not
end in one. -/
theorem chop_eq_iff :
    chop row = t ↔ (∃ m, row = t ++ List.replicate m '\r') ∧ t.getLast? ≠ some '\r' := by
  constructor
  · rintro rfl
    obtain ⟨returns, hreturns, hrow⟩ := exists_returns_of_chop row
    refine ⟨⟨returns.length, ?_⟩, getLast?_chop_ne row⟩
    rw [← List.eq_replicate_iff.2 ⟨rfl, hreturns⟩]
    exact hrow
  · rintro ⟨⟨m, rfl⟩, hlast⟩
    rw [chop_append_returns fun c hc => List.eq_of_mem_replicate hc]
    obtain ⟨returns, hreturns, hrow⟩ := exists_returns_of_chop t
    rcases List.eq_nil_or_concat' returns with rfl | ⟨returns, c, rfl⟩
    · rwa [List.append_nil, eq_comm] at hrow
    · obtain rfl : c = '\r' := hreturns c (by simp)
      rw [hrow, ← List.append_assoc, List.getLast?_concat] at hlast
      exact absurd rfl hlast

theorem allBlank_chop (row : List Char) : allBlank (chop row) = allBlank row := by
  obtain ⟨returns, hreturns, hrow⟩ := exists_returns_of_chop row
  have hblank : ∀ c ∈ returns, isBlank c = true := by
    intro c hc
    rw [hreturns c hc]
    decide
  calc allBlank (chop row)
      = allBlank (chop row ++ returns) := (allBlank_append hblank _).symm
    _ = allBlank row := by rw [← hrow]

/-! ## Lines and rows -/

/-- A line of the text and the row of the same number differ in carriage returns at the end. -/
theorem exists_row_of_line {i : Nat} {line : List Char} (h : (lines s)[i]? = some line) :
    ∃ row, (rows s)[i]? = some row ∧ chop row = chop line := by
  obtain ⟨ended, last, hrows⟩ := exists_rows_eq_concat s
  rw [lines_eq hrows] at h
  rw [hrows]
  rcases lt_or_ge i ended.length with hi | hi
  · have hlen : i < (ended.map dropReturn).length := by rwa [List.length_map]
    rw [List.getElem?_append_left hlen, List.getElem?_map] at h
    obtain ⟨row, hrow, rfl⟩ := Option.map_eq_some_iff.1 h
    refine ⟨row, ?_, (chop_dropReturn row).symm⟩
    rw [List.getElem?_append_left hi, hrow]
  · have hlen : (ended.map dropReturn).length ≤ i := by rwa [List.length_map]
    rw [List.getElem?_append_right hlen, List.length_map] at h
    refine ⟨line, ?_, rfl⟩
    rw [List.getElem?_append_right hi]
    cases last with
    | nil => cases h
    | cons c last => exact h

theorem length_lines {ended : List (List Char)} {last : List Char} (h : rows s = ended ++ [last]) :
    (lines s).length = ended.length + if last = [] then 0 else 1 := by
  rw [lines_eq h, List.length_append, List.length_map]
  cases last <;> rfl

theorem length_lines_le (s : List Char) : (lines s).length ≤ (rows s).length := by
  obtain ⟨ended, last, hrows⟩ := exists_rows_eq_concat s
  rw [length_lines hrows, hrows, List.length_append, List.length_singleton]
  split_ifs <;> omega

/-- A row is one more than the lines iff it is empty at the end of the text. -/
theorem length_rows_eq_iff (s : List Char) :
    ((rows s).length = (lines s).length + 1 ↔ s = [] ∨ s.getLast? = some '\n') ∧
      (¬(s = [] ∨ s.getLast? = some '\n') → (rows s).length = (lines s).length) := by
  obtain ⟨ended, last, hrows⟩ := exists_rows_eq_concat s
  rw [length_lines hrows, hrows, ← last_row_eq_nil_iff hrows, List.length_append,
    List.length_singleton]
  by_cases hlast : last = [] <;> simp [hlast]

theorem allBlank_dropReturn (row : List Char) : allBlank (dropReturn row) = allBlank row := by
  rw [← allBlank_chop, chop_dropReturn, allBlank_chop]

theorem countP_lines (s : List Char) :
    ((lines s).countP fun line => !allBlank line) = (rows s).countP fun row => !allBlank row := by
  obtain ⟨ended, last, hrows⟩ := exists_rows_eq_concat s
  rw [lines_eq hrows, hrows, List.countP_append, List.countP_append, List.countP_map]
  congr 1
  · exact List.countP_congr fun row _ => by simp [allBlank_dropReturn]
  · cases last <;> rfl

/-! ## Ends of characters -/

/-- The position is between two characters of the text, or at one of its ends. -/
def IsBoundary (s : List Char) (n : Nat) : Prop :=
  ∃ before after, s = before ++ after ∧ byteLength before = n

theorem byteLength_toList (s : String) : byteLength s.toList = s.utf8ByteSize := by
  have hlist : ∀ cs : List Char, byteLength cs = (String.ofList cs).utf8ByteSize := by
    intro cs
    induction cs with
    | nil => rfl
    | cons c cs ih =>
      have hsplit : String.ofList (c :: cs) = String.singleton c ++ String.ofList cs := by
        rw [String.singleton_eq_ofList, ← String.ofList_append, List.singleton_append]
      rw [byteLength, ih, hsplit, String.utf8ByteSize_append, String.utf8ByteSize_singleton]
  rw [hlist, String.ofList_toList]

end Text

theorem countP_range_getElem? {α : Type*} (p : α → Bool) (xs : List α) :
    ((List.range xs.length).countP fun i => (xs[i]?).any p) = xs.countP p := by
  induction xs with
  | nil => rfl
  | cons x xs ih =>
    rw [List.length_cons, List.range_succ_eq_map, List.countP_cons, List.countP_map,
      List.countP_cons, ← ih]
    rfl

/-! ## The views of a unit -/

namespace SourceUnit

variable {u : SourceUnit}

theorem toNat_lineCount (hu : (Text.rows u.text.toList).length < UInt32.size) :
    u.lineCount.toNat = (Text.rows u.text.toList).length := by
  rw [lineCount_eq, UInt32.toNat_ofNat_of_lt' hu]

theorem lineText?_ofNat {i : Nat} (hi : i + 1 < UInt32.size) :
    u.lineText? (UInt32.ofNat (i + 1)) = ((Text.rows u.text.toList)[i]?).map Text.chop := by
  rw [lineText?_eq, UInt32.toNat_ofNat_of_lt' hi]

theorem lineText?_eq_some_iff {k : UInt32} {t : List Char} :
    u.lineText? k = some t ↔
      ∃ i row, k.toNat = i + 1 ∧ (Text.rows u.text.toList)[i]? = some row ∧ Text.chop row = t := by
  rw [lineText?_eq]
  cases k.toNat with
  | zero => simp
  | succ i => simp [Option.map_eq_some_iff]

theorem isSome_lineText?_iff (hu : (Text.rows u.text.toList).length < UInt32.size) {k : UInt32} :
    (u.lineText? k).isSome ↔ 1 ≤ k ∧ k ≤ u.lineCount := by
  rw [UInt32.le_iff_toNat_le, UInt32.le_iff_toNat_le, toNat_lineCount hu, UInt32.toNat_one,
    lineText?_eq]
  cases k.toNat with
  | zero => simp
  | succ i =>
    simp only [Option.isSome_map, isSome_getElem?]
    omega

/-- What is read for a line lies in the text, between ends of characters. -/
theorem isBoundary_of_lineRange? {i start stop : Nat} (h : u.lineRange? i = some (start, stop)) :
    start ≤ stop ∧ stop ≤ u.text.utf8ByteSize ∧ Text.IsBoundary u.text.toList start ∧
      Text.IsBoundary u.text.toList stop := by
  obtain ⟨row, hrow⟩ : ∃ row, (Text.rows u.text.toList)[i]? = some row := by
    have hlt : i < u.lineStarts.length := by
      obtain ⟨_, hstart, -⟩ := Option.map_eq_some_iff.1 h
      exact (List.getElem?_eq_some_iff.1 hstart).1
    rw [length_lineStarts] at hlt
    exact ⟨_, List.getElem?_eq_getElem hlt⟩
  obtain ⟨start', stop', hrange, hslice⟩ := lineRange?_of_row hrow
  obtain ⟨rfl, rfl⟩ := Prod.mk.inj (Option.some.inj (hrange.symm.trans h))
  obtain ⟨before, after, htext, hstart, hstop⟩ := Text.slice?_eq_some_iff.1 hslice
  have hsize : Text.byteLength before + Text.byteLength row + Text.byteLength after =
      u.text.utf8ByteSize := by
    rw [← Text.byteLength_toList, htext, Text.byteLength_append, Text.byteLength_append,
      Nat.add_assoc]
  rw [Text.byteLength_append] at hstop
  refine ⟨by omega, by omega, ⟨before, row ++ after, htext, hstart⟩,
    ⟨before ++ row, after, ?_, ?_⟩⟩
  · rw [htext, List.append_assoc]
  · rw [Text.byteLength_append, hstop]

theorem linesOfCode_eq (hu : (Text.rows u.text.toList).length < UInt32.size) :
    u.linesOfCode = (List.range' 1 u.lineCount.toNat).countP fun k =>
      (u.lineText? (UInt32.ofNat k)).any (!Text.allBlank ·) := by
  rw [linesOfCode, Text.countP_lines, ← countP_range_getElem?, toNat_lineCount hu,
    List.range'_eq_map_range, List.countP_map]
  refine List.countP_congr fun i hi => ?_
  have hlt : i + 1 < UInt32.size := by
    have := List.mem_range.1 hi
    omega
  rw [Function.comp_apply, Nat.add_comm 1 i, lineText?_ofNat hlt, Option.any_map]
  simp only [Text.allBlank_chop]

/-- **The views of the lines agree.** In a text whose lines can be counted in a word, the table has
line `k` iff `k` is a number from 1 to the number of lines. What the table reads for a line lies in
the text and starts and ends between characters. The rows are the text cut at its newlines, and line
`k` is the `k`-th of them without the carriage returns at its end. A line of the text is the line of
the same number of the table, if both lose the carriage returns at their ends. The table has one
line more iff the text is empty or ends in a newline, and else as many. The lines of code are the
numbers of lines that are not blank. -/
theorem lineViews_agree (u : SourceUnit) (hu : (Text.rows u.text.toList).length < UInt32.size) :
    let s := u.text.toList
    (∀ k, (u.lineText? k).isSome ↔ 1 ≤ k ∧ k ≤ u.lineCount) ∧
    (∀ i start stop, u.lineRange? i = some (start, stop) →
      start ≤ stop ∧ stop ≤ u.text.utf8ByteSize ∧ Text.IsBoundary s start ∧
        Text.IsBoundary s stop) ∧
    (['\n'].intercalate (Text.rows s) = s ∧ (∀ row ∈ Text.rows s, '\n' ∉ row) ∧
      ∀ k t, u.lineText? k = some t ↔
        ∃ i row, k.toNat = i + 1 ∧ (Text.rows s)[i]? = some row ∧
          (∃ m, row = t ++ List.replicate m '\r') ∧ t.getLast? ≠ some '\r') ∧
    (∀ i line, (Text.lines s)[i]? = some line →
      u.lineText? (UInt32.ofNat (i + 1)) = some (Text.chop line)) ∧
    ((u.lineCount.toNat = (Text.lines s).length + 1 ↔ s = [] ∨ s.getLast? = some '\n') ∧
      (¬(s = [] ∨ s.getLast? = some '\n') → u.lineCount.toNat = (Text.lines s).length)) ∧
    u.linesOfCode = (List.range' 1 u.lineCount.toNat).countP fun k =>
      (u.lineText? (UInt32.ofNat k)).any (!Text.allBlank ·) := by
  intro s
  refine ⟨fun k => isSome_lineText?_iff hu, fun i start stop => isBoundary_of_lineRange?,
    ⟨Text.intercalate_rows s, Text.newline_notMem_of_mem_rows, fun k t => ?_⟩, fun i line h => ?_,
    ?_, linesOfCode_eq hu⟩
  · simp only [lineText?_eq_some_iff, Text.chop_eq_iff]
    rfl
  · obtain ⟨row, hrow, hchop⟩ := Text.exists_row_of_line h
    have hlt : i < (Text.lines s).length := (List.getElem?_eq_some_iff.1 h).1
    have hle : (Text.lines s).length ≤ (Text.rows u.text.toList).length := Text.length_lines_le s
    rw [lineText?_ofNat (by omega), hrow, Option.map_some, hchop]
  · rw [toNat_lineCount hu]
    exact Text.length_rows_eq_iff s

/-- A line with a character of two bytes and two carriage returns, a blank line, and a last line
that a newline ends. -/
def mixedLines : SourceUnit := .parsed "mixed.js" "caf\u00e9\r\r\n \r\nx\n" (.leaf .program {})

/-- The table has four lines, one of them after the last newline, and two of them are code. -/
theorem lineViews_agree_mixed :
    (Text.rows mixedLines.text.toList).length < UInt32.size ∧
    (mixedLines.lineText? 4).isSome ∧ ¬(mixedLines.lineText? 5).isSome ∧
    mixedLines.lineRange? 1 = some (8, 10) ∧ Text.IsBoundary mixedLines.text.toList 8 ∧
    (Text.lines mixedLines.text.toList)[0]? = some "caf\u00e9\r".toList ∧
    mixedLines.lineText? 1 = some "caf\u00e9".toList ∧
    mixedLines.lineCount.toNat = (Text.lines mixedLines.text.toList).length + 1 ∧
    mixedLines.linesOfCode = 2 := by
  have hrows : (Text.rows mixedLines.text.toList).length < UInt32.size := by decide +kernel
  have hrange : mixedLines.lineRange? 1 = some (8, 10) := by decide +kernel
  have hfirst : (Text.lines mixedLines.text.toList)[0]? = some "caf\u00e9\r".toList := by
    decide +kernel
  obtain ⟨hdefined, hranges, -, hlines, ⟨hcount, -⟩, hcode⟩ := lineViews_agree mixedLines hrows
  obtain ⟨-, -, hboundary, -⟩ := hranges 1 8 10 hrange
  have hone : (1 : UInt32) = UInt32.ofNat (0 + 1) := rfl
  refine ⟨hrows, (hdefined 4).2 (by decide +kernel), fun h => ?_, hrange, hboundary, hfirst, ?_,
    hcount.2 (.inr (by decide +kernel)), ?_⟩
  · have hle := ((hdefined 5).1 h).2
    exact absurd hle (by decide +kernel)
  · rw [hone, hlines 0 _ hfirst]
    decide +kernel
  · rw [hcode]
    decide +kernel

end SourceUnit

end TreeLint
