import TreeLint.Proofs.TextSearch
import TreeLint.Text.Lines

/-!
# Rows and lines

The rows of a text are its pieces between newlines, so they are those of the part before a newline and
then those of the part after it (`rows_newline`), and there is one more of them than of newlines
(`length_rows`). Rows without newlines, put together again, are the rows of the text that they make
(`rows_intercalate`).

The lines of a text are its rows but for two things (`lines_eq`): a row that a newline ends loses one
carriage return, and the last row counts only if something is in it.
-/

namespace TreeLint.Text

variable {s : List Char}

theorem rows_newline (s t : List Char) : rows (s ++ '\n' :: t) = rows s ++ rows t :=
  pieces_cut (by decide) s t

theorem rows_cons_newline (s : List Char) : rows ('\n' :: s) = [] :: rows s := rows_newline [] s

theorem exists_rows_cons {c : Char} (hc : c ≠ '\n') (s : List Char) :
    ∃ first later, rows s = first :: later ∧ rows (c :: s) = (c :: first) :: later := by
  obtain ⟨first, later, hrows⟩ := List.exists_cons_of_ne_nil (pieces_ne_nil (· == '\n') s)
  have hsep : ¬(c == '\n') = true := by simpa using hc
  refine ⟨first, later, hrows, ?_⟩
  rw [rows, pieces_cons, if_neg hsep, hrows, List.modifyHead_cons]

theorem rows_of_not_mem (h : '\n' ∉ s) : rows s = [s] := pieces_of_not_mem h

theorem exists_rows_eq_concat (s : List Char) : ∃ ended last, rows s = ended ++ [last] :=
  ⟨_, _, (List.dropLast_append_getLast (pieces_ne_nil _ s)).symm⟩

theorem length_rows (s : List Char) : (rows s).length = s.count '\n' + 1 := by
  induction s with
  | nil => rfl
  | cons c s ih =>
    rw [rows] at ih ⊢
    rw [pieces_cons, List.count_cons]
    by_cases hc : c = '\n'
    · simp [hc, ih]
    · simp [hc, ih]

theorem rows_intercalate {rs : List (List Char)} (hne : rs ≠ []) (h : ∀ row ∈ rs, '\n' ∉ row) :
    rows (['\n'].intercalate rs) = rs := by
  induction rs with
  | nil => exact absurd rfl hne
  | cons row rs ih =>
    obtain ⟨hrow, hrs⟩ := List.forall_mem_cons.1 h
    cases rs with
    | nil =>
      rw [List.intercalate_singleton]
      exact rows_of_not_mem hrow
    | cons row' rs =>
      rw [List.intercalate_cons_cons, List.append_assoc, List.singleton_append, rows_newline,
        rows_of_not_mem hrow, ih (List.cons_ne_nil _ _) hrs]
      rfl

/-! ## Lines -/

theorem lines_eq {ended : List (List Char)} {last : List Char} (h : rows s = ended ++ [last]) :
    lines s = ended.map dropReturn ++ [last].filter (· != []) := by
  rw [lines, h, List.dropLast_concat, List.getLast?_concat]
  cases last with
  | nil => exact (List.append_nil _).symm
  | cons c row => rfl

theorem lines_newline (s t : List Char) :
    lines (s ++ '\n' :: t) = (rows s).map dropReturn ++ lines t := by
  obtain ⟨ended, last, hrows⟩ := exists_rows_eq_concat t
  have hall : rows (s ++ '\n' :: t) = (rows s ++ ended) ++ [last] := by
    rw [rows_newline, hrows, List.append_assoc]
  rw [lines_eq hall, lines_eq hrows, List.map_append, List.append_assoc]

/-- What a line loses is all carriage returns. -/
theorem exists_returns_of_dropReturn (row : List Char) :
    ∃ returns, (∀ c ∈ returns, c = '\r') ∧ row = dropReturn row ++ returns := by
  by_cases h : row.getLast? = some '\r'
  · refine ⟨['\r'], by simp, ?_⟩
    rw [dropReturn, if_pos h]
    exact (List.dropLast_append_getLast? _ h).symm
  · refine ⟨[], by simp, ?_⟩
    rw [dropReturn, if_neg h, List.append_nil]

theorem exists_returns_of_chop (row : List Char) :
    ∃ returns, (∀ c ∈ returns, c = '\r') ∧ row = chop row ++ returns := by
  obtain ⟨returns, hreturns, hrow⟩ := exists_dropEndWhile (· == '\r') row
  exact ⟨returns, fun c hc => eq_of_beq (hreturns c hc), hrow⟩

/-! ## Line breaks of two characters -/

/-- The text with a carriage return before each newline. -/
def withReturns (s : List Char) : List Char :=
  s.flatMap fun c => if c = '\n' then ['\r', '\n'] else [c]

theorem chop_cons (c : Char) (row : List Char) :
    chop (c :: row) = if chop row = [] then chop [c] else c :: chop row := by
  simp only [chop, dropEndWhile, List.reverse_cons, List.dropWhile_append, List.reverse_eq_nil_iff,
    List.isEmpty_iff]
  split
  · rfl
  · rw [List.reverse_append, List.reverse_singleton, List.singleton_append]

theorem map_chop_rows_withReturns (s : List Char) :
    (rows (withReturns s)).map chop = (rows s).map chop := by
  induction s with
  | nil => rfl
  | cons c s ih =>
    rw [withReturns, List.flatMap_cons, ← withReturns]
    by_cases hc : c = '\n'
    · subst hc
      show (rows (['\r'] ++ '\n' :: withReturns s)).map chop = (rows ([] ++ '\n' :: s)).map chop
      rw [rows_newline, rows_newline, List.map_append, List.map_append, ih]
      rfl
    · -- The character goes to the first row of each text, and these are chopped alike.
      obtain ⟨row, rest, hrows⟩ := List.exists_cons_of_ne_nil (pieces_ne_nil (· == '\n') s)
      obtain ⟨row', rest', hrows'⟩ :=
        List.exists_cons_of_ne_nil (pieces_ne_nil (· == '\n') (withReturns s))
      rw [rows, rows, hrows, hrows', List.map_cons, List.map_cons] at ih
      obtain ⟨hrow, hrest⟩ := List.cons.inj ih
      have hsep : ¬(c == '\n') = true := by simpa using hc
      rw [if_neg hc, List.singleton_append, rows, rows, pieces_cons, pieces_cons, if_neg hsep,
        if_neg hsep, hrows, hrows', List.modifyHead_cons, List.modifyHead_cons, List.map_cons,
        List.map_cons, hrest, chop_cons c row', chop_cons c row, hrow]

end TreeLint.Text
