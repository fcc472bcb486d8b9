import Mathlib.Algebra.Order.BigOperators.Group.List
import TreeLint.Proofs.Bounds
import TreeLint.Proofs.LineTable
import TreeLint.Proofs.Walk

/-!
# Reported spans lie in the text

A detector may point anywhere: its spans are made of arbitrary words, and the nodes of a tree may
have any span, that of a failure included.

**Theorem.** Whatever the detectors answer, and whatever stops the walk, every finding in the report
on a unit has a span that lies in the text.

The findings of a report are finalized, so this comes down to clamping (`contains_clamp`). Clamping
goes from left to right: the start line is brought between the first and the last line, the end
line between the new start line and the last one, and then each column into the width of its new
line. Each step needs that its range is not empty: that there is a first line, and that a line has
a first column. Lines and widths are counted in words, and that is where the text must not be too
long: a text of 2 ^ 32 - 1 newlines has 2 ^ 32 lines, which as a word is no line at all. The number
of lines and the widths are bounded together by `sum_length_pieces`.
-/

namespace TreeLint

/-! ## The lines of a text -/

namespace Text

/-- Each piece together with the character it is cut off at: nothing of the text is lost, and the
last piece counts one more. -/
theorem sum_length_pieces (p : Char → Bool) (s : List Char) :
    ((pieces p s).map (·.length + 1)).sum = s.length + 1 := by
  induction s with
  | nil => rfl
  | cons c s ih =>
    rw [pieces_cons]
    by_cases hc : p c
    · rw [if_pos hc, List.map_cons, List.sum_cons, ih, List.length_cons, List.length_nil]
      omega
    · rw [if_neg hc]
      cases hs : pieces p s with
      | nil => exact absurd hs (pieces_ne_nil p s)
      | cons piece rest =>
        rw [hs, List.map_cons, List.sum_cons] at ih
        rw [List.modifyHead_cons, List.map_cons, List.sum_cons]
        simp only [List.length_cons]
        omega

theorem length_pieces_le (p : Char → Bool) (s : List Char) :
    (pieces p s).length ≤ s.length + 1 := by
  have hone : ∀ i ∈ (pieces p s).map (·.length + 1), 1 ≤ i := by
    intro i hi
    obtain ⟨piece, -, rfl⟩ := List.mem_map.1 hi
    exact Nat.le_add_left 1 _
  calc (pieces p s).length
      = ((pieces p s).map (·.length + 1)).length := by rw [List.length_map]
    _ ≤ ((pieces p s).map (·.length + 1)).sum := List.length_le_sum_of_one_le _ hone
    _ = s.length + 1 := sum_length_pieces p s

theorem length_le_of_mem_pieces {p : Char → Bool} {s piece : List Char}
    (h : piece ∈ pieces p s) : piece.length ≤ s.length := by
  have hle : piece.length + 1 ≤ ((pieces p s).map (·.length + 1)).sum :=
    List.le_sum_of_mem (List.mem_map_of_mem h)
  rw [sum_length_pieces] at hle
  omega

theorem length_chop_le (row : List Char) : (chop row).length ≤ row.length := by
  calc (chop row).length
      = (row.reverse.dropWhile (· == '\r')).length := by
        rw [chop, dropEndWhile, List.length_reverse]
    _ ≤ row.reverse.length := (List.dropWhile_sublist _).length_le
    _ = row.length := List.length_reverse

end Text

namespace SourceUnit

variable {u : SourceUnit}

theorem one_le_lineCount (hu : u.text.length < 2 ^ 32 - 1) : 1 ≤ u.lineCount := by
  have hpos : 0 < (Text.rows u.text.toList).length :=
    List.length_pos_iff.2 (Text.pieces_ne_nil _ _)
  have hle : (Text.rows u.text.toList).length ≤ u.text.length + 1 :=
    Text.length_pieces_le _ u.text.toList
  have hword : (Text.rows u.text.toList).length < UInt32.size := by
    show _ < 2 ^ 32
    omega
  rw [UInt32.le_iff_toNat_le, lineCount_eq, UInt32.toNat_ofNat_of_lt' hword]
  exact hpos

theorem length_lineText?_le {line : UInt32} {s : List Char} (h : u.lineText? line = some s) :
    s.length ≤ u.text.length := by
  rw [lineText?_eq] at h
  cases hline : line.toNat with
  | zero => simp [hline] at h
  | succ i =>
    simp only [hline, Option.map_eq_some_iff] at h
    obtain ⟨row, hrow, rfl⟩ := h
    calc (Text.chop row).length
        ≤ row.length := Text.length_chop_le row
      _ ≤ u.text.length := Text.length_le_of_mem_pieces (List.mem_of_getElem? hrow)

theorem one_le_lineWidth (hu : u.text.length < 2 ^ 32 - 1) (line : UInt32) :
    1 ≤ u.lineWidth line := by
  unfold lineWidth
  cases hs : u.lineText? line with
  | none => exact UInt32.le_refl 1
  | some s =>
    have hlen := length_lineText?_le hs
    have hword : s.length < UInt32.size := by
      show _ < 2 ^ 32
      omega
    rw [UInt32.le_iff_toNat_le, UInt32.toNat_add, UInt32.toNat_ofNat_of_lt' hword,
      UInt32.toNat_one, Nat.mod_eq_of_lt (by omega)]
    exact Nat.le_add_left 1 _

/-! ## Clamping -/

theorem le_within {lo hi : UInt32} (h : lo ≤ hi) (x : UInt32) : lo ≤ within lo hi x := by
  unfold within
  by_cases hlo : x < lo
  · rw [if_pos hlo]
    exact UInt32.le_refl lo
  · rw [if_neg hlo]
    split
    · exact h
    · exact UInt32.not_lt.1 hlo

theorem within_le {lo hi : UInt32} (h : lo ≤ hi) (x : UInt32) : within lo hi x ≤ hi := by
  unfold within
  by_cases hlo : x < lo
  · rw [if_pos hlo]
    exact h
  · rw [if_neg hlo]
    by_cases hhi : hi < x
    · rw [if_pos hhi]
      exact UInt32.le_refl hi
    · rw [if_neg hhi]
      exact UInt32.not_lt.1 hhi

/-- **A clamped span lies in the text.** -/
theorem contains_clamp (hu : u.text.length < 2 ^ 32 - 1) (s : Span) :
    u.contains (u.clamp s) = true := by
  have hlines : 1 ≤ u.lineCount := one_le_lineCount hu
  have hstart : (u.clamp s).startLine ≤ u.lineCount := within_le hlines s.startLine
  have hend : (u.clamp s).endCol ≤ u.lineWidth (u.clamp s).endLine := by
    show (if s.endCol ≤ u.lineWidth (u.clamp s).endLine then s.endCol
      else u.lineWidth (u.clamp s).endLine) ≤ _
    split
    · assumption
    · exact UInt32.le_refl _
  simp only [contains, Bool.and_eq_true, decide_eq_true_eq]
  refine ⟨⟨⟨⟨⟨?_, ?_⟩, ?_⟩, ?_⟩, ?_⟩, hend⟩
  · exact le_within hlines s.startLine
  · exact le_within hstart s.endLine
  · exact within_le hstart s.endLine
  · exact le_within (one_le_lineWidth hu _) s.startCol
  · exact within_le (one_le_lineWidth hu _) s.startCol

end SourceUnit

/-! ## Reports -/

namespace Engine

theorem span_finalize (e : Engine) (u : SourceUnit) (f : Finding) :
    (e.finalize u f).span = u.clamp f.span := by
  obtain ⟨snippet, h⟩ := e.finalize_eq u f
  rw [h]

/-- Every finding in a report is a finalized one. -/
theorem exists_finalize_of_mem {e : Engine} {u : SourceUnit} {t : Interrupts} {f : Finding}
    (h : f ∈ (e.analyze u t).findings) : ∃ g, f = e.finalize u g := by
  cases hu : u.tree with
  | error err => simp [analyze, hu] at h
  | ok root =>
    obtain ⟨truncated, hreport⟩ := e.analyze_eq_counted hu t
    rw [hreport] at h
    obtain ⟨v, -, hv⟩ := List.mem_flatMap.1 h
    obtain ⟨d, -, hd⟩ := List.mem_flatMap.1 hv
    obtain ⟨g, -, rfl⟩ := List.mem_map.1 hd
    exact ⟨g, rfl⟩

/-- **Every reported span lies in the text.** For any detectors, any tree and any interruption; and
clamping, on which this rests, brings every span into the text and moves no span that lies there,
so a second clamping does nothing. -/
theorem analyze_spans_in_text (e : Engine) {u : SourceUnit} (hu : u.text.length < 2 ^ 32 - 1) :
    (∀ (t : Interrupts), ∀ f ∈ (e.analyze u t).findings, u.contains f.span = true) ∧
    (∀ s : Span, u.contains (u.clamp s) = true) ∧
    (∀ s : Span, u.contains s = true → u.clamp s = s) ∧
    ∀ s : Span, u.clamp (u.clamp s) = u.clamp s := by
  refine ⟨?_, SourceUnit.contains_clamp hu, fun s => SourceUnit.clamp_of_contains, ?_⟩
  · intro t f hf
    obtain ⟨g, rfl⟩ := exists_finalize_of_mem hf
    rw [span_finalize]
    exact SourceUnit.contains_clamp hu g.span
  · intro s
    exact SourceUnit.clamp_of_contains (SourceUnit.contains_clamp hu s)

/-- A detector that points far beyond any text, and stops without an answer at a program. -/
def wildDetector : Detector :=
  let rule : Rule := ⟨"sample/wild", .low, .quality, "Points anywhere"⟩
  ⟨rule, [.program, .identifier], fun s n =>
    if n.kind == .program then .crashed none
    else .found [s.findingAt rule ⟨0, 4294967295, 4294967295, 4294967295⟩ "far away",
      s.finding rule n "here"]⟩

def wildEngine : Engine := ⟨⟨[wildDetector]⟩, true⟩

/-- Two lines, of which the second is empty; the first ends in a carriage return. -/
def shortUnit : SourceUnit := .parsed "short.js" "é\r\n" forkTree

/-- The failure at the root, then two findings for each of the three leaves. -/
theorem analyze_spans_in_text_short :
    shortUnit.text.length < 2 ^ 32 - 1 ∧
    (∀ f ∈ (wildEngine.analyze shortUnit .never).findings, shortUnit.contains f.span = true) ∧
    (wildEngine.analyze shortUnit .never).findings.map (·.span) =
      [⟨1, 1, 2, 1⟩, ⟨1, 2, 2, 1⟩, ⟨1, 1, 1, 2⟩, ⟨1, 2, 2, 1⟩, ⟨1, 2, 1, 2⟩, ⟨1, 2, 2, 1⟩,
        ⟨2, 1, 2, 1⟩] := by
  have hshort : shortUnit.text.length < 2 ^ 32 - 1 := by decide +kernel
  refine ⟨hshort, (analyze_spans_in_text wildEngine hshort).1 .never, ?_⟩
  rw [wildEngine.analyze_complete (u := shortUnit) rfl fun _ _ => rfl]
  decide +kernel

end Engine

end TreeLint
