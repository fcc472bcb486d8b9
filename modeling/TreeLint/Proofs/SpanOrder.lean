import TreeLint.Proofs.SpansInText

/-!
# The order of the ends of a clamped span

Clamping brings the lines of a span into the text and keeps them in order. It then brings each
column into the width of its new line, whatever line the column was meant for, and lets an end
column of 0 pass.

**Theorem (`clamp_isOrdered`).** The start of a clamped span is at or before its end iff its lines
stay apart, or else the end column is not 0 and not left behind by the start column: it is no
smaller, or it reaches the end of the line. So a span keeps its order if its lines are lines of the
text and its end column is not 0.

Where an end is brought to another line, the order can be lost (`order_lost_past_last_line`).
-/

namespace TreeLint

/-- Whether the start is at or before the end. -/
def Span.isOrdered (s : Span) : Bool := posLe s.startLine s.startCol s.endLine s.endCol

theorem Span.isOrdered_iff {s : Span} :
    s.isOrdered = true ↔ s.startLine.toNat < s.endLine.toNat ∨
      s.startLine.toNat = s.endLine.toNat ∧ s.startCol.toNat ≤ s.endCol.toNat := by
  simp only [isOrdered, posLe, Bool.or_eq_true, Bool.and_eq_true, decide_eq_true_eq, beq_iff_eq,
    UInt32.lt_iff_toNat_lt, UInt32.le_iff_toNat_le, UInt32.toNat_inj]

namespace SourceUnit

variable {u : SourceUnit}

/-! ## The coordinates as numbers -/

theorem toNat_within {lo hi : UInt32} (h : lo ≤ hi) (x : UInt32) :
    (within lo hi x).toNat = max lo.toNat (min x.toNat hi.toNat) := by
  rw [UInt32.le_iff_toNat_le] at h
  unfold within
  split
  · next hlo =>
    rw [UInt32.lt_iff_toNat_lt] at hlo
    omega
  · next hlo =>
    rw [UInt32.not_lt, UInt32.le_iff_toNat_le] at hlo
    split
    · next hhi =>
      rw [UInt32.lt_iff_toNat_lt] at hhi
      omega
    · next hhi =>
      rw [UInt32.not_lt, UInt32.le_iff_toNat_le] at hhi
      omega

section Coordinates

variable (hu : u.text.length < 2 ^ 32 - 1) (s : Span)
include hu

theorem toNat_startLine_clamp :
    (u.clamp s).startLine.toNat = max 1 (min s.startLine.toNat u.lineCount.toNat) :=
  toNat_within (one_le_lineCount hu) s.startLine

theorem toNat_endLine_clamp :
    (u.clamp s).endLine.toNat =
      max (u.clamp s).startLine.toNat (min s.endLine.toNat u.lineCount.toNat) :=
  toNat_within (within_le (one_le_lineCount hu) s.startLine) s.endLine

theorem toNat_startCol_clamp :
    (u.clamp s).startCol.toNat =
      max 1 (min s.startCol.toNat (u.lineWidth (u.clamp s).startLine).toNat) :=
  toNat_within (one_le_lineWidth hu _) s.startCol

end Coordinates

theorem toNat_endCol_clamp (s : Span) :
    (u.clamp s).endCol.toNat =
      min s.endCol.toNat (u.lineWidth (u.clamp s).endLine).toNat := by
  show (if s.endCol ≤ u.lineWidth (u.clamp s).endLine then s.endCol
    else u.lineWidth (u.clamp s).endLine).toNat = _
  split
  · next h =>
    rw [UInt32.le_iff_toNat_le] at h
    omega
  · next h =>
    rw [UInt32.not_le, UInt32.lt_iff_toNat_lt] at h
    omega

/-- The lines of a clamped span stay apart iff some line break of the text is between them. -/
theorem startLine_lt_endLine_clamp_iff (hu : u.text.length < 2 ^ 32 - 1) (s : Span) :
    (u.clamp s).startLine.toNat < (u.clamp s).endLine.toNat ↔
      max 1 s.startLine.toNat < min s.endLine.toNat u.lineCount.toNat := by
  have hn := UInt32.le_iff_toNat_le.1 (one_le_lineCount hu)
  rw [toNat_endLine_clamp hu, toNat_startLine_clamp hu]
  rw [UInt32.toNat_one] at hn
  omega

/-- On one line, the end column has to be a column, and no smaller than what the width of the line
leaves of the start column. -/
theorem startCol_le_endCol_clamp_iff (hu : u.text.length < 2 ^ 32 - 1) {s : Span}
    (h : (u.clamp s).startLine = (u.clamp s).endLine) :
    (u.clamp s).startCol.toNat ≤ (u.clamp s).endCol.toNat ↔
      1 ≤ s.endCol.toNat ∧ (s.startCol.toNat ≤ s.endCol.toNat ∨
        (u.lineWidth (u.clamp s).startLine).toNat ≤ s.endCol.toNat) := by
  have hw := UInt32.le_iff_toNat_le.1 (one_le_lineWidth hu (u.clamp s).startLine)
  rw [toNat_startCol_clamp hu, toNat_endCol_clamp, ← h]
  rw [UInt32.toNat_one] at hw
  omega

/-! ## The order -/

theorem isOrdered_clamp_iff (hu : u.text.length < 2 ^ 32 - 1) (s : Span) :
    (u.clamp s).isOrdered = true ↔
      max 1 s.startLine.toNat < min s.endLine.toNat u.lineCount.toNat ∨
        1 ≤ s.endCol.toNat ∧ (s.startCol.toNat ≤ s.endCol.toNat ∨
          (u.lineWidth (u.clamp s).startLine).toNat ≤ s.endCol.toNat) := by
  have hle : (u.clamp s).startLine.toNat ≤ (u.clamp s).endLine.toNat := by
    rw [toNat_endLine_clamp hu]
    exact Nat.le_max_left _ _
  rw [Span.isOrdered_iff, ← startLine_lt_endLine_clamp_iff hu]
  rcases hle.lt_or_eq with hlt | heq
  · simp [hlt]
  · rw [← startCol_le_endCol_clamp_iff hu (UInt32.toNat_inj.1 heq)]
    simp [heq]

/-- **The order of a clamped span.** The start is at or before the end exactly if the lines stay
apart, or if the end column is not 0 and is no smaller than the start column or reaches the end of
the line. So the order is kept where both lines are in the text and the end column is not 0. -/
theorem clamp_isOrdered (hu : u.text.length < 2 ^ 32 - 1) :
    (∀ s : Span, (u.clamp s).isOrdered ↔
      max 1 s.startLine.toNat < min s.endLine.toNat u.lineCount.toNat ∨
        1 ≤ s.endCol.toNat ∧ (s.startCol.toNat ≤ s.endCol.toNat ∨
          (u.lineWidth (u.clamp s).startLine).toNat ≤ s.endCol.toNat)) ∧
    ∀ s : Span, s.isOrdered → 1 ≤ s.startLine → s.endLine ≤ u.lineCount → 1 ≤ s.endCol →
      (u.clamp s).isOrdered := by
  refine ⟨isOrdered_clamp_iff hu, fun s hs hstart hend hcol => ?_⟩
  rw [UInt32.le_iff_toNat_le, UInt32.toNat_one] at hstart hcol
  rw [UInt32.le_iff_toNat_le] at hend
  rw [isOrdered_clamp_iff hu]
  rcases Span.isOrdered_iff.1 hs with hlt | ⟨-, hle⟩
  · left
    omega
  · exact .inr ⟨hcol, .inl hle⟩

/-- Two lines, of which the last is the longer. -/
def twoLines : SourceUnit := .parsed "two.js" "abc\nlonger line" (.leaf .program ⟨1, 1, 2, 12⟩)

/-- The start column is beyond its line, and is pulled back. -/
theorem clamp_isOrdered_two :
    let s : Span := ⟨1, 40, 2, 1⟩
    twoLines.text.length < 2 ^ 32 - 1 ∧ s.isOrdered ∧ 1 ≤ s.startLine ∧
      s.endLine ≤ twoLines.lineCount ∧ 1 ≤ s.endCol ∧ twoLines.clamp s = ⟨1, 4, 2, 1⟩ ∧
      (twoLines.clamp s).isOrdered := by
  intro s
  have hshort : twoLines.text.length < 2 ^ 32 - 1 := by decide +kernel
  have hs : s.isOrdered := by decide
  have hend : s.endLine ≤ twoLines.lineCount := by decide +kernel
  exact ⟨hshort, hs, by decide, hend, by decide, by decide +kernel,
    (clamp_isOrdered hshort).2 s hs (by decide) hend (by decide)⟩

/-- A span that ends where a third line would begin is brought to a start after its end. What ends
before that start, and holds the end, is then said to enclose it. -/
theorem order_lost_past_last_line :
    let s : Span := ⟨2, 6, 3, 1⟩
    s.isOrdered = true ∧ twoLines.clamp s = ⟨2, 6, 2, 1⟩ ∧ (twoLines.clamp s).isOrdered = false ∧
      Span.encloses ⟨1, 1, 2, 5⟩ (twoLines.clamp s) = true := by
  decide +kernel

end SourceUnit

end TreeLint
