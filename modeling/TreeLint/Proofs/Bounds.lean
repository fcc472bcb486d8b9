import Mathlib.Tactic.SplitIfs
import TreeLint.Analysis

/-!
# Findings are moved into the text

Before a finding is reported, its span is clamped if it does not lie in the text, and its source
line is attached. Clamping moves nothing that lies in the text (`clamp_of_contains`), so the
reported span is the clamped span in every case, and what else the finding says stays as it was
(`finalize_eq`).
-/

namespace TreeLint

namespace SourceUnit

theorem within_of_le {lo hi x : UInt32} (hlo : lo ≤ x) (hhi : x ≤ hi) : within lo hi x = x := by
  rw [within, if_neg (UInt32.not_lt.2 hlo), if_neg (UInt32.not_lt.2 hhi)]

theorem clamp_of_contains {u : SourceUnit} {s : Span} (h : u.contains s = true) :
    u.clamp s = s := by
  simp only [contains, Bool.and_eq_true, decide_eq_true_eq] at h
  obtain ⟨⟨⟨⟨⟨hline, hlines⟩, hcount⟩, hcol⟩, hwidth⟩, hend⟩ := h
  have hstart : within 1 u.lineCount s.startLine = s.startLine :=
    within_of_le hline (UInt32.le_trans hlines hcount)
  simp only [clamp, hstart, within_of_le hlines hcount, within_of_le hcol hwidth, if_pos hend]

end SourceUnit

namespace Engine

variable (e : Engine) (u : SourceUnit) (f : Finding)

/-- A reported finding differs from the one that was found in its span and its snippet alone. -/
theorem finalize_eq :
    ∃ snippet, e.finalize u f = { f with span := u.clamp f.span, snippet } := by
  have hspan : (if u.contains f.span then f else { f with span := u.clamp f.span }) =
      { f with span := u.clamp f.span } := by
    split_ifs with h
    · rw [SourceUnit.clamp_of_contains h]
    · rfl
  unfold finalize
  rw [hspan]
  dsimp only
  split_ifs
  · split
    · exact ⟨_, rfl⟩
    · exact ⟨f.snippet, rfl⟩
  · exact ⟨f.snippet, rfl⟩

end Engine

end TreeLint
