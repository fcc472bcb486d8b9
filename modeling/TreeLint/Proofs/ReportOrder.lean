import Mathlib.Tactic.Tauto
import TreeLint.Finding.Basic

/-!
# The order of reports

Reports compare findings by severity, file, start, rule and end. Two findings that compare equal
agree on all of these, so they have the same severity and the same key (`order_eq_iff`): no two
findings with different keys are tied, and sorting them leaves no choice.

**Theorem (`eq_of_mem_iff`).** Two lists in strictly increasing order with the same findings are
equal. What a report holds therefore decides what it looks like.
-/

namespace TreeLint

namespace Finding

/-- The order as a chain of criteria, each of which decides where those before it are tied. -/
theorem order_eq_compareLex :
    order =
      compareLex (fun f g => compareOn (·.severity.rank) g f) (
      compareLex (compareOn (·.file)) (
      compareLex (compareOn (·.span.startLine.toNat)) (
      compareLex (compareOn (·.span.startCol.toNat)) (
      compareLex (compareOn (·.ruleId)) (
      compareLex (compareOn (·.span.endLine.toNat))
        (compareOn (·.span.endCol.toNat))))))) :=
  rfl

instance : Std.TransCmp order := by
  rw [order_eq_compareLex]
  infer_instance

/-- Findings are tied only if they are repeats of each other with the same severity. -/
theorem order_eq_iff {f g : Finding} :
    f.order g = .eq ↔ f.severity = g.severity ∧ f.key = g.key := by
  have hrank : g.severity.rank = f.severity.rank ↔ f.severity = g.severity :=
    ⟨fun h => (Severity.rank_injective h).symm, fun h => by rw [h]⟩
  have hspan : f.span = g.span ↔
      f.span.startLine = g.span.startLine ∧ f.span.startCol = g.span.startCol ∧
        f.span.endLine = g.span.endLine ∧ f.span.endCol = g.span.endCol := by
    cases f.span
    cases g.span
    simp
  simp only [order, Ordering.then_eq_eq, Std.compare_eq_iff_eq, UInt32.toNat_inj, hrank, key,
    Key.mk.injEq, hspan]
  tauto

theorem ble_trans (f g h : Finding) (hfg : f.ble g) (hgh : g.ble h) : f.ble h :=
  Std.TransCmp.isLE_trans hfg hgh

theorem ble_total (f g : Finding) : (f.ble g || g.ble f) = true := by
  have hswap : g.order f = (f.order g).swap := Std.OrientedCmp.eq_swap
  rw [ble, ble, hswap]
  cases f.order g <;> rfl

/-- Between findings with different keys the order is strict. -/
theorem order_lt_of_ble {f g : Finding} (hle : f.ble g) (hkey : f.key ≠ g.key) :
    f.order g = .lt := by
  cases ho : f.order g with
  | lt => rfl
  | eq => exact absurd (order_eq_iff.1 ho).2 hkey
  | gt => simp [ble, ho] at hle

theorem ne_of_order_lt {f g : Finding} (h : f.order g = .lt) : f ≠ g := by
  rintro rfl
  rw [order_eq_iff.2 ⟨rfl, rfl⟩] at h
  cases h

/-- **What a report holds decides what it looks like.** -/
theorem eq_of_mem_iff {fs gs : List Finding} (hfs : fs.Pairwise fun f g => f.order g = .lt)
    (hgs : gs.Pairwise fun f g => f.order g = .lt) (h : ∀ f, f ∈ fs ↔ f ∈ gs) : fs = gs := by
  have hperm : fs.Perm gs :=
    (List.perm_ext_iff_of_nodup (hfs.imp ne_of_order_lt) (hgs.imp ne_of_order_lt)).2 h
  refine List.Perm.eq_of_pairwise (fun f g _ _ hfg hgf => ?_) hfs hgs hperm
  exact absurd hfg (Std.OrientedCmp.not_lt_of_lt hgf)

end Finding

end TreeLint
