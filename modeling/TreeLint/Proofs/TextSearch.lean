import Mathlib.Data.List.Infix
import Mathlib.Data.List.TakeWhile
import TreeLint.Text.Blank
import TreeLint.Text.Search

/-!
# What a search finds

`breakOn` finds the first occurrence of a needle or none (`breakOn_eq_none_iff`), and the place where
it looks can be narrowed down. A character that is not in the needle *cuts* the text: an occurrence
lies before it or after it (`isInfix_cut`), so the search goes through the part before it and then,
if it has found nothing, through the part after it (`breakOn_cut`, `breakOn_cut_of_none`). Texts that
share no character with the needle change nothing at either end.

Cutting at single characters is like this from the start: the pieces of a text are those before a
cut and those after it (`pieces_cut`). The *words* of a text are its pieces that are not empty; blanks
around a text do not show in its words (`Framed.words`).
-/

namespace TreeLint.Text

variable {needle s p q before after : List Char} {d : Char}

/-! ## Heads -/

theorem after?_self (head s : List Char) : after? head (head ++ s) = some s := by
  induction head with
  | nil => rfl
  | cons h head ih => rw [List.cons_append, after?, if_pos rfl, ih]

theorem after?_eq_none_iff {head : List Char} : after? head s = none ↔ ¬head <+: s := by
  constructor
  · rintro h ⟨rest, rfl⟩
    rw [after?_self] at h
    cases h
  · intro h
    cases hrest : after? head s with
    | none => rfl
    | some rest => exact absurd ⟨rest, (append_of_after? hrest).symm⟩ h

/-- A head without the character `d` does not reach over it. -/
theorem after?_cut {head : List Char} (hd : d ∉ head) (p q : List Char) :
    after? head (p ++ d :: q) = (after? head p).map (· ++ d :: q) := by
  induction head generalizing p with
  | nil => rfl
  | cons h head ih =>
    have hne : d ≠ h := List.ne_of_not_mem_cons hd
    have hd : d ∉ head := List.not_mem_of_not_mem_cons hd
    cases p with
    | nil => exact if_neg fun heq => hne heq.symm
    | cons c p =>
      rw [List.cons_append, after?, after?]
      split
      · exact ih hd p
      · rfl

theorem after?_append_disjoint {head : List Char} (h : List.Disjoint q head) (p : List Char) :
    after? head (p ++ q) = (after? head p).map (· ++ q) := by
  cases q with
  | nil => simp
  | cons d q => exact after?_cut (List.disjoint_cons_left.1 h).1 p q

/-! ## Occurrences -/

theorem breakOn_self (hne : needle ≠ []) (s : List Char) :
    breakOn needle (needle ++ s) = some ([], s) := by
  obtain ⟨c, needle, rfl⟩ := List.exists_cons_of_ne_nil hne
  rw [List.cons_append, breakOn, ← List.cons_append, after?_self]

theorem breakOn_eq_none_iff : breakOn needle s = none ↔ ¬needle <:+: s := by
  induction s with
  | nil =>
    cases needle with
    | nil => simp [breakOn]
    | cons c needle => simp [breakOn]
  | cons c s ih =>
    rw [breakOn, List.infix_cons_iff, not_or, ← ih, ← after?_eq_none_iff]
    cases after? needle (c :: s) with
    | some rest => simp
    | none => simp

/-- A needle without the character `d` that occurs before it is found there. -/
theorem breakOn_cut (hd : d ∉ needle) (h : breakOn needle p = some (before, after))
    (q : List Char) : breakOn needle (p ++ d :: q) = some (before, after ++ d :: q) := by
  induction p generalizing before with
  | nil =>
    obtain rfl : needle = [] := by
      by_contra hne
      simp [breakOn, hne] at h
    obtain ⟨rfl, rfl⟩ := Prod.mk.inj (Option.some.inj h)
    rfl
  | cons c p ih =>
    rw [breakOn] at h
    rw [List.cons_append, breakOn, ← List.cons_append, after?_cut hd]
    cases hrest : after? needle (c :: p) with
    | some rest =>
      rw [hrest] at h
      obtain ⟨rfl, rfl⟩ := Prod.mk.inj (Option.some.inj h)
      rfl
    | none =>
      rw [hrest] at h
      obtain ⟨⟨b, a⟩, hfound, heq⟩ := Option.map_eq_some_iff.1 h
      obtain ⟨rfl, rfl⟩ := Prod.mk.inj heq
      rw [Option.map_none, ih hfound]
      rfl

/-- If it does not occur before it, the search goes on after it. -/
theorem breakOn_cut_of_none (hd : d ∉ needle) (h : ¬needle <:+: p) (q : List Char) :
    breakOn needle (p ++ d :: q) =
      (breakOn needle q).map fun (before, after) => (p ++ d :: before, after) := by
  rw [← breakOn_eq_none_iff] at h
  induction p with
  | nil =>
    have hne : needle ≠ [] := by
      rintro rfl
      cases h
    have hhead : after? needle (d :: q) = none := by
      rw [after?_eq_none_iff]
      rintro ⟨rest, hrest⟩
      obtain ⟨c, needle, rfl⟩ := List.exists_cons_of_ne_nil hne
      obtain ⟨rfl, -⟩ := List.cons.inj hrest
      exact hd List.mem_cons_self
    rw [List.nil_append, breakOn, hhead]
    rfl
  | cons c p ih =>
    rw [breakOn] at h
    rw [List.cons_append, breakOn, ← List.cons_append, after?_cut hd]
    cases hrest : after? needle (c :: p) with
    | some rest =>
      rw [hrest] at h
      cases h
    | none =>
      rw [hrest] at h
      rw [Option.map_none, ih (Option.map_eq_none_iff.1 h), Option.map_map]
      rfl

/-- An occurrence lies before or after a character that is not in the needle. -/
theorem isInfix_cut (hd : d ∉ needle) :
    needle <:+: p ++ d :: q ↔ needle <:+: p ∨ needle <:+: q := by
  constructor
  · intro h
    by_contra hnot
    obtain ⟨hp, hq⟩ := not_or.1 hnot
    have hnone := breakOn_cut_of_none hd hp q
    rw [breakOn_eq_none_iff.2 hq] at hnone
    exact breakOn_eq_none_iff.1 hnone h
  · rintro (h | h)
    · exact h.trans (List.prefix_append p _).isInfix
    · exact h.trans ((List.suffix_cons d q).trans (List.suffix_append p _)).isInfix

/-! ## Texts without the needle's characters -/

theorem not_isInfix_of_disjoint (hne : needle ≠ []) (h : List.Disjoint s needle) :
    ¬needle <:+: s := by
  intro hinside
  obtain ⟨c, needle, rfl⟩ := List.exists_cons_of_ne_nil hne
  exact h (hinside.subset List.mem_cons_self) List.mem_cons_self

/-- A search passes over what shares no character with the needle. -/
theorem breakOn_disjoint_append (hne : needle ≠ []) (h : List.Disjoint p needle) (s : List Char) :
    breakOn needle (p ++ s) =
      (breakOn needle s).map fun (before, after) => (p ++ before, after) := by
  induction p with
  | nil =>
    simp
  | cons c p ih =>
    obtain ⟨hc, hp⟩ := List.disjoint_cons_left.1 h
    have hcut := breakOn_cut_of_none (p := []) hc (fun hinside => hne (List.infix_nil.1 hinside))
      (p ++ s)
    rw [List.nil_append] at hcut
    rw [List.cons_append, hcut, ih hp, Option.map_map]
    rfl

theorem isInfix_disjoint_append (hne : needle ≠ []) (h : List.Disjoint p needle) :
    needle <:+: p ++ s ↔ needle <:+: s := by
  rw [← not_iff_not, ← breakOn_eq_none_iff, ← breakOn_eq_none_iff, breakOn_disjoint_append hne h,
    Option.map_eq_none_iff]

/-- It does not look past what is found, nor into what cannot be part of the needle. -/
theorem breakOn_append_disjoint (hne : needle ≠ []) (h : List.Disjoint q needle) (s : List Char) :
    breakOn needle (s ++ q) =
      (breakOn needle s).map fun (before, after) => (before, after ++ q) := by
  cases q with
  | nil =>
    rw [List.append_nil]
    simp
  | cons d q =>
    obtain ⟨hd, hq⟩ := List.disjoint_cons_left.1 h
    cases hs : breakOn needle s with
    | some found => exact breakOn_cut hd hs q
    | none =>
      have hq' : breakOn needle q = none :=
        breakOn_eq_none_iff.2 (not_isInfix_of_disjoint hne hq)
      rw [breakOn_cut_of_none hd (breakOn_eq_none_iff.1 hs), hq']
      rfl

/-! ## The text up to a needle -/

theorem upTo_of_not_isInfix (h : ¬needle <:+: s) : upTo needle s = s := by
  rw [upTo, breakOn_eq_none_iff.2 h]

theorem upTo_self (hne : needle ≠ []) (s : List Char) : upTo needle (needle ++ s) = [] := by
  rw [upTo, breakOn_self hne]

theorem upTo_cut_of_none (hd : d ∉ needle) (h : ¬needle <:+: p) (q : List Char) :
    upTo needle (p ++ d :: q) = p ++ d :: upTo needle q := by
  rw [upTo, upTo, breakOn_cut_of_none hd h]
  cases breakOn needle q with
  | none => rfl
  | some found => rfl

theorem upTo_disjoint_append (hne : needle ≠ []) (h : List.Disjoint p needle) (s : List Char) :
    upTo needle (p ++ s) = p ++ upTo needle s := by
  rw [upTo, upTo, breakOn_disjoint_append hne h]
  cases breakOn needle s with
  | none => rfl
  | some found => rfl

/-- What cannot be part of the needle stays at the end or goes with it. -/
theorem upTo_append_disjoint (hne : needle ≠ []) (h : List.Disjoint q needle) (s : List Char) :
    upTo needle (s ++ q) = upTo needle s ++ q ∨ upTo needle (s ++ q) = upTo needle s := by
  rw [upTo, upTo, breakOn_append_disjoint hne h]
  cases breakOn needle s with
  | none => exact .inl rfl
  | some found => exact .inr rfl

/-! ## Pieces and words -/

variable {sep : Char → Bool}

theorem pieces_cut (hd : sep d = true) (p q : List Char) :
    pieces sep (p ++ d :: q) = pieces sep p ++ pieces sep q := by
  induction p with
  | nil =>
    show pieces sep (d :: q) = [] :: pieces sep q
    rw [pieces_cons, if_pos hd]
  | cons c p ih =>
    rw [List.cons_append, pieces_cons, pieces_cons, ih]
    by_cases hc : sep c
    · rw [if_pos hc, if_pos hc, List.cons_append]
    · obtain ⟨piece, rest, hp⟩ := List.exists_cons_of_ne_nil (pieces_ne_nil sep p)
      rw [if_neg hc, if_neg hc, hp]
      rfl

theorem pieces_of_forall_not (h : ∀ c ∈ s, sep c = false) : pieces sep s = [s] := by
  induction s with
  | nil => rfl
  | cons c s ih =>
    obtain ⟨hc, hs⟩ := List.forall_mem_cons.1 h
    rw [pieces_cons, if_neg (by simp [hc]), ih hs]
    rfl

theorem pieces_of_not_mem (h : d ∉ s) : pieces (· == d) s = [s] := by
  refine pieces_of_forall_not fun c hc => ?_
  rw [beq_eq_false_iff_ne]
  rintro rfl
  exact h hc

/-- The pieces that are not empty. -/
def words (sep : Char → Bool) (s : List Char) : List (List Char) := (pieces sep s).filter (· != [])

theorem words_cut (hd : sep d = true) (p q : List Char) :
    words sep (p ++ d :: q) = words sep p ++ words sep q := by
  rw [words, words, words, pieces_cut hd, List.filter_append]

theorem words_cons (hd : sep d = true) (s : List Char) : words sep (d :: s) = words sep s :=
  words_cut hd [] s

theorem words_of_forall_not (hne : s ≠ []) (h : ∀ c ∈ s, sep c = false) : words sep s = [s] := by
  rw [words, pieces_of_forall_not h]
  simp [hne]

theorem words_of_forall (h : ∀ c ∈ s, sep c = true) : words sep s = [] := by
  induction s with
  | nil => rfl
  | cons c s ih =>
    obtain ⟨hc, hs⟩ := List.forall_mem_cons.1 h
    rw [words_cons hc, ih hs]

theorem words_forall_append (h : ∀ c ∈ p, sep c = true) (s : List Char) :
    words sep (p ++ s) = words sep s := by
  induction p with
  | nil => rfl
  | cons c p ih =>
    obtain ⟨hc, hp⟩ := List.forall_mem_cons.1 h
    rw [List.cons_append, words_cons hc, ih hp]

theorem words_append_forall (h : ∀ c ∈ q, sep c = true) (s : List Char) :
    words sep (s ++ q) = words sep s := by
  cases q with
  | nil => rw [List.append_nil]
  | cons d q =>
    obtain ⟨hd, hq⟩ := List.forall_mem_cons.1 h
    rw [words_cut hd, words_of_forall hq, List.append_nil]

/-! ## Blanks around a text -/

/-- The second text is the first one with blanks around it. -/
def Framed (t s : List Char) : Prop :=
  ∃ p q, (∀ c ∈ p, isBlank c = true) ∧ (∀ c ∈ q, isBlank c = true) ∧ s = p ++ t ++ q

theorem allBlank_iff : allBlank s = true ↔ ∀ c ∈ s, isBlank c = true := by
  rw [allBlank, List.all_eq_true]

theorem allBlank_append (hq : ∀ c ∈ q, isBlank c = true) (p : List Char) :
    allBlank (p ++ q) = allBlank p := by
  rw [allBlank, List.all_append, List.all_eq_true.2 hq, Bool.and_true, allBlank]

/-- Blanks at the end are left alone by what is taken from the start, if anything is left there. -/
theorem trimStart_append (p q : List Char) :
    trimStart (p ++ q) = if allBlank p then trimStart q else trimStart p ++ q := by
  rw [trimStart, trimStart, trimStart, List.dropWhile_append]
  refine ite_congr ?_ (fun _ => rfl) fun _ => rfl
  rw [List.isEmpty_iff, List.dropWhile_eq_nil_iff, allBlank_iff]

theorem disjoint_of_blank (hs : ∀ c ∈ s, isBlank c = true)
    (hneedle : needle.any isBlank = false) : List.Disjoint s needle := by
  intro c hc hc'
  exact List.any_eq_false.1 hneedle c hc' (hs c hc)

theorem exists_dropEndWhile (p : Char → Bool) (s : List Char) :
    ∃ q, (∀ c ∈ q, p c = true) ∧ s = dropEndWhile p s ++ q := by
  refine ⟨(s.reverse.takeWhile p).reverse, fun c hc => ?_, ?_⟩
  · exact List.mem_takeWhile_imp (List.mem_reverse.1 hc)
  · rw [dropEndWhile, ← List.reverse_append, List.takeWhile_append_dropWhile, List.reverse_reverse]

theorem head_dropWhile (f : Char → Bool) (t : List Char) :
    ∀ c ∈ (t.dropWhile f).head?, f c = false := by
  intro c hc
  have hnot := List.head?_dropWhile_not f t
  rw [hc] at hnot
  exact hnot

theorem last_dropEndWhile (f : Char → Bool) (t : List Char) :
    ∀ c ∈ (dropEndWhile f t).getLast?, f c = false := by
  rw [dropEndWhile, List.getLast?_reverse]
  exact head_dropWhile f t.reverse

theorem framed_trim (s : List Char) : Framed (trim s) s := by
  obtain ⟨q, hq, hend⟩ := exists_dropEndWhile isBlank (trimStart s)
  refine ⟨s.takeWhile isBlank, q, fun c hc => List.mem_takeWhile_imp hc, hq, ?_⟩
  rw [List.append_assoc, trim, trimEnd, ← hend]
  exact List.takeWhile_append_dropWhile.symm

/-- A needle without blanks is not sought in the frame. -/
theorem Framed.upTo {t : List Char} (h : Framed t s) (hne : needle ≠ [])
    (hneedle : needle.any isBlank = false) : Framed (upTo needle t) (upTo needle s) := by
  obtain ⟨p, q, hp, hq, rfl⟩ := h
  rw [List.append_assoc, upTo_disjoint_append hne (disjoint_of_blank hp hneedle)]
  rcases upTo_append_disjoint hne (disjoint_of_blank hq hneedle) t with hkept | hgone
  · exact ⟨p, q, hp, hq, by rw [hkept, List.append_assoc]⟩
  · exact ⟨p, [], hp, by simp, by rw [hgone, List.append_nil]⟩

/-- Nor do the blanks count as words. -/
theorem Framed.words {t : List Char} (h : Framed t s)
    (hsep : ∀ c, isBlank c = true → sep c = true) : words sep s = words sep t := by
  obtain ⟨p, q, hp, hq, rfl⟩ := h
  rw [words_append_forall fun c hc => hsep c (hq c hc),
    words_forall_append fun c hc => hsep c (hp c hc)]

end TreeLint.Text
