import TreeLint.Proofs.TextSearch
import TreeLint.Tree.TypeName

/-!
# How types are written

A written type is a name with a qualifier before it and array brackets after it, with blanks around
all this and generics at the end. Every text can be read in this way (`exists_spelling`), and its
simple name is the name that is read (`simpleTypeChars_text`). Is this a normal form?

**Theorem (`simpleType_normal_iff`).** It is, but for gaps. The simple name stands in the text; it
has no `<` and no qualifier, and does not end in array brackets. But blanks are trimmed before
brackets and qualifiers are cut off, and not again after that. So the name starts with a blank iff
one follows the last qualifier, and ends in a blank iff one stands before the array brackets; iff
neither is the case, it is its own simple name.

The last part holds because the texts that are their own simple names are those with nothing to cut
off (`simpleTypeChars_eq_self_iff`).
-/

namespace TreeLint

namespace Text

variable {s t p q suffix : List Char}

/-! ## Trimmed texts -/

/-- Neither end of the text is blank. -/
structure IsTrimmed (t : List Char) : Prop where
  head : ∀ c ∈ t.head?, isBlank c = false
  last : ∀ c ∈ t.getLast?, isBlank c = false

theorem dropWhile_of_head {f : Char → Bool} (h : ∀ c ∈ t.head?, f c = false) :
    t.dropWhile f = t := by
  cases t with
  | nil => rfl
  | cons c t => exact List.dropWhile_cons_of_neg (by simpa using h c rfl)

theorem trim_of_isTrimmed (ht : IsTrimmed t) (hp : ∀ c ∈ p, isBlank c = true)
    (hq : ∀ c ∈ q, isBlank c = true) : trim (p ++ t ++ q) = t := by
  have hq' : ∀ c ∈ q.reverse, isBlank c = true := fun c hc => hq c (List.mem_reverse.1 hc)
  have hlast : ∀ c ∈ t.reverse.head?, isBlank c = false := by
    rw [List.head?_reverse]
    exact ht.last
  rw [List.append_assoc, trim, trimStart, List.dropWhile_append_of_pos hp]
  cases t with
  | nil =>
    have hgone : q.dropWhile isBlank = [] := List.dropWhile_eq_nil_iff.2 hq
    rw [List.nil_append, hgone]
    rfl
  | cons c t =>
    rw [dropWhile_of_head (t := c :: t ++ q) (by simpa using ht.head c rfl), trimEnd, dropEndWhile,
      List.reverse_append, List.dropWhile_append_of_pos hq', dropWhile_of_head hlast,
      List.reverse_reverse]

theorem isTrimmed_trim (s : List Char) : IsTrimmed (trim s) := by
  refine ⟨fun c hc => ?_, last_dropEndWhile isBlank (trimStart s)⟩
  -- The first character that is left is the first one that `trimStart` leaves.
  obtain ⟨q, -, hq⟩ := exists_dropEndWhile isBlank (trimStart s)
  refine head_dropWhile isBlank s c ?_
  rw [trim, trimEnd] at hc
  rw [← trimStart, hq, List.head?_append, hc]
  rfl

/-! ## Copies at the end -/

/-- The text `k` times. -/
def copies (k : Nat) (t : List Char) : List Char := (List.replicate k t).flatten

theorem copies_succ (k : Nat) (t : List Char) : copies (k + 1) t = t ++ copies k t := by
  rw [copies, List.replicate_succ, List.flatten_cons, copies]

theorem copies_succ' (k : Nat) (t : List Char) : copies (k + 1) t = copies k t ++ t := by
  rw [copies, List.replicate_succ', List.flatten_append, List.flatten_singleton, copies]

theorem reverse_copies (k : Nat) (t : List Char) : (copies k t).reverse = copies k t.reverse := by
  induction k with
  | zero => rfl
  | succ k ih => rw [copies_succ, copies_succ', List.reverse_append, ih]

/-- Every text ends in some number of copies. -/
theorem exists_copies (hne : suffix ≠ []) (s : List Char) :
    ∃ t k, s = t ++ copies k suffix ∧ ¬suffix <:+ t := by
  induction hn : s.length using Nat.strongRecOn generalizing s with
  | ind n ih =>
    by_cases h : suffix <:+ s
    · obtain ⟨r, rfl⟩ := h
      have hlen : 0 < suffix.length := List.length_pos_of_ne_nil hne
      obtain ⟨t, k, rfl, ht⟩ := ih r.length (by rw [← hn, List.length_append]; omega) r rfl
      exact ⟨t, k + 1, by rw [copies_succ', List.append_assoc], ht⟩
    · exact ⟨s, 0, by simp [copies], h⟩

theorem go_copies {tail rest : List Char} (hne : tail ≠ []) (hrest : ¬tail <+: rest) {k fuel : Nat}
    (h : (copies k tail ++ rest).length ≤ fuel) :
    dropEndCopies.go tail fuel (copies k tail ++ rest) = rest := by
  induction k generalizing fuel with
  | zero =>
    cases fuel with
    | zero => rfl
    | succ fuel =>
      have hstop : after? tail (copies 0 tail ++ rest) = none := after?_eq_none_iff.2 hrest
      rw [dropEndCopies.go, hstop]
      rfl
  | succ k ih =>
    have hpos : 0 < tail.length := List.length_pos_of_ne_nil hne
    rw [copies_succ, List.append_assoc, List.length_append] at h
    cases fuel with
    | zero => omega
    | succ fuel =>
      rw [copies_succ, List.append_assoc, dropEndCopies.go, after?_self]
      exact ih (by omega)

theorem dropEndCopies_append_copies (hne : suffix ≠ []) (ht : ¬suffix <:+ t) (k : Nat) :
    dropEndCopies suffix (t ++ copies k suffix) = t := by
  have hne' : suffix.reverse ≠ [] := by simpa using hne
  have ht' : ¬suffix.reverse <+: t.reverse := by rwa [List.reverse_prefix]
  rw [dropEndCopies, List.reverse_append, reverse_copies, go_copies hne' ht', List.reverse_reverse]
  rw [← reverse_copies, ← List.reverse_append, List.length_reverse]

end Text

open Text

/-! ## Brackets and blanks -/

theorem of_mem_brackets {c : Char} {k : Nat} (h : c ∈ copies k ['[', ']']) :
    isBlank c = false ∧ isQualifierEnd c = false ∧ c ≠ '<' := by
  obtain ⟨l, hl, hmem⟩ := List.mem_flatten.1 h
  rw [List.eq_of_mem_replicate hl] at hmem
  obtain rfl | rfl : c = '[' ∨ c = ']' := by simpa using hmem
  · decide
  · decide

theorem not_isQualifierEnd_of_isBlank {c : Char} (h : isBlank c = true) :
    isQualifierEnd c = false := by
  rw [isQualifierEnd, Bool.or_eq_false_iff, beq_eq_false_iff_ne, beq_eq_false_iff_ne]
  constructor
  · rintro rfl
    exact absurd h (by decide)
  · rintro rfl
    exact absurd h (by decide)

/-! ## Spellings -/

/-- A way to read a written type: blanks, a qualifier, a name, array brackets, blanks, generics. -/
structure Spelling where
  lead : List Char
  qualifier : List Char
  name : List Char
  /-- The number of array brackets. -/
  arrays : Nat
  trail : List Char
  generics : List Char
  lead_blank : ∀ c ∈ lead, isBlank c = true
  trail_blank : ∀ c ∈ trail, isBlank c = true
  trimmed : IsTrimmed (qualifier ++ name ++ copies arrays ['[', ']'])
  qualifier_ends : ∀ c ∈ qualifier.getLast?, isQualifierEnd c = true
  unqualified_name : ∀ c ∈ name, isQualifierEnd c = false
  bare : ¬['[', ']'] <:+ qualifier ++ name
  plain : '<' ∉ qualifier ++ name
  generics_start : ∀ c ∈ generics.head?, c = '<'

namespace Spelling

variable (w : Spelling)

/-- What is written between the blanks. -/
def middle : List Char := w.qualifier ++ w.name ++ copies w.arrays ['[', ']']

/-- What is written before the generics. -/
def front : List Char := w.lead ++ w.middle ++ w.trail

/-- The written type. -/
def text : List Char := w.front ++ w.generics

theorem notMem_front : '<' ∉ w.front := by
  have hbrackets : '<' ∉ copies w.arrays ['[', ']'] := fun h => (of_mem_brackets h).2.2 rfl
  have hlead : '<' ∉ w.lead := fun h => absurd (w.lead_blank _ h) (by decide)
  have htrail : '<' ∉ w.trail := fun h => absurd (w.trail_blank _ h) (by decide)
  simp only [front, middle, List.mem_append, not_or]
  exact ⟨⟨hlead, by simpa using w.plain, hbrackets⟩, htrail⟩

theorem upTo_text : upTo ['<'] w.text = w.front := by
  have hfront : List.Disjoint w.front ['<'] := by
    rw [List.disjoint_singleton]
    exact w.notMem_front
  rw [text, upTo_disjoint_append (by simp) hfront]
  have hgone : upTo ['<'] w.generics = [] := by
    have hstart := w.generics_start
    cases hg : w.generics with
    | nil => rfl
    | cons c g =>
      rw [hg] at hstart
      obtain rfl : c = '<' := hstart c rfl
      exact upTo_self (by simp) g
  rw [hgone, List.append_nil]

theorem trim_front : trim w.front = w.middle :=
  trim_of_isTrimmed w.trimmed w.lead_blank w.trail_blank

end Spelling

theorem unqualified_append {q n : List Char} (hq : ∀ c ∈ q.getLast?, isQualifierEnd c = true)
    (hn : ∀ c ∈ n, isQualifierEnd c = false) : unqualified (q ++ n) = n := by
  have hkept : ∀ c ∈ n.reverse, (!isQualifierEnd c) = true := fun c hc => by
    rw [hn c (List.mem_reverse.1 hc)]
    rfl
  have hcut : q.reverse.takeWhile (!isQualifierEnd ·) = [] := by
    rcases List.eq_nil_or_concat' q with rfl | ⟨q, d, rfl⟩
    · rfl
    · have hd : isQualifierEnd d = true := hq d (by rw [List.getLast?_concat]; rfl)
      rw [List.reverse_append, List.reverse_singleton, List.singleton_append,
        List.takeWhile_cons_of_neg (by simp [hd])]
  rw [unqualified, List.reverse_append, List.takeWhile_append_of_pos hkept, hcut, List.append_nil,
    List.reverse_reverse]

theorem exists_unqualified (t : List Char) :
    ∃ q n, t = q ++ n ∧ (∀ c ∈ q.getLast?, isQualifierEnd c = true) ∧
      ∀ c ∈ n, isQualifierEnd c = false := by
  obtain ⟨n, hn, ht⟩ := exists_dropEndWhile (!isQualifierEnd ·) t
  refine ⟨_, n, ht, fun c hc => ?_, fun c hc => by simpa using hn c hc⟩
  simpa using last_dropEndWhile (!isQualifierEnd ·) t c hc

/-- **A simple name is the name of the spelling.** -/
theorem simpleTypeChars_text (w : Spelling) : simpleTypeChars w.text = w.name := by
  rw [simpleTypeChars, w.upTo_text, w.trim_front, Spelling.middle,
    dropEndCopies_append_copies (by simp) w.bare,
    unqualified_append w.qualifier_ends w.unqualified_name]

/-- **Every text is spelled in some way.** -/
theorem exists_spelling (s : List Char) : ∃ w : Spelling, w.text = s := by
  let front := s.takeWhile (· != '<')
  have hplain : '<' ∉ front := by
    intro h
    have hne := List.mem_takeWhile_imp h
    simp at hne
  have hne : ['[', ']'] ≠ [] := List.cons_ne_nil _ _
  obtain ⟨lead, trail, hlead, htrail, hfront⟩ := framed_trim front
  obtain ⟨t, k, hmiddle, hbare⟩ := exists_copies hne (trim front)
  obtain ⟨q, n, rfl, hq, hn⟩ := exists_unqualified t
  have hsub : q ++ n ⊆ front := by
    rw [hfront, hmiddle]
    intro c hc
    simp only [List.mem_append] at hc ⊢
    exact .inl (.inr (.inl hc))
  refine ⟨⟨lead, q, n, k, trail, s.dropWhile (· != '<'), hlead, htrail, ?_, hq, hn, hbare,
    fun h => hplain (hsub h), fun c hc => ?_⟩, ?_⟩
  · rw [← hmiddle]
    exact isTrimmed_trim front
  · simpa using head_dropWhile (· != '<') s c hc
  · show lead ++ (q ++ n ++ copies k ['[', ']']) ++ trail ++ s.dropWhile (· != '<') = s
    rw [← hmiddle, ← hfront]
    exact List.takeWhile_append_dropWhile

/-! ## Gaps -/

/-- The written type without its generics and the blanks around it. -/
def writtenType (s : List Char) : List Char := trim (upTo ['<'] s)

/-- A blank follows the last qualifier. -/
def GapAfterQualifier (s : List Char) : Prop :=
  ∃ p c b q, writtenType s = p ++ c :: b :: q ∧ isQualifierEnd c = true ∧ isBlank b = true ∧
    ∀ d ∈ q, isQualifierEnd d = false

/-- A blank stands before the array brackets at the end. -/
def GapBeforeBrackets (s : List Char) : Prop :=
  ∃ p b k, writtenType s = p ++ b :: copies (k + 1) ['[', ']'] ∧ isBlank b = true

namespace Spelling

variable (w : Spelling)

theorem writtenType_text : writtenType w.text = w.middle := by
  rw [writtenType, upTo_text, trim_front]

/-- **A name starts with a blank** iff one follows the last qualifier. -/
theorem gapAfterQualifier_text :
    GapAfterQualifier w.text ↔ ∃ b ∈ w.name.head?, isBlank b = true := by
  rw [GapAfterQualifier, writtenType_text]
  constructor
  · rintro ⟨p, c, b, q, hmiddle, hc, hb, hq⟩
    -- What follows the last qualifier is the name with its brackets.
    have hends : ∀ d ∈ (p ++ [c]).getLast?, isQualifierEnd d = true := by simpa using hc
    have hrest : ∀ d ∈ b :: q, isQualifierEnd d = false :=
      List.forall_mem_cons.2 ⟨not_isQualifierEnd_of_isBlank hb, hq⟩
    have hname : ∀ d ∈ w.name ++ copies w.arrays ['[', ']'], isQualifierEnd d = false :=
      List.forall_mem_append.2 ⟨w.unqualified_name, fun d hd => (of_mem_brackets hd).2.1⟩
    have hsame : w.name ++ copies w.arrays ['[', ']'] = b :: q := by
      rw [← unqualified_append w.qualifier_ends hname, ← unqualified_append hends hrest,
        ← List.append_assoc, ← middle, hmiddle, List.append_assoc, List.singleton_append]
    cases hn : w.name with
    | nil =>
      rw [hn, List.nil_append] at hsame
      have hbracket : b ∈ copies w.arrays ['[', ']'] := by rw [hsame]; exact List.mem_cons_self
      rw [(of_mem_brackets hbracket).1] at hb
      cases hb
    | cons d n =>
      rw [hn] at hsame
      obtain ⟨rfl, -⟩ := List.cons.inj hsame
      exact ⟨d, rfl, hb⟩
  · rintro ⟨b, hb, hblank⟩
    obtain ⟨n, hn⟩ : ∃ n, w.name = b :: n := List.head?_eq_some_iff.1 hb
    rcases List.eq_nil_or_concat' w.qualifier with hq | ⟨p, c, hq⟩
    · have hhead := w.trimmed.head b (by rw [hq, hn]; rfl)
      rw [hblank] at hhead
      cases hhead
    · refine ⟨p, c, b, n ++ copies w.arrays ['[', ']'], ?_, w.qualifier_ends c ?_, hblank, ?_⟩
      · rw [middle, hq, hn]
        simp
      · rw [hq, List.getLast?_concat]
        rfl
      · have hunqualified := w.unqualified_name
        rw [hn] at hunqualified
        exact List.forall_mem_append.2
          ⟨(List.forall_mem_cons.1 hunqualified).2, fun d hd => (of_mem_brackets hd).2.1⟩

/-- **A name ends in a blank** iff one stands before the array brackets. -/
theorem gapBeforeBrackets_text :
    GapBeforeBrackets w.text ↔ ∃ b ∈ w.name.getLast?, isBlank b = true := by
  rw [GapBeforeBrackets, writtenType_text]
  constructor
  · rintro ⟨p, b, k, hmiddle, hb⟩
    -- What stands before the brackets is the name with its qualifier.
    have hsame : w.qualifier ++ w.name = p ++ [b] := by
      have hbare : ¬['[', ']'] <:+ p ++ [b] := by
        rintro ⟨r, hr⟩
        have hlast := congrArg List.getLast? hr
        obtain rfl : ']' = b := by simpa using hlast
        exact absurd hb (by decide)
      rw [← dropEndCopies_append_copies (by simp) w.bare w.arrays,
        ← dropEndCopies_append_copies (by simp) hbare (k + 1), ← middle, hmiddle,
        List.append_assoc, List.singleton_append]
    rcases List.eq_nil_or_concat' w.name with hn | ⟨n, c, hn⟩
    · rw [hn, List.append_nil] at hsame
      have hends := w.qualifier_ends b (by rw [hsame, List.getLast?_concat]; rfl)
      rw [not_isQualifierEnd_of_isBlank hb] at hends
      cases hends
    · rw [hn, ← List.append_assoc] at hsame
      obtain rfl : c = b := by simpa using congrArg List.getLast? hsame
      exact ⟨c, by rw [hn, List.getLast?_concat]; rfl, hb⟩
  · rintro ⟨b, hb, hblank⟩
    obtain ⟨n, hn⟩ : ∃ n, w.name = n ++ [b] := List.getLast?_eq_some_iff.1 hb
    cases hk : w.arrays with
    | zero =>
      have hlast := w.trimmed.last b (by rw [hk, hn]; simp [copies])
      rw [hblank] at hlast
      cases hlast
    | succ k =>
      refine ⟨w.qualifier ++ n, b, k, ?_, hblank⟩
      rw [middle, hk, hn]
      simp

end Spelling

/-! ## Normal form -/

/-- A type name without anything to cut off. -/
structure IsSimpleName (n : List Char) : Prop where
  trimmed : IsTrimmed n
  plain : '<' ∉ n
  unqualified : ∀ c ∈ n, isQualifierEnd c = false
  bare : ¬['[', ']'] <:+ n

/-- A simple name is a spelling of itself. -/
def Spelling.ofName {n : List Char} (h : IsSimpleName n) : Spelling where
  lead := []
  qualifier := []
  name := n
  arrays := 0
  trail := []
  generics := []
  lead_blank := by simp
  trail_blank := by simp
  trimmed := by simpa [copies] using h.trimmed
  qualifier_ends := by simp
  unqualified_name := h.unqualified
  bare := h.bare
  plain := h.plain
  generics_start := by simp

theorem Spelling.text_ofName {n : List Char} (h : IsSimpleName n) : (ofName h).text = n := by
  simp [ofName, text, front, middle, copies]

/-- A spelling as long as its name has nothing else. -/
theorem Spelling.isSimpleName_of_text (w : Spelling) (h : w.text = w.name) :
    IsSimpleName w.name := by
  have hlen := congrArg List.length h
  simp only [text, front, middle, List.length_append] at hlen
  have hq : w.qualifier = [] := List.length_eq_zero_iff.1 (by omega)
  have hk : copies w.arrays ['[', ']'] = [] := List.length_eq_zero_iff.1 (by omega)
  have htrimmed := w.trimmed
  have hplain := w.plain
  have hbare := w.bare
  rw [hq, List.nil_append] at htrimmed hplain hbare
  rw [hk, List.append_nil] at htrimmed
  exact ⟨htrimmed, hplain, w.unqualified_name, hbare⟩

/-- **The normal forms** are the simple names. -/
theorem simpleTypeChars_eq_self_iff {n : List Char} : simpleTypeChars n = n ↔ IsSimpleName n := by
  constructor
  · intro h
    obtain ⟨w, rfl⟩ := exists_spelling n
    rw [simpleTypeChars_text] at h
    rw [← h]
    exact w.isSimpleName_of_text h.symm
  · intro h
    have hname := simpleTypeChars_text (.ofName h)
    rw [Spelling.text_ofName] at hname
    exact hname

theorem isTrimmed_iff {n : List Char} :
    IsTrimmed n ↔ ¬(∃ b ∈ n.head?, isBlank b = true) ∧ ¬∃ b ∈ n.getLast?, isBlank b = true := by
  constructor
  · rintro ⟨hhead, hlast⟩
    exact ⟨fun ⟨b, hb, hblank⟩ => by simp [hhead b hb] at hblank,
      fun ⟨b, hb, hblank⟩ => by simp [hlast b hb] at hblank⟩
  · rintro ⟨hhead, hlast⟩
    exact ⟨fun b hb => by simpa using fun h => hhead ⟨b, hb, h⟩,
      fun b hb => by simpa using fun h => hlast ⟨b, hb, h⟩⟩

namespace Spelling

variable (w : Spelling)

theorem name_isInfix : w.name <:+: w.text :=
  ⟨w.lead ++ w.qualifier, copies w.arrays ['[', ']'] ++ w.trail ++ w.generics, by
    simp [text, front, middle]⟩

theorem notMem_name : '<' ∉ w.name := fun h => w.plain (List.mem_append_right _ h)

theorem not_brackets_suffix_name : ¬['[', ']'] <:+ w.name :=
  fun h => w.bare (h.trans (List.suffix_append _ _))

/-- A name that is read is simple unless it starts or ends in a blank. -/
theorem isSimpleName_iff : IsSimpleName w.name ↔ IsTrimmed w.name :=
  ⟨IsSimpleName.trimmed,
    fun h => ⟨h, w.notMem_name, w.unqualified_name, w.not_brackets_suffix_name⟩⟩

end Spelling

/-- **Simple names are normal forms but for gaps.** The simple name of a type stands in the text,
without generics, qualifiers and array brackets at its end. It starts with a blank iff one follows
the last qualifier, and it ends in a blank iff one stands before the array brackets. It is its own
simple name iff neither is the case. However the text is spelled, it is the name in it. -/
theorem simpleType_normal_iff (s : String) :
    ((simpleType s).toList <:+: s.toList ∧
      ('<' ∉ (simpleType s).toList ∧ '.' ∉ (simpleType s).toList ∧ ':' ∉ (simpleType s).toList) ∧
      ¬['[', ']'] <:+ (simpleType s).toList) ∧
    ((∃ b ∈ (simpleType s).toList.head?, isBlank b = true) ↔ GapAfterQualifier s.toList) ∧
    ((∃ b ∈ (simpleType s).toList.getLast?, isBlank b = true) ↔ GapBeforeBrackets s.toList) ∧
    (simpleType (simpleType s) = simpleType s ↔
      ¬GapAfterQualifier s.toList ∧ ¬GapBeforeBrackets s.toList) ∧
    ∀ m, (∃ w : Spelling, w.text = s.toList ∧ w.name = m) ↔ (simpleType s).toList = m := by
  set n := (simpleType s).toList
  have hchars : n = simpleTypeChars s.toList := String.toList_ofList
  obtain ⟨w, hw⟩ := exists_spelling s.toList
  have hn : n = w.name := by rw [hchars, ← hw, simpleTypeChars_text]
  have hinside : n <:+: s.toList := by
    rw [hn, ← hw]
    exact w.name_isInfix
  have hplain : '<' ∉ n ∧ '.' ∉ n ∧ ':' ∉ n := by
    have hdot : '.' ∉ w.name := fun h => absurd (w.unqualified_name _ h) (by decide)
    have hcolon : ':' ∉ w.name := fun h => absurd (w.unqualified_name _ h) (by decide)
    rw [hn]
    exact ⟨w.notMem_name, hdot, hcolon⟩
  have hbare : ¬['[', ']'] <:+ n := by
    rw [hn]
    exact w.not_brackets_suffix_name
  have hafter : GapAfterQualifier s.toList ↔ ∃ b ∈ n.head?, isBlank b = true := by
    rw [hn, ← hw]
    exact w.gapAfterQualifier_text
  have hbefore : GapBeforeBrackets s.toList ↔ ∃ b ∈ n.getLast?, isBlank b = true := by
    rw [hn, ← hw]
    exact w.gapBeforeBrackets_text
  have hself : simpleType (simpleType s) = simpleType s ↔ IsTrimmed n := by
    calc simpleType (simpleType s) = simpleType s
        ↔ simpleTypeChars n = n := by
          rw [← String.toList_inj]
          exact Eq.congr_left String.toList_ofList
      _ ↔ IsTrimmed n := by
          rw [simpleTypeChars_eq_self_iff, hn, w.isSimpleName_iff]
  refine ⟨⟨hinside, hplain, hbare⟩, hafter.symm, hbefore.symm, ?_, fun m => ⟨?_, ?_⟩⟩
  · rw [hself, isTrimmed_iff, hafter, hbefore]
  · rintro ⟨w', hw', rfl⟩
    rw [hchars, ← hw', simpleTypeChars_text]
  · rintro rfl
    exact ⟨w, hw, hn.symm⟩

/-- A blank before array brackets or after a qualifier stays in the name, so the spellings of one
type differ, and the name of the name is another one. -/
theorem blank_kept_in_name :
    simpleType "String []" = "String " ∧ simpleType "java.lang. String" = " String" ∧
    simpleType "java.lang.String[]" = "String" ∧
    simpleType (simpleType "String []") ≠ simpleType "String []" ∧
    simpleType (simpleType "java.lang. String") ≠ simpleType "java.lang. String" := by
  decide +kernel

end TreeLint
