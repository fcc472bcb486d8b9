import Mathlib.Data.List.Basic
import TreeLint.Proofs.TextSearch
import TreeLint.Regex.Reader

/-!
# Reading a pattern looks no further than it has to

A pattern may stand by itself or in front of more text, as an alternative of a larger pattern does.
The readers look at most at the character after what they read, so that a `|` or a `)` which
follows changes nothing: a reader that reads `s` and leaves `rest` reads `s ++ t` and leaves
`rest ++ t` (`step?_append`).

In verbose mode there is one exception. Where nothing is left after blanks and a comment, the
comment would go on in what follows. So the reader has to leave something, or not be verbose.
-/

namespace TreeLint.Regex

/-! ## Blanks and comments -/

variable {f : Flags} {s t rest : List Char}

theorem skipSpace_append {inComment : Bool} (h : skipSpace inComment s ≠ []) :
    skipSpace inComment (s ++ t) = skipSpace inComment s ++ t := by
  fun_induction skipSpace inComment s with
  | case1 => simp at h
  | case2 c s ih => rw [List.cons_append, skipSpace, ih h]
  | case3 c s hblank ih => rw [List.cons_append, skipSpace, if_pos hblank, ih h]
  | case4 c s hblank hsign ih =>
    rw [List.cons_append, skipSpace, if_neg hblank, if_pos hsign, ih h]
  | case5 c s hblank hsign => rw [List.cons_append, skipSpace, if_neg hblank, if_neg hsign]

theorem length_skipSpace_le (inComment : Bool) (s : List Char) :
    (skipSpace inComment s).length ≤ s.length := by
  fun_induction skipSpace inComment s with
  | case1 => simp
  | case2 c s ih => exact Nat.le_succ_of_le ih
  | case3 c s _ ih => exact Nat.le_succ_of_le ih
  | case4 c s _ _ ih => exact Nat.le_succ_of_le ih
  | case5 c s => exact Nat.le_refl _

theorem Flags.skip_append (h : f.verbose → f.skip s ≠ []) : f.skip (s ++ t) = f.skip s ++ t := by
  unfold skip at h ⊢
  split
  · next hverbose => exact skipSpace_append (by simpa [hverbose] using h)
  · rfl

/-- What is left after blanks is left when more text follows. -/
theorem Flags.skip_append_of_eq {c : Char} (h : f.skip s = c :: rest) :
    f.skip (s ++ t) = c :: (rest ++ t) := by
  rw [skip_append (by simp [h]), h, List.cons_append]

theorem Flags.length_skip_le (f : Flags) (s : List Char) : (f.skip s).length ≤ s.length := by
  unfold skip
  split
  · exact length_skipSpace_le false s
  · exact Nat.le_refl _

theorem map_append {α β : Type} {x : Option α} {g : α → β} {b : β}
    (h : (x.map fun a => (g a, s)) = some (b, rest)) :
    (x.map fun a => (g a, s ++ t)) = some (b, rest ++ t) := by
  obtain ⟨a, rfl, heq⟩ := Option.map_eq_some_iff.1 h
  obtain ⟨rfl, rfl⟩ := Prod.mk.inj heq
  rfl

/-! ## Runs of characters -/

/-- The characters at the start that are wanted, with blanks between them, and what follows. -/
def spaced (f : Flags) (wanted : Char → Bool) : (fuel : Nat) → List Char → List Char × List Char
  | 0, s => ([], s)
  | _ + 1, [] => ([], [])
  | fuel + 1, c :: s =>
    if wanted c then (c :: (spaced f wanted fuel (f.skip s)).1, (spaced f wanted fuel (f.skip s)).2)
    else ([], c :: s)

theorem boundaryName_eq (f : Flags) (fuel : Nat) (s : List Char) :
    boundaryName f fuel s = spaced f isBoundaryChar fuel s := by
  induction fuel generalizing s with
  | zero => rfl
  | succ fuel ih => cases s <;> simp only [boundaryName, spaced, ih]

theorem digits_eq (f : Flags) (fuel : Nat) (s : List Char) :
    digits f fuel s = spaced f Char.isDigit fuel s := by
  induction fuel generalizing s with
  | zero => rfl
  | succ fuel ih => cases s <;> simp only [digits, spaced, ih]

theorem leadingMinus_eq (f : Flags) (fuel : Nat) (b : Bracket) (s : List Char) :
    leadingMinus f fuel b s =
      ((spaced f (· == '-') fuel s).1.foldl (fun b _ => b.add (.single '-') 0) b,
        (spaced f (· == '-') fuel s).2) := by
  induction fuel generalizing b s with
  | zero => rfl
  | succ fuel ih =>
    cases s with
    | nil => rfl
    | cons c s =>
      by_cases hc : c == '-'
      · simp [leadingMinus, spaced, hc, ih]
      · simp [leadingMinus, spaced, hc]

@[simp]
theorem spaced_nil (f : Flags) (wanted : Char → Bool) (fuel : Nat) :
    spaced f wanted fuel [] = ([], []) := by
  cases fuel <;> rfl

/-- A run that ends before the end of the text ends there when more text follows. -/
theorem spaced_append {wanted : Char → Bool} {fuel fuel' : Nat} {run : List Char}
    (h : spaced f wanted fuel s = (run, rest)) (hrest : rest ≠ []) (hs : s.length ≤ fuel)
    (hfuel : fuel ≤ fuel') : spaced f wanted fuel' (s ++ t) = (run, rest ++ t) := by
  induction fuel generalizing fuel' s run with
  | zero => simp_all [spaced]
  | succ fuel ih =>
    obtain ⟨fuel', rfl⟩ := Nat.exists_eq_add_of_le' (Nat.lt_of_lt_of_le (Nat.succ_pos _) hfuel)
    cases s with
    | nil => simp_all
    | cons c s =>
      have hlength := Flags.length_skip_le f s
      rw [List.cons_append]
      simp only [spaced, List.length_cons] at h hs ⊢
      split at h
      · next hc =>
        obtain ⟨rfl, hafter⟩ := Prod.mk.inj h
        have hskip : f.skip s ≠ [] := fun hnil => by simp_all
        rw [if_pos hc, Flags.skip_append fun _ => hskip,
          ih (Prod.ext rfl hafter) (by omega) (by omega)]
      · next hc =>
        obtain ⟨rfl, rfl⟩ := Prod.mk.inj h
        rw [if_neg hc, List.cons_append]

/-! ## Escapes -/

theorem braced?_append {fuel fuel' : Nat} {inner : List Char}
    (h : braced? f fuel s = some (inner, rest)) (hfuel : fuel ≤ fuel') :
    braced? f fuel' (s ++ t) = some (inner, rest ++ t) := by
  induction fuel generalizing fuel' s inner with
  | zero => simp [braced?] at h
  | succ fuel ih =>
    obtain ⟨fuel', rfl⟩ := Nat.exists_eq_add_of_le' (Nat.lt_of_lt_of_le (Nat.succ_pos _) hfuel)
    rw [braced?] at h ⊢
    cases hs : f.skip s with
    | nil => simp [hs] at h
    | cons c s' =>
      rw [Flags.skip_append_of_eq hs]
      simp only [hs] at h ⊢
      split at h
      · next hc =>
        rw [if_pos hc]
        simp_all
      · next hc =>
        obtain ⟨⟨inner', after⟩, hinner, heq⟩ := Option.map_eq_some_iff.1 h
        obtain ⟨rfl, rfl⟩ := by simpa using heq
        rw [if_neg hc, ih hinner (Nat.le_of_succ_le_succ hfuel)]
        rfl

theorem hexDigits?_append {count value n : Nat} (h : hexDigits? f count value s = some (n, rest))
    (hrest : f.verbose → rest ≠ []) :
    hexDigits? f count value (s ++ t) = some (n, rest ++ t) := by
  fun_induction hexDigits? f count value s with
  | case1 value s => simp_all [hexDigits?]
  | case2 => simp at h
  | case3 count value c s d hd ih =>
    have hskip : f.verbose → f.skip s ≠ [] := by
      intro hverbose hnil
      rw [hnil] at h
      cases count with
      | zero => simp_all [hexDigits?]
      | succ count => simp [hexDigits?] at h
    simp only [List.cons_append, hexDigits?, hd]
    rw [Flags.skip_append hskip, ih h]
  | case4 => simp at h

theorem hexEscape?_append {count : Nat} {atom : Atom}
    (h : hexEscape? f (count + 1) s = some (atom, rest)) (hrest : f.verbose → rest ≠ []) :
    hexEscape? f (count + 1) (s ++ t) = some (atom, rest ++ t) := by
  unfold hexEscape? at h ⊢
  cases hs : f.skip s with
  | nil => simp [hs, hexDigits?] at h
  | cons c s' =>
    rw [Flags.skip_append_of_eq hs]
    rw [hs] at h
    split at h
    · next rest' heq =>
      obtain ⟨rfl, rfl⟩ := List.cons.inj heq
      obtain ⟨⟨digits, after⟩, hbraced, hchar⟩ := Option.bind_eq_some_iff.1 h
      have hlonger : s'.length + 1 ≤ (s' ++ t).length + 1 := by simp
      simp only [braced?_append hbraced hlonger, Option.bind_some]
      exact map_append hchar
    · next hbrace =>
      have hc : c ≠ '{' := fun hc => hbrace s' (by rw [hc])
      obtain ⟨⟨n, after⟩, hdigits, hchar⟩ := Option.bind_eq_some_iff.1 h
      obtain ⟨_, _, heq⟩ := Option.map_eq_some_iff.1 hchar
      obtain ⟨-, rfl⟩ := Prod.mk.inj heq
      have happ := hexDigits?_append (t := t) hdigits hrest
      rw [List.cons_append] at happ
      split
      · simp_all
      · rw [happ]
        exact map_append hchar

/-- The property that is named after `\p`, if there is such a property, and what follows. -/
def namedAt? (f : Flags) (s : List Char) : Option (Option CharSet × List Char) :=
  match f.skip s with
  | [] => none
  | '{' :: rest =>
    (braced? f (rest.length + 1) rest).map fun (name, after) => (namedProperty? name, after)
  | c :: rest => some (Unicode.property? [c], rest)

theorem propertyEscape?_eq (f : Flags) (negated : Bool) (s : List Char) :
    propertyEscape? f negated s =
      match namedAt? f s with
      | some (some set, after) =>
        if f.unicode then (f.closeNegate? negated set).map fun set => (.set set, after) else none
      | _ => none := rfl

theorem namedAt?_append {set : Option CharSet} (h : namedAt? f s = some (set, rest)) :
    namedAt? f (s ++ t) = some (set, rest ++ t) := by
  unfold namedAt? at h ⊢
  cases hs : f.skip s with
  | nil => simp [hs] at h
  | cons c s' =>
    rw [Flags.skip_append_of_eq hs]
    rw [hs] at h
    have hlonger : s'.length + 1 ≤ (s' ++ t).length + 1 := by simp
    split at h
    · simp at h
    · next rest' heq =>
      obtain ⟨rfl, rfl⟩ := List.cons.inj heq
      obtain ⟨⟨name, after⟩, hbraced, heq⟩ := Option.map_eq_some_iff.1 h
      obtain ⟨rfl, rfl⟩ := Prod.mk.inj heq
      simp only [braced?_append hbraced hlonger, Option.map_some]
    · grind

theorem propertyEscape?_append {negated : Bool} {atom : Atom}
    (h : propertyEscape? f negated s = some (atom, rest)) :
    propertyEscape? f negated (s ++ t) = some (atom, rest ++ t) := by
  rw [propertyEscape?_eq] at h ⊢
  split at h
  · next set after hname =>
    rw [namedAt?_append hname]
    split at h
    · next hunicode => simpa only [hunicode, if_true] using map_append h
    · simp at h
  · simp at h

/-- What a text does not start with does not arise from a text that follows, if that starts with
none of its characters. -/
theorem ne_prefix_append {start : List Char} (hs : ∀ rest, s ≠ start ++ rest)
    (ht : ∀ c ∈ start, t.head? ≠ some c) : ∀ rest, s ++ t ≠ start ++ rest := by
  induction start generalizing s with
  | nil => exact (hs s rfl).elim
  | cons c start ih =>
    intro rest h
    cases s with
    | nil => exact ht c List.mem_cons_self (by simpa using congrArg List.head? h)
    | cons d s =>
      obtain ⟨rfl, htail⟩ := List.cons.inj h
      exact ih (fun rest heq => hs rest (congrArg (List.cons d) heq))
        (fun c hc => ht c (List.mem_cons_of_mem _ hc)) rest htail

theorem ne_cons_append {c : Char} (hs : ∀ rest, s ≠ c :: rest) (ht : t.head? ≠ some c) :
    ∀ rest, s ++ t ≠ c :: rest :=
  ne_prefix_append (show ∀ rest, s ≠ [c] ++ rest from hs) (by simpa using ht)

theorem boundary?_append {a : Anchor} (h : boundary? f s = some (a, rest))
    (ht : t.head? ≠ some '{') : boundary? f (s ++ t) = some (a, rest ++ t) := by
  unfold boundary? at h ⊢
  split at h
  · next inner =>
    cases hs : f.skip inner with
    | nil => simp [hs] at h
    | cons c s' =>
      rw [List.cons_append]
      simp only [hs, Flags.skip_append_of_eq hs] at h ⊢
      split at h
      · next hc =>
        rw [if_pos hc]
        have hlonger : s'.length + 1 ≤ (s' ++ t).length + 1 := by simp
        split at h
        · next name after hname =>
          rw [boundaryName_eq] at hname
          have happ := spaced_append (t := t) hname (by simp) (by simp) hlonger
          rw [List.cons_append] at happ
          simp only [boundaryName_eq, happ, List.cons_append]
          split at h <;> simp_all
        · simp at h
      · next hc =>
        rw [if_neg hc]
        grind
  · next hbrace =>
    have happ := ne_cons_append hbrace ht
    grind

theorem escape?_append {atom : Atom} (h : escape? f s = some (atom, rest))
    (hrest : f.verbose → rest ≠ []) (ht : t.head? ≠ some '{') :
    escape? f (s ++ t) = some (atom, rest ++ t) := by
  cases s with
  | nil => simp [escape?] at h
  | cons c s =>
    rw [List.cons_append]
    rw [escape?.eq_def] at h ⊢
    dsimp only at h ⊢
    split at h
    · exact hexEscape?_append h hrest
    · exact hexEscape?_append h hrest
    · exact hexEscape?_append h hrest
    · exact propertyEscape?_append h
    · exact propertyEscape?_append h
    · simp_all
    · simp_all
    · obtain ⟨⟨a, after⟩, ha, heq⟩ := Option.map_eq_some_iff.1 h
      obtain ⟨rfl, rfl⟩ := by simpa using heq
      rw [boundary?_append ha ht]
      rfl
    · simp_all
    · simp_all
    · simp_all
    · split at h
      · exact map_append h
      · exact map_append h

/-! ## Bracket expressions -/

/-- Whether a bracket starts with `^`, and what follows. -/
def openCaret (f : Flags) (s : List Char) : Bool × List Char :=
  match f.skip s with
  | '^' :: rest => (true, f.skip rest)
  | rest => (false, rest)

theorem openBracket?_eq (f : Flags) (s : List Char) :
    openBracket? f s =
      match
        leadingMinus f (openCaret f s).2.length { negated := (openCaret f s).1 } (openCaret f s).2
      with
      | (_, []) => none
      | (b, ']' :: rest) =>
        if b.depths.isEmpty then some (b.add (.single ']') 0, f.skip rest)
        else some (b, ']' :: rest)
      | opened => some opened := rfl

theorem openCaret_append (h : (openCaret f s).2 ≠ []) :
    openCaret f (s ++ t) = ((openCaret f s).1, (openCaret f s).2 ++ t) := by
  unfold openCaret at h ⊢
  cases hs : f.skip s with
  | nil => simp [hs] at h
  | cons c s' =>
    rw [Flags.skip_append_of_eq hs]
    rw [hs] at h
    split at h
    · next rest heq =>
      obtain ⟨rfl, rfl⟩ := List.cons.inj heq
      simp only [Flags.skip_append fun _ => h]
    · next hcaret =>
      have hc : c ≠ '^' := fun hc => hcaret s' (by rw [hc])
      simp [hc]

theorem openBracket?_append {b : Bracket} (h : openBracket? f s = some (b, rest))
    (hrest : rest ≠ []) : openBracket? f (s ++ t) = some (b, rest ++ t) := by
  rw [openBracket?_eq, leadingMinus_eq] at h ⊢
  have hcaret : (openCaret f s).2 ≠ [] := fun hnil => by simp [hnil] at h
  have hlonger : (openCaret f s).2.length ≤ ((openCaret f s).2 ++ t).length := by simp
  rw [openCaret_append hcaret]
  generalize hminus : spaced f _ _ _ = found at h
  obtain ⟨run, left⟩ := found
  cases left with
  | nil => simp at h
  | cons c left =>
    rw [spaced_append hminus (List.cons_ne_nil c left) (Nat.le_refl _) hlonger]
    by_cases hc : c = ']'
    · subst hc
      simp only [List.cons_append] at h ⊢
      split at h
      · next hempty =>
        obtain ⟨rfl, rfl⟩ := Prod.mk.inj (Option.some.inj h)
        rw [if_pos hempty, Flags.skip_append fun _ => hrest]
      · next hempty =>
        obtain ⟨rfl, rfl⟩ := Prod.mk.inj (Option.some.inj h)
        rw [if_neg hempty, List.cons_append]
    · split at h
      · simp_all
      · simp_all
      · obtain ⟨rfl, rfl⟩ := Prod.mk.inj (Option.some.inj h)
        simp [hc]

/-! ## Named classes -/

/-- The characters that can follow an alternative. -/
def EndsAlternative (t : List Char) : Prop := ∃ d, t.head? = some d ∧ (d = '|' ∨ d = ')')

theorem EndsAlternative.head?_ne (ht : EndsAlternative t) {c : Char} (hbar : c ≠ '|')
    (hparenthesis : c ≠ ')') : t.head? ≠ some c := by
  obtain ⟨d, hd, rfl | rfl⟩ := ht <;> simp [hd, hbar.symm, hparenthesis.symm]

theorem namedSet?_eq_none {name : List Char} (h : '|' ∈ name ∨ ')' ∈ name) :
    namedSet? (String.ofList name) = none := by
  have hplain : ∀ w ∈ ["alnum", "alpha", "ascii", "blank", "cntrl", "digit", "graph", "lower",
      "print", "punct", "space", "upper", "word", "xdigit"],
      '|' ∉ w.toList ∧ ')' ∉ w.toList := by decide
  have hword : ∀ w ∈ ["alnum", "alpha", "ascii", "blank", "cntrl", "digit", "graph", "lower",
      "print", "punct", "space", "upper", "word", "xdigit"], String.ofList name ≠ w := by
    rintro w hw rfl
    have := hplain _ hw
    rw [String.toList_ofList] at this
    exact h.elim this.1 this.2
  unfold namedSet?
  split <;> first
    | rfl
    | next heq => exact absurd heq (hword _ (by simp))

/-- The name of a class after its colon and sign. -/
def className? (negated : Bool) (s : List Char) : Option (CharSet × Bool × List Char) :=
  (Text.breakOn [':', ']'] s).bind fun (name, rest) =>
    (namedSet? (String.ofList name)).map fun set => (set, negated, rest)

theorem className?_append (ht : EndsAlternative t) (negated : Bool) (s : List Char) :
    className? negated (s ++ t) =
      (className? negated s).map fun (set, negated, rest) => (set, negated, rest ++ t) := by
  obtain ⟨d, hhead, hd⟩ := ht
  obtain ⟨t, rfl⟩ := List.head?_eq_some_iff.1 hhead
  have hneedle : d ∉ [':', ']'] := by obtain rfl | rfl := hd <;> decide
  unfold className?
  cases hbreak : Text.breakOn [':', ']'] s with
  | some found => simp [Text.breakOn_cut hneedle hbreak, Function.comp_def]
  | none =>
    have hinside := Text.breakOn_eq_none_iff.1 hbreak
    rw [Text.breakOn_cut_of_none hneedle hinside]
    cases Text.breakOn [':', ']'] t with
    | none => rfl
    | some found =>
      -- A name that goes on in the text behind is the name of no class.
      have hbad : '|' ∈ s ++ d :: found.1 ∨ ')' ∈ s ++ d :: found.1 := by
        obtain rfl | rfl := hd <;> simp
      have hset : namedSet? (String.ofList (s ++ d :: found.1)) = none := namedSet?_eq_none hbad
      simp only [Option.map_some, Option.bind_some, hset, Option.map_none]
      rfl

theorem namedClass?_colon (s : List Char) :
    namedClass? (':' :: s) =
      match s with
      | '^' :: rest => className? true rest
      | _ => className? false s := by
  cases s with
  | nil => rfl
  | cons c s =>
    by_cases hc : c = '^'
    · subst hc
      rfl
    · simp [namedClass?, className?, hc]

theorem namedClass?_append (ht : EndsAlternative t) :
    namedClass? (s ++ t) =
      (namedClass? s).map fun (set, negated, rest) => (set, negated, rest ++ t) := by
  have hcolon := ht.head?_ne (show ':' ≠ '|' by decide) (by decide)
  have hcaret := ht.head?_ne (show '^' ≠ '|' by decide) (by decide)
  by_cases hs : ∃ s', s = ':' :: s'
  · obtain ⟨s, rfl⟩ := hs
    rw [List.cons_append, namedClass?_colon, namedClass?_colon]
    by_cases hs : ∃ s', s = '^' :: s'
    · obtain ⟨s, rfl⟩ := hs
      exact className?_append ht true s
    · have hs : ∀ s', s ≠ '^' :: s' := not_exists.1 hs
      have hst := ne_cons_append hs hcaret
      have happ := className?_append ht false s
      grind
  · have hs : ∀ s', s ≠ ':' :: s' := not_exists.1 hs
    have hst := ne_cons_append hs hcolon
    have hnone : ∀ s, (∀ s', s ≠ ':' :: s') → namedClass? s = none := by
      intro s hs
      unfold namedClass?
      grind
    rw [hnone _ hs, hnone _ hst]
    rfl

/-! ## Items of a bracket -/

theorem bracketAtom?_append {atom : Atom} (h : bracketAtom? f s = some (atom, rest))
    (hrest : f.verbose → rest ≠ []) (ht : EndsAlternative t) :
    bracketAtom? f (s ++ t) = some (atom, rest ++ t) := by
  unfold bracketAtom? at h ⊢
  split at h
  · simp at h
  · exact escape?_append h hrest (ht.head?_ne (by decide) (by decide))
  · obtain ⟨rfl, rfl⟩ := Prod.mk.inj (Option.some.inj h)
    simp_all

/-- What is left after the blanks and the sign of a comment by which a minus is judged. -/
def pastSign (s : List Char) : List Char :=
  match s.dropWhile Text.isBlank with
  | '#' :: rest => rest.dropWhile Text.isBlank
  | rest => rest

theorem judge?_of_verbose (h : f.verbose = true) (s : List Char) :
    judge? f s = ((pastSign s).head? <|> s.head?) := by
  rw [judge?, if_pos h]
  rfl

theorem dropWhile_isBlank (ht : EndsAlternative t) : t.dropWhile Text.isBlank = t := by
  obtain ⟨d, hhead, hd⟩ := ht
  obtain ⟨t', rfl⟩ := List.head?_eq_some_iff.1 hhead
  have hblank : Text.isBlank d = false := by obtain rfl | rfl := hd <;> decide
  rw [List.dropWhile_cons, hblank]
  rfl

theorem pastSign_append (ht : EndsAlternative t) : pastSign (s ++ t) = pastSign s ++ t := by
  have hsign := ht.head?_ne (show '#' ≠ '|' by decide) (by decide)
  unfold pastSign
  rw [List.dropWhile_append, dropWhile_isBlank ht]
  cases s.dropWhile Text.isBlank with
  | nil =>
    simp only [List.isEmpty_nil, if_true, List.nil_append]
    split
    · simp_all
    · rfl
  | cons c s =>
    simp only [List.isEmpty_cons, Bool.false_eq_true, if_false, List.cons_append]
    by_cases hc : c = '#'
    · subst hc
      simp only [List.dropWhile_append, dropWhile_isBlank ht]
      cases s.dropWhile Text.isBlank <;> simp
    · simp [hc]

/-- Where nothing is left after blanks and the sign of a comment, the text starts with one of
them. -/
theorem head?_of_pastSign {c : Char} (h : pastSign s = []) (hc : s.head? = some c) :
    Text.isBlank c = true ∨ c = '#' := by
  obtain ⟨s', rfl⟩ := List.head?_eq_some_iff.1 hc
  by_contra hnot
  obtain ⟨hblank, hsign⟩ := not_or.1 hnot
  simp [pastSign, hblank, hsign] at h

theorem judge?_append (ht : EndsAlternative t) {c : Char} (hc : c = ']' ∨ c = '-') :
    (judge? f (s ++ t) == some c) = (judge? f s == some c) := by
  have htail : t.head? ≠ some c := by
    obtain rfl | rfl := hc
    · exact ht.head?_ne (by decide) (by decide)
    · exact ht.head?_ne (by decide) (by decide)
  obtain ⟨d, hhead, -⟩ := id ht
  by_cases hverbose : f.verbose = true
  · rw [judge?_of_verbose hverbose, judge?_of_verbose hverbose, pastSign_append ht]
    cases hpast : pastSign s with
    | nil =>
      have hstart : s.head? ≠ some c := by
        intro hstart
        obtain rfl | rfl := hc <;> have := head?_of_pastSign hpast hstart <;> simp_all +decide
      simp_all
    | cons e past => simp
  · have hjudge : ∀ s, judge? f s = s.head? := fun s => by rw [judge?, if_neg hverbose]
    rw [hjudge, hjudge]
    cases s with
    | nil => simp_all
    | cons e s => rfl

/-- An item of a bracket that starts no range. -/
def alone? (f : Flags) (atom : Atom) (rest : List Char) : Option (CharSet × List Char) :=
  match atom with
  | .char c _ => (f.bracketChar? c).map fun n => (.range n n, rest)
  | .set set => some (set, rest)
  | .anchor _ => none

/-- A range between two items of a bracket. -/
def range? (f : Flags) : Atom → Option (Atom × List Char) → Option (CharSet × List Char)
  | .char lo _, some (.char hi _, rest) =>
    match f.bracketChar? lo, f.bracketChar? hi with
    | some lo, some hi => if lo ≤ hi then some (.range lo hi, rest) else none
    | _, _ => none
  | _, _ => none

theorem bracketItem?_eq (f : Flags) (s : List Char) :
    bracketItem? f s =
      match bracketAtom? f s with
      | none => none
      | some (atom, rest) =>
        match f.skip rest with
        | [] => none
        | '-' :: after =>
          if judge? f after == some ']' || judge? f after == some '-' then
            alone? f atom ('-' :: after)
          else range? f atom (bracketAtom? f (f.skip after))
        | rest => alone? f atom rest := by
  unfold bracketItem? alone? range?
  rfl

theorem alone?_append {atom : Atom} {set : CharSet} (h : alone? f atom s = some (set, rest)) :
    alone? f atom (s ++ t) = some (set, rest ++ t) := by
  cases atom with
  | char c byByte => exact map_append h
  | set set => simp_all [alone?]
  | anchor a => simp [alone?] at h

theorem range?_append {lo hi : Atom} {set : CharSet}
    (h : range? f lo (some (hi, s)) = some (set, rest)) :
    range? f lo (some (hi, s ++ t)) = some (set, rest ++ t) ∧ s = rest := by
  unfold range? at h ⊢
  split at h
  · next heq =>
    cases heq
    split at h
    · next lo hi _ _ =>
      by_cases hle : lo ≤ hi <;> simp_all
    · simp at h
  · simp at h

theorem bracketItem?_append {set : CharSet} (h : bracketItem? f s = some (set, rest))
    (hrest : f.verbose → rest ≠ []) (ht : EndsAlternative t) :
    bracketItem? f (s ++ t) = some (set, rest ++ t) := by
  rw [bracketItem?_eq] at h ⊢
  cases hatom : bracketAtom? f s with
  | none => simp [hatom] at h
  | some found =>
    obtain ⟨atom, left⟩ := found
    simp only [hatom] at h
    cases hskip : f.skip left with
    | nil => simp [hskip] at h
    | cons c after =>
      have hleft : left ≠ [] := by
        rintro rfl
        have := Flags.length_skip_le f []
        simp [hskip] at this
      simp only [bracketAtom?_append hatom (fun _ => hleft) ht, Flags.skip_append_of_eq hskip]
      rw [hskip] at h
      by_cases hc : c = '-'
      · subst hc
        simp only [judge?_append ht (.inl rfl), judge?_append ht (.inr rfl)] at h ⊢
        split at h
        · next halone =>
          rw [if_pos halone]
          exact alone?_append h
        · next halone =>
          rw [if_neg halone]
          cases hsecond : bracketAtom? f (f.skip after) with
          | none =>
            rw [hsecond] at h
            cases atom <;> simp [range?] at h
          | some found =>
            obtain ⟨hi, left⟩ := found
            have hafter : f.skip after ≠ [] := fun hnil => by simp [hnil, bracketAtom?] at hsecond
            rw [hsecond] at h
            obtain ⟨happ, rfl⟩ := range?_append (t := t) h
            rw [Flags.skip_append fun _ => hafter, bracketAtom?_append hsecond hrest ht]
            exact happ
      · split at h
        · simp at h
        · simp_all
        · simpa [hc] using alone?_append (t := t) h

theorem brackets?_nil (f : Flags) (fuel : Nat) (b : Bracket) (outer : List Bracket) :
    brackets? f fuel b outer [] = none := by
  cases fuel with
  | zero => rfl
  | succ fuel => cases h : f.verbose <;> simp [brackets?, Flags.skip, h, skipSpace]

theorem brackets?_item {fuel : Nat} {b : Bracket} {outer : List Bracket} {c : Char}
    (hs : f.skip s = c :: rest) (hopen : c ≠ '[') (hclose : c ≠ ']')
    (htwo : ∀ d ∈ ['&', '-', '~'], c = d → ∀ r, rest ≠ d :: r) :
    brackets? f (fuel + 1) b outer s =
      (bracketItem? f (c :: rest)).bind fun (set, rest) =>
        brackets? f fuel (b.add set 0) outer rest := by
  have hne : ∀ d ∈ ['&', '-', '~'], ∀ r, c :: rest ≠ d :: d :: r := by
    intro d hd r heq
    obtain ⟨hc, hrest⟩ := List.cons.inj heq
    exact htwo d hd hc r hrest
  simp only [brackets?, hs]
  split
  · next heq => exact (List.cons_ne_nil _ _ heq).elim
  · next heq => exact (hopen (List.cons.inj heq).1).elim
  · next heq => exact (hclose (List.cons.inj heq).1).elim
  · next heq => exact (hne '&' (by simp) _ heq).elim
  · next heq => exact (hne '-' (by simp) _ heq).elim
  · next heq => exact (hne '~' (by simp) _ heq).elim
  · next heq => rw [heq]

theorem brackets?_append {fuel fuel' : Nat} {b : Bracket} {outer : List Bracket} {inner : Nested}
    (h : brackets? f fuel b outer s = some (inner, rest)) (hfuel : fuel ≤ fuel')
    (ht : EndsAlternative t) : brackets? f fuel' b outer (s ++ t) = some (inner, rest ++ t) := by
  induction fuel generalizing fuel' b outer s with
  | zero => simp [brackets?] at h
  | succ fuel ih =>
    obtain ⟨fuel', rfl⟩ := Nat.exists_eq_add_of_le' (Nat.lt_of_lt_of_le (Nat.succ_pos _) hfuel)
    replace hfuel : fuel ≤ fuel' := Nat.le_of_succ_le_succ hfuel
    -- After an operator the reader goes on with the bracket that it leaves.
    have hnext : ∀ {x : Option Bracket} {s},
        (x.bind fun b => brackets? f fuel b outer s) = some (inner, rest) →
        (x.bind fun b => brackets? f fuel' b outer (s ++ t)) = some (inner, rest ++ t) := by
      intro x s h
      obtain ⟨b, rfl, h⟩ := Option.bind_eq_some_iff.1 h
      exact ih h hfuel
    cases hs : f.skip s with
    | nil => simp [brackets?, hs] at h
    | cons c s' =>
      have hst : f.skip (s ++ t) = c :: (s' ++ t) := Flags.skip_append_of_eq hs
      simp only [brackets?, hs] at h
      split at h
      · simp at h
      · next rest' heq =>
        obtain ⟨rfl, rfl⟩ := List.cons.inj heq
        simp only [brackets?, hst, namedClass?_append ht]
        cases hclass : namedClass? s' with
        | some found =>
          obtain ⟨set, negated, left⟩ := found
          simp only [hclass, Option.map_some] at h ⊢
          obtain ⟨set, hset, h⟩ := Option.bind_eq_some_iff.1 h
          rw [hset, Option.bind_some]
          exact ih h hfuel
        | none =>
          simp only [hclass, Option.map_none] at h ⊢
          split at h
          · next hdepth =>
            obtain ⟨⟨inner', left⟩, hopen, h⟩ := Option.bind_eq_some_iff.1 h
            have hleft : left ≠ [] := fun hnil => by simp [hnil, brackets?_nil] at h
            rw [if_pos hdepth, openBracket?_append hopen hleft, Option.bind_some]
            exact ih h hfuel
          · simp at h
      · next rest' heq =>
        obtain ⟨rfl, rfl⟩ := List.cons.inj heq
        obtain ⟨inner', hclose, h⟩ := Option.bind_eq_some_iff.1 h
        simp only [brackets?, hst, hclose, Option.bind_some]
        cases outer with
        | nil =>
          obtain ⟨rfl, rfl⟩ := Prod.mk.inj (Option.some.inj h)
          rfl
        | cons o os => exact ih h hfuel
      · next rest' heq =>
        obtain ⟨rfl, rfl⟩ := List.cons.inj heq
        simpa only [brackets?, hst, List.cons_append] using hnext h
      · next rest' heq =>
        obtain ⟨rfl, rfl⟩ := List.cons.inj heq
        simpa only [brackets?, hst, List.cons_append] using hnext h
      · next rest' heq =>
        obtain ⟨rfl, rfl⟩ := List.cons.inj heq
        simpa only [brackets?, hst, List.cons_append] using hnext h
      · next c' rest' hopen hclose hand hminus htilde heq =>
        obtain ⟨rfl, rfl⟩ := List.cons.inj heq
        obtain ⟨⟨set, left⟩, hitem, h⟩ := Option.bind_eq_some_iff.1 h
        have hleft : left ≠ [] := fun hnil => by simp [hnil, brackets?_nil] at h
        -- No operator arises from the last character and what follows.
        have htwo : ∀ d ∈ ['&', '-', '~'], c = d → ∀ r, s' ++ t ≠ d :: r := by
          intro d hd hc
          refine ne_cons_append (fun r hr => ?_) (ht.head?_ne ?_ ?_)
          · simp only [List.mem_cons, List.not_mem_nil, or_false] at hd
            obtain rfl | rfl | rfl := hd
            · exact hand r hc hr
            · exact hminus r hc hr
            · exact htilde r hc hr
          · rintro rfl
            simp at hd
          · rintro rfl
            simp at hd
        rw [brackets?_item hst hopen hclose htwo, ← List.cons_append,
          bracketItem?_append hitem (fun _ => hleft) ht, Option.bind_some]
        exact ih h hfuel

theorem bracketExpression?_append {inner : Nested}
    (h : bracketExpression? f s = some (inner, rest)) (ht : EndsAlternative t) :
    bracketExpression? f (s ++ t) = some (inner, rest ++ t) := by
  obtain ⟨⟨b, left⟩, hopen, h⟩ := Option.bind_eq_some_iff.1 h
  have hleft : left ≠ [] := fun hnil => by simp [hnil, brackets?_nil] at h
  rw [bracketExpression?, openBracket?_append hopen hleft, Option.bind_some]
  exact brackets?_append h (by simp) ht

/-! ## Groups -/

theorem namedGroup?_append {st st' : ReaderState} (h : namedGroup? st s = some (st', rest)) :
    namedGroup? st (s ++ t) = some (st', rest ++ t) := by
  unfold namedGroup? at h ⊢
  dsimp only at h ⊢
  cases hafter : s.dropWhile (· != '>') with
  | nil => grind
  | cons c after =>
    have hname : (s ++ t).takeWhile (· != '>') = s.takeWhile (· != '>') := by
      rw [List.takeWhile_append, if_neg]
      intro hlength
      have hsplit := congrArg List.length
        (List.takeWhile_append_dropWhile (p := (· != '>')) (l := s))
      simp [hafter] at hsplit
      omega
    have hdrop : (s ++ t).dropWhile (· != '>') = c :: (after ++ t) := by
      simp [List.dropWhile_append, hafter]
    rw [hname, hdrop]
    rw [hafter] at h
    grind

theorem flags?_append {f' : Flags} {value afterMinus any : Bool} {seen : List Char}
    (h : flags? f value seen afterMinus s = some (f', any, rest)) :
    flags? f value seen afterMinus (s ++ t) = some (f', any, rest ++ t) := by
  induction s generalizing f value seen afterMinus with
  | nil => simp [flags?] at h
  | cons c s ih =>
    rw [List.cons_append]
    simp only [flags?] at h ⊢
    cases hset : f.set? c value with
    | none => grind
    | some f => grind

theorem group?_append {st st' : ReaderState} (h : group? st s = some (st', rest))
    (hrest : st'.flags.verbose → rest ≠ []) (ht : EndsAlternative t) :
    group? st (s ++ t) = some (st', rest ++ t) := by
  have hquestion := ht.head?_ne (show '?' ≠ '|' by decide) (by decide)
  have hp := ht.head?_ne (show 'P' ≠ '|' by decide) (by decide)
  have hless := ht.head?_ne (show '<' ≠ '|' by decide) (by decide)
  have hskip : st.flags.skip (s ++ t) = st.flags.skip s ++ t := by
    refine Flags.skip_append fun hverbose hnil => ?_
    simp only [group?, hnil, Option.some.injEq, Prod.mk.injEq] at h
    obtain ⟨rfl, rfl⟩ := h
    exact hrest hverbose rfl
  unfold group? at h ⊢
  rw [hskip]
  split at h
  · next heq =>
    rw [heq]
    exact namedGroup?_append h
  · next heq =>
    rw [heq]
    exact namedGroup?_append h
  · next rest' hnamed hshort heq =>
    rw [heq, List.cons_append]
    have hnamed' : ∀ r, rest' ++ t ≠ ['P', '<'] ++ r :=
      ne_prefix_append hnamed (by simp [hp, hless])
    have hshort' := ne_cons_append hshort hless
    split
    · next heq' => exact (hnamed' _ (List.cons.inj heq').2).elim
    · next heq' => exact (hshort' _ (List.cons.inj heq').2).elim
    · next heq' =>
      obtain rfl := (List.cons.inj heq').2
      split at h
      · next hflags =>
        obtain ⟨rfl, rfl⟩ := Prod.mk.inj (Option.some.inj h)
        simp [flags?_append hflags]
      · next hflags =>
        obtain ⟨rfl, rfl⟩ := Prod.mk.inj (Option.some.inj h)
        simp [flags?_append hflags]
      · simp at h
    · next hgroup => exact (hgroup _ rfl).elim
  · next hgroup =>
    have happ := ne_cons_append hgroup hquestion
    obtain ⟨rfl, rfl⟩ := Prod.mk.inj (Option.some.inj h)
    split
    · next heq => exact (happ _ heq).elim
    · next heq => exact (happ _ heq).elim
    · next heq => exact (happ _ heq).elim
    · rfl

/-! ## Repetitions -/

theorem dropWhile_append_of_ne_nil {p : Char → Bool} (h : s.dropWhile p ≠ []) :
    (s ++ t).dropWhile p = s.dropWhile p ++ t := by
  rw [List.dropWhile_append, if_neg (by simpa using h)]

theorem count?_append {n : Nat} (h : count? f s = some (n, rest)) (hrest : rest ≠ []) :
    count? f (s ++ t) = some (n, rest ++ t) := by
  unfold count? at h ⊢
  simp only [digits_eq] at h ⊢
  generalize hdigits : spaced f _ _ _ = found at h
  obtain ⟨ds, left⟩ := found
  dsimp only at h
  split at h
  · next m hm =>
    split at h
    · next hlt =>
      obtain ⟨rfl, rfl⟩ := Prod.mk.inj (Option.some.inj h)
      have hleft : left ≠ [] := fun hnil => by simp [hnil] at hrest
      have hstart : s.dropWhile Text.isBlank ≠ [] := by
        intro hnil
        simp_all
      rw [dropWhile_append_of_ne_nil hstart,
        spaced_append hdigits hleft (Nat.le_refl _) (by simp)]
      simp only [hm, hlt, if_true, dropWhile_append_of_ne_nil hrest]
    · simp at h
  · simp at h

theorem count?_nil {n : Nat} (h : count? f [] = some (n, rest)) : rest = [] := by
  simp only [count?, List.dropWhile_nil, digits_eq, spaced_nil] at h
  grind

/-- The bounds of a counted repetition after the first bound and a comma. -/
def upperBound? (f : Flags) (least : Nat) (s : List Char) :
    Option ((Nat × Option Nat) × List Char) :=
  match f.skip s with
  | '}' :: rest => some ((least, none), rest)
  | rest =>
    match count? f rest with
    | some (most, '}' :: rest) => if least ≤ most then some ((least, some most), rest) else none
    | _ => none

theorem bounds?_eq (f : Flags) (s : List Char) :
    bounds? f s =
      match count? f (f.skip s) with
      | some (least, '}' :: rest) => some ((least, some least), rest)
      | some (least, ',' :: rest) => upperBound? f least rest
      | _ => none := by
  unfold bounds? upperBound?
  rfl

theorem count?_skip_append {n : Nat} {c : Char}
    (h : count? f (f.skip s) = some (n, c :: rest)) :
    count? f (f.skip (s ++ t)) = some (n, c :: (rest ++ t)) ∧ f.skip s ≠ [] := by
  have hskip : f.skip s ≠ [] := fun hnil => List.cons_ne_nil _ _ (count?_nil (hnil ▸ h))
  refine ⟨?_, hskip⟩
  rw [Flags.skip_append fun _ => hskip, count?_append h (List.cons_ne_nil c rest), List.cons_append]

theorem upperBound?_append {least : Nat} {bounds : Nat × Option Nat}
    (h : upperBound? f least s = some (bounds, rest)) :
    upperBound? f least (s ++ t) = some (bounds, rest ++ t) := by
  unfold upperBound? at h ⊢
  split at h
  · next hopen =>
    rw [Flags.skip_append_of_eq hopen]
    obtain ⟨rfl, rfl⟩ := Prod.mk.inj (Option.some.inj h)
    rfl
  · next hopen =>
    split at h
    · next most left hmost =>
      obtain ⟨happ, hskip⟩ := count?_skip_append (t := t) hmost
      cases hbound : f.skip s with
      | nil => exact (hskip hbound).elim
      | cons c s' =>
        rw [Flags.skip_append_of_eq hbound] at happ ⊢
        have hc : c ≠ '}' := fun hc => hopen s' (by rw [hbound, hc])
        grind
    · simp at h

theorem bounds?_append {bounds : Nat × Option Nat} (h : bounds? f s = some (bounds, rest)) :
    bounds? f (s ++ t) = some (bounds, rest ++ t) := by
  rw [bounds?_eq] at h ⊢
  split at h
  · next hleast =>
    rw [(count?_skip_append hleast).1]
    grind
  · next hleast =>
    rw [(count?_skip_append hleast).1]
    exact upperBound?_append h
  · simp at h

theorem greedy_append (ht : EndsAlternative t) :
    greedy (s ++ t) = ((greedy s).1, (greedy s).2 ++ t) := by
  have hquestion := ht.head?_ne (show '?' ≠ '|' by decide) (by decide)
  by_cases hs : ∃ s', s = '?' :: s'
  · obtain ⟨s', rfl⟩ := hs
    rfl
  · have hs : ∀ s', s ≠ '?' :: s' := not_exists.1 hs
    have hst := ne_cons_append hs hquestion
    have hplain : ∀ s, (∀ s', s ≠ '?' :: s') → greedy s = (true, s) := by
      intro s hs
      unfold greedy
      grind
    rw [hplain _ hs, hplain _ hst]

theorem repeatMarked?_append {st st' : ReaderState} {least : Nat} {most : Option Nat}
    (h : repeatMarked? st least most s = some (st', rest)) (ht : EndsAlternative t) :
    repeatMarked? st least most (s ++ t) = some (st', rest ++ t) := by
  unfold repeatMarked? at h ⊢
  rw [greedy_append ht]
  exact map_append h

/-! ## Steps -/

theorem ReaderState.flags_of_addNested? {st st' : ReaderState} {p : Pattern} {depth : Nat}
    (h : st.addNested? p depth = some st') : st'.flags = st.flags := by
  unfold addNested? at h
  grind

theorem flags_of_repeatMarked? {st st' : ReaderState} {least : Nat} {most : Option Nat}
    (h : repeatMarked? st least most s = some (st', rest)) : st'.flags = st.flags := by
  obtain ⟨st'', hrepeat, heq⟩ := Option.map_eq_some_iff.1 h
  obtain ⟨rfl, -⟩ := Prod.mk.inj heq
  unfold ReaderState.repeat? at hrepeat
  split at hrepeat
  · simpa using ReaderState.flags_of_addNested? hrepeat
  · simp at hrepeat

/-- The state after what an escape stands for. -/
def ReaderState.addAtom? (st : ReaderState) : Atom → Option ReaderState
  | .char c byByte => (st.flags.literal? c byByte).map st.add
  | .set set => some (st.add (.ofSet set))
  | .anchor a => some (st.add (.anchor a))

theorem ReaderState.flags_of_addAtom? {st st' : ReaderState} {atom : Atom}
    (h : st.addAtom? atom = some st') : st'.flags = st.flags := by
  cases atom with
  | char c byByte =>
    obtain ⟨p, -, rfl⟩ := Option.map_eq_some_iff.1 h
    rfl
  | set set => exact Option.some.inj h ▸ rfl
  | anchor a => exact Option.some.inj h ▸ rfl

theorem step?_backslash (st : ReaderState) (s : List Char) :
    step? st ('\\' :: s) =
      (escape? st.flags s).bind fun (atom, rest) =>
        (st.addAtom? atom).map fun st => (st, rest) := by
  simp only [step?]
  cases escape? st.flags s with
  | none => rfl
  | some found =>
    obtain ⟨atom, rest⟩ := found
    cases atom <;> simp [ReaderState.addAtom?, Function.comp_def]

theorem step?_brace (st : ReaderState) (s : List Char) :
    step? st ('{' :: s) =
      (bounds? st.flags s).bind fun ((least, most), rest) =>
        repeatMarked? st least most (st.flags.skip rest) := rfl

theorem step?_backslash_append {st st' : ReaderState}
    (h : step? st ('\\' :: s) = some (st', rest)) (hrest : st'.flags.verbose → rest ≠ [])
    (ht : EndsAlternative t) : step? st ('\\' :: (s ++ t)) = some (st', rest ++ t) := by
  rw [step?_backslash] at h ⊢
  obtain ⟨⟨atom, left⟩, hatom, h⟩ := Option.bind_eq_some_iff.1 h
  obtain ⟨st'', hadd, heq⟩ := Option.map_eq_some_iff.1 h
  obtain ⟨rfl, rfl⟩ := Prod.mk.inj heq
  rw [ReaderState.flags_of_addAtom? hadd] at hrest
  have hbrace := ht.head?_ne (show '{' ≠ '|' by decide) (by decide)
  rw [escape?_append hatom hrest hbrace, Option.bind_some]
  exact map_append h

theorem step?_brace_append {st st' : ReaderState} (h : step? st ('{' :: s) = some (st', rest))
    (hrest : st'.flags.verbose → rest ≠ []) (ht : EndsAlternative t) :
    step? st ('{' :: (s ++ t)) = some (st', rest ++ t) := by
  rw [step?_brace] at h ⊢
  obtain ⟨⟨⟨least, most⟩, left⟩, hbounds, h⟩ := Option.bind_eq_some_iff.1 h
  have hskip : st.flags.verbose → st.flags.skip left ≠ [] := by
    intro hverbose hnil
    dsimp only at h
    rw [hnil] at h
    obtain ⟨_, -, heq⟩ := Option.map_eq_some_iff.1 h
    exact hrest (flags_of_repeatMarked? h ▸ hverbose) (Prod.mk.inj heq).2.symm
  rw [bounds?_append hbounds, Option.bind_some]
  dsimp only
  rw [Flags.skip_append hskip]
  exact repeatMarked?_append h ht

/-- A step that can be taken in a pattern by itself is taken when more text follows. -/
theorem step?_append {st st' : ReaderState} (h : step? st s = some (st', rest))
    (hrest : st'.flags.verbose → rest ≠ []) (ht : EndsAlternative t) :
    step? st (s ++ t) = some (st', rest ++ t) := by
  cases s with
  | nil => simp [step?] at h
  | cons c s =>
    rw [List.cons_append]
    by_cases hbackslash : c = '\\'
    · subst hbackslash
      exact step?_backslash_append h hrest ht
    by_cases hbrace : c = '{'
    · subst hbrace
      exact step?_brace_append h hrest ht
    rw [step?.eq_def] at h ⊢
    dsimp only at h ⊢
    split at h
    · exact group?_append h hrest ht
    · exact map_append h
    · obtain ⟨rfl, rfl⟩ := Prod.mk.inj (Option.some.inj h)
      rfl
    · obtain ⟨⟨inner, left⟩, hbracket, h⟩ := Option.bind_eq_some_iff.1 h
      rw [bracketExpression?_append hbracket ht, Option.bind_some]
      exact map_append h
    · exact repeatMarked?_append h ht
    · exact repeatMarked?_append h ht
    · exact repeatMarked?_append h ht
    · exact (hbrace rfl).elim
    · exact map_append h
    · obtain ⟨rfl, rfl⟩ := Prod.mk.inj (Option.some.inj h)
      rfl
    · obtain ⟨rfl, rfl⟩ := Prod.mk.inj (Option.some.inj h)
      rfl
    · exact (hbackslash rfl).elim
    · exact map_append h

end TreeLint.Regex
