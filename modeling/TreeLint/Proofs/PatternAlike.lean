import Mathlib.Data.List.Forall2
import TreeLint.Proofs.PatternLocality

/-!
# What decides whether a pattern can be read

Most flags change what a pattern stands for, and only two whether it can be read: in verbose mode
blanks do not count, and without Unicode some classes stand for nothing. So the same text can be
read under flags that agree in these two (`Flags.Alike`), and what is read is nested as deep: a
pattern that can be read by itself can be read where case is ignored.

The lemmas go from the flags up to a bracket expression. What does not depend on other flags is
equal under both.
-/

namespace TreeLint.Regex

/-- Flags under which the same texts can be read. -/
structure Flags.Alike (f g : Flags) : Prop where
  verbose : f.verbose = g.verbose
  unicode : f.unicode = g.unicode

variable {f g : Flags} {s rest : List Char}

theorem exists_of_isSome_eq {α β : Type} {x : Option α} {y : Option β} {a : α}
    (h : x.isSome = y.isSome) (ha : x = some a) : ∃ b, y = some b := by
  rw [ha] at h
  exact Option.isSome_iff_exists.1 h.symm

namespace Flags.Alike

theorem skip (h : f.Alike g) : f.skip = g.skip := by
  funext s
  rw [Flags.skip, Flags.skip, h.verbose]

theorem word (h : f.Alike g) : f.word = g.word := by rw [Flags.word, Flags.word, h.unicode]

theorem digit (h : f.Alike g) : f.digit = g.digit := by rw [Flags.digit, Flags.digit, h.unicode]

theorem blank (h : f.Alike g) : f.blank = g.blank := by rw [Flags.blank, Flags.blank, h.unicode]

theorem negate? (h : f.Alike g) : f.negate? = g.negate? := by
  funext negated s
  rw [Flags.negate?, Flags.negate?, h.unicode]

theorem bracketChar? (h : f.Alike g) : f.bracketChar? = g.bracketChar? := by
  funext c
  rw [Flags.bracketChar?, Flags.bracketChar?, h.unicode]

theorem closeNegate? (h : f.Alike g) (negated : Bool) (s s' : CharSet) :
    (f.closeNegate? negated s).isSome = (g.closeNegate? negated s').isSome := by
  unfold Flags.closeNegate? Flags.negate?
  rw [h.unicode]
  cases negated <;> cases g.unicode <;> rfl

theorem literal? (h : f.Alike g) (c : Char) (byByte : Bool) :
    (f.literal? c byByte).isSome = (g.literal? c byByte).isSome := by
  unfold Flags.literal?
  rw [h.unicode]
  cases g.unicode with
  | true => rfl
  | false => by_cases hbyte : byByte && 0x7F < c.toNat <;> simp [hbyte]

theorem dot? (h : f.Alike g) : f.dot?.isSome = g.dot?.isSome := by
  unfold Flags.dot?
  rw [h.unicode]
  cases g.unicode
  · rfl
  · cases f.dotAll <;> cases f.returns <;> cases g.dotAll <;> cases g.returns <;> rfl

theorem set? (h : f.Alike g) {c : Char} {value : Bool} {f' : Flags}
    (hf : f.set? c value = some f') : ∃ g', g.set? c value = some g' ∧ f'.Alike g' := by
  unfold Flags.set? at hf ⊢
  split at hf
  all_goals first
    | cases hf; done
    | obtain rfl := Option.some.inj hf
      exact ⟨_, rfl, by simp [h.verbose], by simp [h.unicode]⟩

end Flags.Alike

/-! ## Escapes -/

theorem Flags.Alike.braced? (h : f.Alike g) (fuel : Nat) (s : List Char) :
    braced? f fuel s = braced? g fuel s := by
  induction fuel generalizing s with
  | zero => rfl
  | succ fuel ih => simp only [Regex.braced?, h.skip, ih]

theorem Flags.Alike.hexDigits? (h : f.Alike g) (count value : Nat) (s : List Char) :
    hexDigits? f count value s = hexDigits? g count value s := by
  induction count generalizing value s with
  | zero => rfl
  | succ count ih => cases s <;> simp only [Regex.hexDigits?, h.skip, ih]

theorem Flags.Alike.hexEscape? (h : f.Alike g) (count : Nat) (s : List Char) :
    hexEscape? f count s = hexEscape? g count s := by
  simp only [Regex.hexEscape?, h.skip, h.braced?, h.hexDigits?]

theorem Flags.Alike.spaced (h : f.Alike g) (wanted : Char → Bool) (fuel : Nat) (s : List Char) :
    spaced f wanted fuel s = spaced g wanted fuel s := by
  induction fuel generalizing s with
  | zero => rfl
  | succ fuel ih => cases s <;> simp only [Regex.spaced, h.skip, ih]

theorem Flags.Alike.boundary? (h : f.Alike g) (s : List Char) : boundary? f s = boundary? g s := by
  simp only [Regex.boundary?, h.skip, boundaryName_eq, h.spaced, h.word]

theorem Flags.Alike.namedAt? (h : f.Alike g) (s : List Char) : namedAt? f s = namedAt? g s := by
  simp only [Regex.namedAt?, h.skip, h.braced?]

theorem Flags.Alike.classEscape? (h : f.Alike g) (c : Char) :
    classEscape? f c = classEscape? g c := by
  simp only [Regex.classEscape?, h.digit, h.blank, h.word, h.negate?]

/-- The same but for the characters of a set. -/
inductive Atom.Alike : Atom → Atom → Prop
  | refl (a : Atom) : Alike a a
  | set (s s' : CharSet) : Alike (.set s) (.set s')

theorem Flags.Alike.propertyEscape? (h : f.Alike g) {negated : Bool} {atom : Atom}
    (hf : propertyEscape? f negated s = some (atom, rest)) :
    ∃ atom', propertyEscape? g negated s = some (atom', rest) ∧ atom.Alike atom' := by
  rw [propertyEscape?_eq] at hf ⊢
  rw [← h.namedAt?, ← h.unicode]
  split at hf
  · next set after hname =>
    split at hf
    · next hunicode =>
      obtain ⟨closed, hclosed, heq⟩ := Option.map_eq_some_iff.1 hf
      obtain ⟨rfl, rfl⟩ := Prod.mk.inj heq
      obtain ⟨closed', hclosed'⟩ := exists_of_isSome_eq (h.closeNegate? negated set set) hclosed
      exact ⟨.set closed', by simp [hunicode, hclosed'], .set _ _⟩
    · simp at hf
  · simp at hf

theorem Flags.Alike.escape? (h : f.Alike g) {atom : Atom}
    (hf : escape? f s = some (atom, rest)) :
    ∃ atom', escape? g s = some (atom', rest) ∧ atom.Alike atom' := by
  cases s with
  | nil => simp [Regex.escape?] at hf
  | cons c s =>
    rw [Regex.escape?.eq_def] at hf ⊢
    dsimp only at hf ⊢
    simp only [← h.hexEscape?, ← h.boundary?, ← h.word, ← h.classEscape?]
    split at hf
    · exact ⟨atom, hf, .refl _⟩
    · exact ⟨atom, hf, .refl _⟩
    · exact ⟨atom, hf, .refl _⟩
    · exact h.propertyEscape? hf
    · exact h.propertyEscape? hf
    all_goals exact ⟨atom, by simpa using hf, .refl _⟩

/-! ## Bracket expressions -/

theorem Flags.Alike.openBracket? (h : f.Alike g) (s : List Char) :
    openBracket? f s = openBracket? g s := by
  simp only [Regex.openBracket?, h.skip, leadingMinus_eq, h.spaced]

theorem Flags.Alike.judge? (h : f.Alike g) (s : List Char) : judge? f s = judge? g s := by
  simp only [Regex.judge?, h.verbose]

theorem Flags.Alike.bracketAtom? (h : f.Alike g) {atom : Atom}
    (hf : bracketAtom? f s = some (atom, rest)) :
    ∃ atom', bracketAtom? g s = some (atom', rest) ∧ atom.Alike atom' := by
  unfold Regex.bracketAtom? at hf ⊢
  split at hf
  · simp at hf
  · exact h.escape? hf
  · exact ⟨atom, hf, .refl _⟩

theorem Flags.Alike.alone? (h : f.Alike g) {atom atom' : Atom} (hatom : atom.Alike atom')
    {set : CharSet} (hf : alone? f atom s = some (set, rest)) :
    ∃ set', alone? g atom' s = some (set', rest) := by
  cases hatom with
  | refl => exact ⟨set, by simpa only [Regex.alone?, h.bracketChar?] using hf⟩
  | set s₁ s₂ =>
    obtain ⟨rfl, rfl⟩ := Prod.mk.inj (Option.some.inj hf)
    exact ⟨s₂, rfl⟩

theorem Flags.Alike.range? (h : f.Alike g) {lo lo' hi hi' : Atom} (hlo : lo.Alike lo')
    (hhi : hi.Alike hi') {set : CharSet} (hf : range? f lo (some (hi, s)) = some (set, rest)) :
    range? g lo' (some (hi', s)) = some (set, rest) := by
  cases hlo with
  | refl =>
    cases hhi with
    | refl => simpa only [Regex.range?, h.bracketChar?] using hf
    | set => cases lo <;> simp [Regex.range?] at hf
  | set => simp [Regex.range?] at hf

theorem Flags.Alike.bracketItem? (h : f.Alike g) {set : CharSet}
    (hf : bracketItem? f s = some (set, rest)) :
    ∃ set', bracketItem? g s = some (set', rest) := by
  rw [bracketItem?_eq] at hf ⊢
  cases hatom : Regex.bracketAtom? f s with
  | none => simp [hatom] at hf
  | some found =>
    obtain ⟨atom, left⟩ := found
    obtain ⟨atom', hatom', halike⟩ := h.bracketAtom? hatom
    simp only [hatom, hatom', ← h.skip, ← h.judge?] at hf ⊢
    split at hf
    · simp at hf
    · split at hf
      · next halone =>
        rw [if_pos halone]
        exact h.alone? halike hf
      · next halone =>
        rw [if_neg halone]
        generalize hsecond : Regex.bracketAtom? f (f.skip _) = second at hf
        cases second with
        | none => cases atom <;> simp [Regex.range?] at hf
        | some found =>
          obtain ⟨hi, left⟩ := found
          obtain ⟨hi', hhi', hhialike⟩ := h.bracketAtom? hsecond
          rw [hhi']
          exact ⟨set, h.range? halike hhialike hf⟩
    · exact h.alone? halike hf

/-- Brackets that are open in the same place. -/
structure Bracket.Alike (b b' : Bracket) : Prop where
  negated : b.negated = b'.negated
  waiting : b.waiting.map (fun w => w.2.depth) = b'.waiting.map fun w => w.2.depth
  depths : b.depths = b'.depths

namespace Bracket.Alike

variable {b b' : Bracket}

theorem refl (b : Bracket) : b.Alike b := ⟨rfl, rfl, rfl⟩

theorem add (h : b.Alike b') (s s' : CharSet) (depth : Nat) :
    (b.add s depth).Alike (b'.add s' depth) :=
  ⟨h.negated, h.waiting, congrArg (List.cons depth) h.depths⟩

theorem depth_contents (h : b.Alike b') (f g : Flags) :
    (b.contents f).depth = (b'.contents g).depth := by
  have hwaiting := h.waiting
  unfold Bracket.contents
  rw [h.depths]
  cases hw : b.waiting <;> cases hw' : b'.waiting <;> simp_all

theorem operate? (h : b.Alike b') {op : SetOp} {c : Bracket} (hc : b.operate? f op = some c) :
    ∃ c', b'.operate? g op = some c' ∧ c.Alike c' := by
  have hdepth := h.depth_contents f g
  unfold Bracket.operate? at hc ⊢
  dsimp only at hc ⊢
  rw [← hdepth]
  split at hc
  · next hle =>
    obtain rfl := Option.some.inj hc
    rw [if_pos hle]
    exact ⟨_, rfl, h.negated, by simp [hdepth], rfl⟩
  · simp at hc

theorem close? (h : b.Alike b') (hf : f.Alike g) {inner : Nested}
    (hinner : b.close? f = some inner) :
    ∃ inner', b'.close? g = some inner' ∧ inner.depth = inner'.depth := by
  obtain ⟨set, hset, rfl⟩ := Option.map_eq_some_iff.1 hinner
  obtain ⟨set', hset'⟩ := exists_of_isSome_eq
    (hf.closeNegate? b.negated (b.contents f).set (b'.contents g).set) hset
  rw [h.negated] at hset'
  refine ⟨⟨set', (b'.contents g).depth + 1⟩, ?_, ?_⟩
  · unfold Bracket.close?
    simp [hset']
  · rw [h.depth_contents f g]

end Bracket.Alike

theorem Flags.Alike.brackets? (h : f.Alike g) {fuel : Nat} {b b' : Bracket}
    {outer outer' : List Bracket} (hb : b.Alike b')
    (houter : List.Forall₂ Bracket.Alike outer outer') {inner : Nested}
    (hf : brackets? f fuel b outer s = some (inner, rest)) :
    ∃ inner', brackets? g fuel b' outer' s = some (inner', rest) ∧ inner.depth = inner'.depth := by
  induction fuel generalizing b b' outer outer' s with
  | zero => simp [Regex.brackets?] at hf
  | succ fuel ih =>
    have hnext : ∀ {x x' : Option Bracket} {s},
        (∀ c, x = some c → ∃ c', x' = some c' ∧ c.Alike c') →
        (x.bind fun b => Regex.brackets? f fuel b outer s) = some (inner, rest) →
        ∃ inner', (x'.bind fun b => Regex.brackets? g fuel b outer' s) = some (inner', rest) ∧
          inner.depth = inner'.depth := by
      intro x x' s hx hf
      obtain ⟨c, rfl, hf⟩ := Option.bind_eq_some_iff.1 hf
      obtain ⟨c', rfl, hc⟩ := hx c rfl
      exact ih hc houter hf
    simp only [Regex.brackets?, ← h.skip] at hf ⊢
    split at hf
    · simp at hf
    · next rest' _ =>
      cases hclass : namedClass? rest' with
      | some found =>
        obtain ⟨set, negated, left⟩ := found
        simp only [hclass] at hf ⊢
        obtain ⟨closed, hclosed, hf⟩ := Option.bind_eq_some_iff.1 hf
        obtain ⟨closed', hclosed'⟩ := exists_of_isSome_eq (h.closeNegate? negated set set) hclosed
        rw [hclosed', Option.bind_some]
        exact ih (hb.add closed closed' 0) houter hf
      | none =>
        simp only [hclass, ← houter.length_eq, ← h.openBracket?] at hf ⊢
        split at hf
        · next hdepth =>
          obtain ⟨⟨opened, left⟩, hopen, hf⟩ := Option.bind_eq_some_iff.1 hf
          rw [if_pos hdepth, hopen, Option.bind_some]
          exact ih (.refl opened) (.cons hb houter) hf
        · simp at hf
    · obtain ⟨closed, hclosed, hf⟩ := Option.bind_eq_some_iff.1 hf
      obtain ⟨closed', hclosed', hdepth⟩ := hb.close? h hclosed
      rw [hclosed', Option.bind_some]
      cases houter with
      | nil =>
        obtain ⟨rfl, rfl⟩ := Prod.mk.inj (Option.some.inj hf)
        exact ⟨closed', rfl, hdepth⟩
      | cons ho hos => exact ih (hdepth ▸ ho.add closed.set closed'.set closed.depth) hos hf
    · exact hnext (fun c hc => hb.operate? hc) hf
    · exact hnext (fun c hc => hb.operate? hc) hf
    · exact hnext (fun c hc => hb.operate? hc) hf
    · obtain ⟨⟨set, left⟩, hitem, hf⟩ := Option.bind_eq_some_iff.1 hf
      obtain ⟨set', hitem'⟩ := h.bracketItem? hitem
      rw [hitem', Option.bind_some]
      exact ih (hb.add set set' 0) houter hf

theorem Flags.Alike.bracketExpression? (h : f.Alike g) {inner : Nested}
    (hf : bracketExpression? f s = some (inner, rest)) :
    ∃ inner', bracketExpression? g s = some (inner', rest) ∧ inner.depth = inner'.depth := by
  unfold Regex.bracketExpression? at hf ⊢
  obtain ⟨⟨b, left⟩, hopen, hf⟩ := Option.bind_eq_some_iff.1 hf
  rw [← h.openBracket?, hopen, Option.bind_some]
  exact h.brackets? (.refl b) .nil hf

/-! ## Flags and repetitions -/

theorem Flags.Alike.flags? (h : f.Alike g) {value afterMinus any : Bool} {seen : List Char}
    {f' : Flags} (hf : flags? f value seen afterMinus s = some (f', any, rest)) :
    ∃ g', flags? g value seen afterMinus s = some (g', any, rest) ∧ f'.Alike g' := by
  induction s generalizing f g value seen afterMinus with
  | nil => simp [Regex.flags?] at hf
  | cons c s ih =>
    simp only [Regex.flags?] at hf ⊢
    split at hf
    · next hend =>
      rw [if_pos hend]
      split at hf
      · simp at hf
      · next hminus =>
        simp only [Option.some.injEq, Prod.mk.injEq] at hf
        obtain ⟨rfl, rfl, rfl⟩ := hf
        exact ⟨g, by rw [if_neg hminus], h⟩
    · next hend =>
      rw [if_neg hend]
      split at hf
      · next hsign =>
        rw [if_pos hsign]
        split at hf
        · next hvalue =>
          rw [if_pos hvalue]
          exact ih h hf
        · simp at hf
      · next hsign =>
        rw [if_neg hsign]
        split at hf
        · simp at hf
        · next hseen =>
          rw [if_neg hseen]
          split at hf
          · next hset =>
            obtain ⟨g', hset', halike⟩ := h.set? hset
            simp only [hset']
            exact ih halike hf
          · simp at hf

theorem Flags.Alike.count? (h : f.Alike g) (s : List Char) : count? f s = count? g s := by
  simp only [Regex.count?, digits_eq, h.spaced]

theorem Flags.Alike.bounds? (h : f.Alike g) (s : List Char) : bounds? f s = bounds? g s := by
  simp only [Regex.bounds?, h.skip, h.count?]

end TreeLint.Regex
