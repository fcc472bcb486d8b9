import TreeLint.Proofs.JoinedPatterns
import TreeLint.Proofs.PatternMeaning

/-!
# What the joined pattern matches

A flag that a pattern sets holds to the end of the group around it. In the joined pattern this is
the group of all alternatives, so the next pattern is read under the flags that this one leaves
(`readInTurn?`).

**Theorem** (`matchesIn_joined`). Let each of some patterns be readable by itself, and let none
leave the verbose mode on or Unicode off at its end. If the joined pattern can be read, it matches
where one of the patterns matches that are read in turn, the first one under flags that ignore case.
Patterns that leave the flags as they are are each read under these flags (`mem_of_kept`).

* `ReadsAlike.step?` takes one step of a reader by itself and of one inside the joined pattern, and
  `ReadsAlike.steps?` the steps through one pattern: what they have read agrees.
* `steps?_of_alternatives` goes from pattern to pattern, by induction on their list.
-/

namespace TreeLint.Regex

/-! ## Two readers of one text -/

/-- The alternatives of the innermost level, last one first. -/
def ReaderState.parts (st : ReaderState) : List Pattern :=
  (st.sequence :: st.alternatives).map Prod.fst

theorem ReaderState.contents_eq (st : ReaderState) : st.contents.1 = .choice st.parts.reverse := by
  rw [parts, ← List.map_reverse]
  rfl

/-- Items that stand for the same: patterns that agree, or changes of flags. -/
def Item.Agrees (i j : Item) : Prop := Option.Rel Pattern.Agrees i.pattern j.pattern

/-- Levels under the same flags, at which the same has been read; the second one has other
alternatives, `before`, before those of the first. -/
structure Group.Agrees (before : List Pattern) (a b : Group) : Prop where
  flags : b.flags = a.flags
  items : List.Forall₂ Item.Agrees a.items b.items
  alternatives : List.Forall₂ Pattern.Agrees (a.alternatives.map Prod.fst ++ before)
    (b.alternatives.map Prod.fst)

/-- A reader of a pattern by itself, and one that has read the same pattern as far, under the same
flags, after the alternatives `before` and inside the groups `below`. -/
def ReadsAlike (before : List Pattern) (below : List Group) (a b : ReaderState) : Prop :=
  Levels Group.Agrees before below (a.top :: a.outer) (b.top :: b.outer)

namespace ReadsAlike

variable {before : List Pattern} {below : List Group} {a a' b b' : ReaderState}
  {s t rest rest' : List Char}

theorem flags (h : ReadsAlike before below a b) : b.flags = a.flags := by
  obtain ⟨_, htop, -⟩ := h.top
  exact htop.flags

theorem change (h : ReadsAlike before below a b) (ha : a'.outer = a.outer)
    (hb : b'.outer = b.outer)
    (hagrees : ∀ before', a.top.Agrees before' b.top → a'.top.Agrees before' b'.top) :
    ReadsAlike before below a' b' := by
  obtain ⟨before', htop, hlevels⟩ := h.top
  rw [ReadsAlike, ha, hb]
  exact hlevels _ _ (hagrees _ htop)

theorem add (h : ReadsAlike before below a b) {p q : Pattern} (hpq : p.Agrees q) :
    ReadsAlike before below (a.add p) (b.add q) :=
  h.change rfl rfl fun _ htop => ⟨htop.flags, .cons (.some hpq) htop.items, htop.alternatives⟩

theorem addNested? (h : ReadsAlike before below a b) {p q : Pattern} (hpq : p.Agrees q)
    {depth depth' : Nat} (ha : a.addNested? p depth = some a')
    (hb : b.addNested? q depth' = some b') : ReadsAlike before below a' b' := by
  unfold ReaderState.addNested? at ha hb
  split at ha
  · split at hb
    · obtain rfl := Option.some.inj ha
      obtain rfl := Option.some.inj hb
      exact h.change rfl rfl fun _ htop =>
        ⟨htop.flags, .cons (.some hpq) htop.items, htop.alternatives⟩
    · simp at hb
  · simp at ha

/-- The alternatives of a level agree with those of the other one. -/
theorem parts {before' : List Pattern} (h : a.top.Agrees before' b.top) :
    List.Forall₂ Pattern.Agrees (a.parts ++ before') b.parts := by
  have hitems : List.Forall₂ Pattern.Agrees (a.items.reverse.filterMap (·.pattern))
      (b.items.reverse.filterMap (·.pattern)) := by
    apply List.rel_filterMap (fun _ _ h => h)
    rw [List.forall₂_reverse_iff]
    exact h.items
  exact .cons (Pattern.Agrees.sequence hitems) h.alternatives

theorem contents (h : a.top.Agrees [] b.top) : a.contents.1.Agrees b.contents.1 := by
  have hparts := parts h
  rw [List.append_nil] at hparts
  rw [a.contents_eq, b.contents_eq]
  exact Pattern.Agrees.choice (List.forall₂_reverse_iff.2 hparts)

theorem alternate (h : ReadsAlike before below a b) :
    ReadsAlike before below a.alternate b.alternate :=
  h.change rfl rfl fun _ htop => ⟨htop.flags, .nil, parts htop⟩

theorem enter (h : ReadsAlike before below a b) (f : Flags) (i j : Option Nat) :
    ReadsAlike before below (a.enter f i) (b.enter f j) := by
  obtain ⟨before', htop, hlevels⟩ := h.top
  exact .up ⟨rfl, .nil, .nil⟩ (hlevels _ _ ⟨htop.flags, htop.items, htop.alternatives⟩)

theorem enterKept (h : ReadsAlike before below a b) :
    ReadsAlike before below a.enterKept b.enterKept := by
  have henter := h.enter a.flags (some (a.groups + 1)) (some (b.groups + 1))
  rw [ReaderState.enterKept, ReaderState.enterKept, h.flags]
  exact henter

theorem close? (h : ReadsAlike before below a b) (ha : a.close? = some a')
    (hb : b.close? = some b') : ReadsAlike before below a' b' := by
  unfold ReaderState.close? at ha hb
  split at ha
  · simp at ha
  · next g gs hout =>
    split at hb
    · simp at hb
    · next g' gs' hout' =>
      have hlevels := h
      rw [ReadsAlike, hout, hout'] at hlevels
      cases hlevels with
      | up htop hs =>
        obtain ⟨before', hg, hlevels⟩ := hs.top
        have hin : ReadsAlike before below
            { a with
              flags := g.flags, items := g.items, alternatives := g.alternatives, outer := gs }
            { b with
              flags := g'.flags, items := g'.items, alternatives := g'.alternatives
              outer := gs' } :=
          hlevels _ _ ⟨hg.flags, hg.items, hg.alternatives⟩
        refine hin.addNested? ?_ ha hb
        -- Whether the match of a group is kept does not count.
        have hcontents := contents htop
        split <;> split
        · exact (Pattern.Agrees.group _ _).trans (hcontents.trans (Pattern.Agrees.group _ _).symm)
        · exact (Pattern.Agrees.group _ _).trans hcontents
        · exact hcontents.trans (Pattern.Agrees.group _ _).symm
        · exact hcontents

theorem repeat? (h : ReadsAlike before below a b) {least : Nat} {most : Option Nat}
    {greedy : Bool} (ha : a.repeat? least most greedy = some a')
    (hb : b.repeat? least most greedy = some b') : ReadsAlike before below a' b' := by
  unfold ReaderState.repeat? at ha hb
  obtain ⟨before', htop, hlevels⟩ := h.top
  have hitems := htop.items
  simp only [ReaderState.top] at hitems
  split at ha
  · next p depth items hitem =>
    split at hb
    · next q depth' items' hitem' =>
      rw [hitem, hitem'] at hitems
      cases hitems with
      | cons hpq hrest =>
        cases hpq with
        | some hpq =>
          have hin : ReadsAlike before below { a with items }
              { b with flags := a.flags, items := items' } :=
            hlevels _ _ ⟨rfl, hrest, htop.alternatives⟩
          have hrepeated := hpq.repeated least most (greedy != a.flags.lazyFirst)
          rw [h.flags] at hb
          exact hin.addNested? hrepeated ha hb
    · simp at hb
  · simp at ha

theorem of_some {x y : ReaderState} (h : ReadsAlike before below x y)
    (ha : some (x, s) = some (a', rest)) (hb : some (y, s) = some (b', rest')) :
    rest' = rest ∧ ReadsAlike before below a' b' := by
  obtain ⟨rfl, rfl⟩ := Prod.mk.inj (Option.some.inj ha)
  obtain ⟨rfl, rfl⟩ := Prod.mk.inj (Option.some.inj hb)
  exact ⟨rfl, h⟩

theorem of_map {x y : Option ReaderState}
    (h : ∀ a' b', x = some a' → y = some b' → ReadsAlike before below a' b')
    (ha : (x.map fun st => (st, s)) = some (a', rest))
    (hb : (y.map fun st => (st, s)) = some (b', rest')) :
    rest' = rest ∧ ReadsAlike before below a' b' := by
  obtain ⟨c, hx, ha⟩ := Option.map_eq_some_iff.1 ha
  obtain ⟨d, hy, hb⟩ := Option.map_eq_some_iff.1 hb
  exact of_some (h c d hx hy) (congrArg some ha) (congrArg some hb)

theorem repeatMarked? (h : ReadsAlike before below a b) {least : Nat} {most : Option Nat}
    (ha : repeatMarked? a least most s = some (a', rest))
    (hb : Regex.repeatMarked? b least most s = some (b', rest')) :
    rest' = rest ∧ ReadsAlike before below a' b' :=
  of_map (fun _ _ => h.repeat?) ha hb

theorem namedGroup? (h : ReadsAlike before below a b)
    (ha : namedGroup? a s = some (a', rest)) (hb : Regex.namedGroup? b s = some (b', rest')) :
    rest' = rest ∧ ReadsAlike before below a' b' := by
  revert hb
  unfold Regex.namedGroup? at ha ⊢
  dsimp only at ha ⊢
  split at ha
  · split at ha
    · intro hb
      split at hb
      · refine of_some ?_ ha hb
        exact h.enterKept
      · simp at hb
    · simp at ha
  · simp at ha

theorem group? (h : ReadsAlike before below a b)
    (ha : group? a s = some (a', rest)) (hb : Regex.group? b s = some (b', rest')) :
    rest' = rest ∧ ReadsAlike before below a' b' := by
  revert hb
  unfold Regex.group? at ha ⊢
  rw [h.flags]
  split at ha
  · exact h.namedGroup? ha
  · exact h.namedGroup? ha
  · split at ha
    · exact of_some (h.enter _ none none) ha
    · refine of_some ?_ ha
      exact h.change rfl rfl fun _ htop => ⟨rfl, .cons .none htop.items, htop.alternatives⟩
    · simp at ha
  · exact of_some h.enterKept ha

theorem addAtom? (h : ReadsAlike before below a b) {atom : Atom}
    (ha : a.addAtom? atom = some a') (hb : b.addAtom? atom = some b') :
    ReadsAlike before below a' b' := by
  cases atom with
  | char c byByte =>
    obtain ⟨p, hp, rfl⟩ := Option.map_eq_some_iff.1 ha
    obtain ⟨q, hq, rfl⟩ := Option.map_eq_some_iff.1 hb
    rw [h.flags, hp] at hq
    obtain rfl := Option.some.inj hq
    exact h.add (.refl p)
  | set set =>
    obtain rfl := Option.some.inj ha
    obtain rfl := Option.some.inj hb
    exact h.add (.refl _)
  | anchor anchor =>
    obtain rfl := Option.some.inj ha
    obtain rfl := Option.some.inj hb
    exact h.add (.refl _)

theorem step? (h : ReadsAlike before below a b) (ha : step? a s = some (a', rest))
    (hb : Regex.step? b s = some (b', rest')) : rest' = rest ∧ ReadsAlike before below a' b' := by
  cases s with
  | nil => simp [Regex.step?] at ha
  | cons c s =>
    by_cases hbackslash : c = '\\'
    · subst hbackslash
      rw [step?_backslash] at ha hb
      rw [h.flags] at hb
      obtain ⟨⟨atom, left⟩, hatom, ha⟩ := Option.bind_eq_some_iff.1 ha
      rw [hatom, Option.bind_some] at hb
      exact of_map (fun _ _ => h.addAtom?) ha hb
    revert hb
    rw [Regex.step?.eq_def] at ha ⊢
    dsimp only at ha ⊢
    rw [h.flags]
    split at ha
    · exact h.group? ha
    · exact of_map (fun _ _ => h.close?) ha
    · exact of_some h.alternate ha
    · obtain ⟨⟨inner, left⟩, hbracket, ha⟩ := Option.bind_eq_some_iff.1 ha
      rw [hbracket, Option.bind_some]
      exact of_map (fun _ _ => h.addNested? (.refl _)) ha
    · exact h.repeatMarked? ha
    · exact h.repeatMarked? ha
    · exact h.repeatMarked? ha
    · obtain ⟨⟨⟨least, most⟩, left⟩, hbounds, ha⟩ := Option.bind_eq_some_iff.1 ha
      rw [hbounds, Option.bind_some]
      exact h.repeatMarked? ha
    · obtain ⟨set, hdot, ha⟩ := Option.map_eq_some_iff.1 ha
      rw [hdot]
      exact of_some (h.add (.refl _)) (congrArg some ha)
    · exact of_some (h.add (.refl _)) ha
    · exact of_some (h.add (.refl _)) ha
    · exact (hbackslash rfl).elim
    · obtain ⟨p, hp, ha⟩ := Option.map_eq_some_iff.1 ha
      rw [hp]
      exact of_some (h.add (.refl p)) (congrArg some ha)

/-- The steps through a pattern by itself are steps of the other reader, which leave what follows
the pattern. -/
theorem steps? {z w : ReaderState} {n m : Nat} (ht : EndsAlternative t)
    (hz : z.flags.verbose = false) (h : ReadsAlike before below a b) (ha : steps? n a s = some z)
    (hb : Regex.steps? m b (s ++ t) = some w) :
    ∃ m' b', ReadsAlike before below z b' ∧ Regex.steps? m' b' t = some w := by
  induction n generalizing a b s m with
  | zero => simp [Regex.steps?] at ha
  | succ n ih =>
    obtain ⟨rfl, rfl⟩ | ⟨c, s', a', rest, hskip, hstep, ha⟩ := Inside.round_of_steps? hz ha
    · exact ⟨m, b, h, hb⟩
    · have hskip' : b.flags.skip (s ++ t) = c :: (s' ++ t) := by
        rw [h.flags]
        exact Flags.skip_append_of_eq hskip
      cases m with
      | zero => simp [Regex.steps?] at hb
      | succ m =>
        simp only [Regex.steps?, hskip'] at hb
        split at hb
        · next b' rest' hstep' =>
          obtain ⟨rfl, hreads⟩ := h.step? (hstep t ht) hstep'
          exact ih hreads ha hb
        · simp at hb

end ReadsAlike

/-! ## Other flags at the start -/

/-- A reader that is inside nothing else goes through the same steps under other flags. -/
theorem Inside.steps?_alone {a b z : ReaderState} {n : Nat} {s : List Char}
    (h : Inside [] [] [] a b) (ha : Regex.steps? n a s = some z) :
    ∃ z', Regex.steps? n b s = some z' ∧ Inside [] [] [] z z' := by
  induction n generalizing a b s with
  | zero => simp [Regex.steps?] at ha
  | succ n ih =>
    simp only [Regex.steps?] at ha ⊢
    rw [← h.flags.skip]
    split at ha
    · exact ⟨b, rfl, Option.some.inj ha ▸ h⟩
    · split at ha
      · next hstep =>
        have hout := h.step? hstep
        generalize Regex.step? b _ = next at hout ⊢
        cases hout with
        | goesOn h' => exact ih h' ha
        | taken hn => exact absurd hn List.not_mem_nil
      · simp at ha

/-- The reader at the end of a pattern that is read by itself, under such flags at its start. -/
def finalUnder? (f : Flags) (text : List Char) : Option ReaderState :=
  steps? (text.length + 1) { flags := f } text

/-- The pattern that a text stands for under such flags. -/
def readUnder? (f : Flags) (text : List Char) : Option Pattern := (finalUnder? f text).bind whole?

/-- The flags that a pattern leaves at its end. -/
def flagsAfter? (f : Flags) (text : List Char) : Option Flags :=
  (finalUnder? f text).map (·.flags)

/-- The patterns that texts stand for, each of them under the flags that the one before it
leaves. -/
def readInTurn? : (f : Flags) → List (List Char) → Option (List Pattern)
  | _, [] => some []
  | f, p :: ps =>
    match readUnder? f p, flagsAfter? f p with
    | some q, some g => (readInTurn? g ps).map (q :: ·)
    | _, _ => none

theorem whole?_eq_some {st : ReaderState} (h : (whole? st).isSome) :
    whole? st = some st.contents.1 := by
  unfold whole? at h ⊢
  split <;> simp_all

/-- A pattern that can be read by itself can be read under other flags. -/
theorem finalUnder?_of_selfContained {f : Flags} (hf : Flags.Alike {} f) {p : List Char}
    (hp : SelfContained p) (hread : (read? p).isSome) :
    ∃ z, finalUnder? f p = some z ∧ z.outer = [] ∧ Flags.Alike {} z.flags ∧
      readUnder? f p = some z.contents.1 := by
  obtain ⟨y, hy, houter, hverbose, hunicode⟩ := hp
  have hstart : Inside [] [] [] {} ({ flags := f } : ReaderState) :=
    ⟨.bottom ⟨hf, rfl, rfl⟩, rfl⟩
  obtain ⟨z, hz, hin⟩ := hstart.steps?_alone hy
  have hlevels := hin.levels
  rw [houter] at hlevels
  obtain ⟨hout, halike⟩ := hlevels.outermost
  refine ⟨z, hz, hout, ⟨?_, ?_⟩, ?_⟩
  · exact hverbose.symm.trans halike.flags.verbose
  · exact hunicode.symm.trans halike.flags.unicode
  · have hdepth : z.contents.2 = y.contents.2 := by
      rw [z.depth_contents, y.depth_contents, Inside.depths_eq halike, List.append_nil]
    have hwhole : (whole? z).isSome := by
      rw [read?_eq, hy, Option.bind_some, isSome_whole?_iff] at hread
      rw [isSome_whole?_iff, hdepth]
      exact ⟨hout, hread.2⟩
    rw [readUnder?, show finalUnder? f p = some z from hz, Option.bind_some]
    exact whole?_eq_some hwhole

/-! ## From pattern to pattern -/

theorem any_matchesIn {ps qs : List Pattern} (h : List.Forall₂ Pattern.Agrees ps qs)
    (text : List Char) : ps.any (·.matchesIn text) = qs.any (·.matchesIn text) := by
  induction h with
  | nil => rfl
  | cons hp _ ih => rw [List.any_cons, List.any_cons, hp.matchesIn, ih]

theorem ReaderState.matchesIn_contents (st : ReaderState) (text : List Char) :
    st.contents.1.matchesIn text = st.parts.any (·.matchesIn text) := by
  rw [contents_eq, Pattern.matchesIn_choice, List.any_reverse]

variable {before : List Pattern} {below : List Group} {b w : ReaderState} {m : Nat}

/-- The reader after alternatives of the group that `below` is around. They match where the patterns
`qs` or the alternatives before them match, and leave the flags `g`. -/
structure AfterReading (qs before : List Pattern) (below : List Group) (g : Flags)
    (b : ReaderState) : Prop where
  outer : b.outer = below
  flags : b.flags = g
  parts : ∀ text, b.parts.any (·.matchesIn text) = (qs ++ before).any (·.matchesIn text)

/-- After a bar, the next pattern is read under the flags that the last one leaves. -/
theorem AfterReading.alternate {qs : List Pattern} {g : Flags}
    (h : AfterReading qs before below g b) :
    ReadsAlike b.parts below { flags := g } b.alternate := by
  show Levels Group.Agrees b.parts below [_] (b.alternate.top :: b.outer)
  rw [h.outer]
  exact .bottom ⟨h.flags, .nil, List.forall₂_same.2 fun p _ => .refl p⟩

theorem AfterReading.cons {q : Pattern} {qs : List Pattern} {f g : Flags} {b' : ReaderState}
    (h : AfterReading [q] before below f b) (h' : AfterReading qs b.parts below g b') :
    AfterReading (q :: qs) before below g b' := by
  refine ⟨h'.outer, h'.flags, fun text => ?_⟩
  rw [h'.parts, List.any_append, h.parts]
  simp only [List.any_append, List.cons_append, List.nil_append, List.any_cons]
  ac_rfl

theorem steps?_of_alternative {f : Flags} (hf : Flags.Alike {} f) {p t : List Char}
    (ht : EndsAlternative t) (hp : SelfContained p ∧ (read? p).isSome)
    (h : ReadsAlike before below { flags := f } b) (hb : steps? m b (p ++ t) = some w) :
    ∃ q g m' b', readUnder? f p = some q ∧ flagsAfter? f p = some g ∧ Flags.Alike {} g ∧
      AfterReading [q] before below g b' ∧ steps? m' b' t = some w := by
  obtain ⟨z, hz, houter, halike, hq⟩ := finalUnder?_of_selfContained hf hp.1 hp.2
  obtain ⟨m', b', hreads, hsteps⟩ := h.steps? ht halike.verbose.symm hz hb
  have hlevels := hreads
  rw [ReadsAlike, houter] at hlevels
  obtain ⟨hbelow, hagrees⟩ := hlevels.outermost
  refine ⟨_, z.flags, m', b', hq, ?_, halike, ⟨hbelow, hreads.flags, fun text => ?_⟩, hsteps⟩
  · rw [flagsAfter?, hz, Option.map_some]
  · rw [← any_matchesIn (ReadsAlike.parts hagrees), List.any_append, List.any_append,
      List.any_cons, List.any_nil, Bool.or_false, z.matchesIn_contents]

/-- The steps through all alternatives, up to the parenthesis. -/
theorem steps?_of_alternatives {f : Flags} (hf : Flags.Alike {} f) {p : List Char}
    {ps : List (List Char)} (hps : ∀ q ∈ p :: ps, SelfContained q ∧ (read? q).isSome)
    (h : ReadsAlike before below { flags := f } b) (hb : steps? m b (p ++ follow ps) = some w) :
    ∃ qs g m' b', readInTurn? f (p :: ps) = some qs ∧ Flags.Alike {} g ∧
      AfterReading qs before below g b' ∧ steps? m' b' [')'] = some w := by
  induction ps generalizing f p before b m with
  | nil =>
    obtain ⟨q, g, m', b', hq, hg, halike, hafter, hsteps⟩ :=
      steps?_of_alternative hf (endsAlternative_follow []) (hps p List.mem_cons_self) h hb
    exact ⟨[q], g, m', b', by simp [readInTurn?, hq, hg], halike, hafter, hsteps⟩
  | cons p' ps ih =>
    obtain ⟨hp, hps⟩ := List.forall_mem_cons.1 hps
    obtain ⟨q, g, m', b', hq, hg, halike, hafter, hsteps⟩ :=
      steps?_of_alternative hf (endsAlternative_follow (p' :: ps)) hp h hb
    -- The bar is one step.
    have hverbose : b'.flags.verbose = false := hafter.flags ▸ halike.verbose.symm
    obtain ⟨m'', hbar⟩ : ∃ m'', steps? m'' b'.alternate (p' ++ follow ps) = some w := by
      cases m' with
      | zero => simp [steps?] at hsteps
      | succ m'' =>
        simp only [steps?, follow, List.cons_append, Flags.skip, hverbose, Bool.false_eq_true,
          if_false] at hsteps
        exact ⟨m'', hsteps⟩
    obtain ⟨qs, g', k, b'', hqs, halike', hafter', hsteps'⟩ := ih halike hps hafter.alternate hbar
    refine ⟨q :: qs, g', k, b'', ?_, halike', hafter.cons hafter', hsteps'⟩
    rw [readInTurn?, hq, hg]
    simp [hqs]

/-! ## The joined pattern -/

/-- The step that closes the group of the alternatives. -/
theorem matchesIn_of_closing (houter : b.outer = opened.outer) (hverbose : b.flags.verbose = false)
    (hb : steps? m b [')'] = some w) (text : List Char) :
    w.contents.1.matchesIn text = b.parts.any (·.matchesIn text) := by
  cases m with
  | zero => simp [steps?] at hb
  | succ m =>
    have hskip : b.flags.skip [')'] = [')'] := by simp [Flags.skip, hverbose]
    have hstep : step? b [')'] = b.close?.map fun st => (st, []) := rfl
    simp only [steps?, hskip, hstep] at hb
    cases hclose : b.close? with
    | none => simp [hclose] at hb
    | some st =>
      simp only [hclose, Option.map_some] at hb
      obtain rfl := Inside.eq_of_steps?_nil hb
      -- What is left is the item of the flags and the group.
      rw [ReaderState.close?, houter] at hclose
      unfold ReaderState.addNested? at hclose
      dsimp only [opened] at hclose
      split at hclose
      · obtain rfl := Option.some.inj hclose
        have hgroup : (Pattern.sequence [b.contents.1]).Agrees b.contents.1 :=
          (Pattern.sequence_agrees _).trans (Pattern.seq_empty _)
        rw [ReaderState.matchesIn_contents, ← b.matchesIn_contents, ← hgroup.matchesIn]
        exact Bool.or_false _
      · simp at hclose

/-- The joined pattern matches where one of the patterns does that are read in turn, under flags
that ignore case at first. -/
theorem matchesIn_joined {p : List Char} {ps : List (List Char)} {joined : Pattern}
    (hps : ∀ q ∈ p :: ps, SelfContained q ∧ (read? q).isSome)
    (hread : read? (opening ++ (p ++ follow ps)) = some joined) :
    ∃ qs, readInTurn? caseless (p :: ps) = some qs ∧
      ∀ text, joined.matchesIn text = qs.any (·.matchesIn text) := by
  rw [read?_eq] at hread
  obtain ⟨w, hw, hwhole⟩ := Option.bind_eq_some_iff.1 hread
  rw [whole?_eq_some (by simp [hwhole])] at hwhole
  obtain rfl := Option.some.inj hwhole
  have hstart : ReadsAlike [] opened.outer { flags := caseless } opened :=
    .bottom ⟨rfl, .nil, .nil⟩
  have hsteps : steps? ((p ++ follow ps).length + 6) opened (p ++ follow ps) = some w := by
    rw [final?, List.length_append, show opening.length = 7 from rfl, Nat.add_comm 7] at hw
    rw [← hw]
    exact (steps?_opening _ _).symm
  obtain ⟨qs, g, m, b, hqs, halike, hafter, hclosing⟩ :=
    steps?_of_alternatives (f := caseless) ⟨rfl, rfl⟩ hps hstart hsteps
  have hverbose : b.flags.verbose = false := hafter.flags ▸ halike.verbose.symm
  refine ⟨qs, hqs, fun text => ?_⟩
  rw [matchesIn_of_closing hafter.outer hverbose hclosing, hafter.parts, List.append_nil]

/-- Patterns that leave the flags as they are, the last one apart, are each read under these. -/
theorem mem_of_kept {f : Flags} {ps : List (List Char)} {qs : List Pattern}
    (hkept : ∀ p ∈ ps.dropLast, flagsAfter? f p = some f) (h : readInTurn? f ps = some qs)
    (q : Pattern) : q ∈ qs ↔ ∃ p ∈ ps, readUnder? f p = some q := by
  induction ps generalizing qs with
  | nil =>
    obtain rfl := Option.some.inj h
    simp
  | cons p ps ih =>
    rw [readInTurn?] at h
    split at h
    · next q' g hq hg =>
      obtain ⟨rest, hrest, rfl⟩ := Option.map_eq_some_iff.1 h
      have hmem : q ∈ rest ↔ ∃ p ∈ ps, readUnder? f p = some q := by
        by_cases hnil : ps = []
        · subst hnil
          obtain rfl := Option.some.inj hrest
          simp
        · rw [List.dropLast_cons_of_ne_nil hnil] at hkept
          obtain ⟨hp, hps⟩ := List.forall_mem_cons.1 hkept
          obtain rfl := Option.some.inj (hg.symm.trans hp)
          exact ih hps hrest
      rw [List.mem_cons, hmem, List.exists_mem_cons_iff, hq, Option.some.injEq, eq_comm]
    · simp at h

end TreeLint.Regex
