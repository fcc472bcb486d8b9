import TreeLint.Proofs.PatternAlike

/-!
# Patterns as alternatives of one pattern

Patterns are joined into one by bars, within a group that ignores case. Each of them is then read
as it would be by itself: the reader goes through the same steps, with more groups open around it
and with the names of groups that came before (`Inside`). It can fail where the pattern alone did
not, but only at a group whose name an earlier pattern took.

**Theorem** (`isSome_read?_joined`). Let each of some patterns be readable by itself, and let none
leave the verbose mode on or Unicode off at its end. Then the joined pattern can be read iff no two
of them name a group alike and all their alternatives together leave two levels of the nesting.

* `Inside.step?` takes one step, and `Inside.steps?` the steps through one pattern.
* `steps?_alternatives` goes from pattern to pattern, by induction on their list.
-/

namespace TreeLint.Regex

/-! ## One reader inside another -/

/-- What counts of an item: whether it is a pattern, and how deep it is nested. -/
def Item.shape (i : Item) : Bool × Nat := (i.pattern.isSome, i.depth)

/-- The innermost level of a reader, as a group. -/
def ReaderState.top (st : ReaderState) : Group := ⟨none, st.flags, st.items, st.alternatives⟩

/-- How deep the alternatives of the innermost level are nested, last one first. -/
def ReaderState.depths (st : ReaderState) : List Nat :=
  (st.sequence :: st.alternatives).map Prod.snd

theorem ReaderState.depth_contents (st : ReaderState) :
    st.contents.2 = rowDepth st.depths.reverse := by
  rw [depths, ← List.map_reverse]
  rfl

/-- Levels at which a reader can go on alike; the second one has the alternatives of the first and
others before them, which are nested as deep as `before` says. -/
structure Group.Alike (before : List Nat) (a b : Group) : Prop where
  flags : a.flags.Alike b.flags
  items : a.items.map Item.shape = b.items.map Item.shape
  alternatives : b.alternatives.map Prod.snd = a.alternatives.map Prod.snd ++ before

/-- The levels of a reader, and those of another one that reads the same inside more groups,
`below`. Levels that face each other are related by `R`, which allows for alternatives `before`
those of the first reader at its outermost level, and for none inside. -/
inductive Levels {α : Type} (R : List α → Group → Group → Prop) (before : List α)
    (below : List Group) : List Group → List Group → Prop
  | bottom {a b : Group} (h : R before a b) : Levels R before below [a] (b :: below)
  | up {a b : Group} {as bs : List Group} (h : R [] a b) (hs : Levels R before below as bs) :
      Levels R before below (a :: as) (b :: bs)

/-- The innermost levels are related, and can be changed if they stay so. -/
theorem Levels.top {α : Type} {R : List α → Group → Group → Prop} {before : List α}
    {below : List Group} {a b : Group} {as bs : List Group}
    (h : Levels R before below (a :: as) (b :: bs)) :
    ∃ before', R before' a b ∧
      ∀ a' b', R before' a' b' → Levels R before below (a' :: as) (b' :: bs) := by
  cases h with
  | bottom h => exact ⟨before, h, fun a' b' h' => .bottom h'⟩
  | up h hs => exact ⟨[], h, fun a' b' h' => .up h' hs⟩

/-- If the first reader has no open group, the second one is at the same level. -/
theorem Levels.outermost {α : Type} {R : List α → Group → Group → Prop} {before : List α}
    {below : List Group} {a b : Group} {bs : List Group}
    (h : Levels R before below [a] (b :: bs)) : bs = below ∧ R before a b := by
  cases h with
  | bottom h => exact ⟨rfl, h⟩
  | up _ hs => cases hs

variable {before : List Nat} {below : List Group} {old : List (List Char)}

/-- A reader of a pattern by itself, and one that reads the same pattern after alternatives whose
groups have the names `old`. -/
structure Inside (before : List Nat) (below : List Group) (old : List (List Char))
    (a b : ReaderState) : Prop where
  levels : Levels Group.Alike before below (a.top :: a.outer) (b.top :: b.outer)
  names : b.names = a.names ++ old

namespace Inside

variable {a a' b b' : ReaderState}

theorem flags (h : Inside before below old a b) : a.flags.Alike b.flags := by
  obtain ⟨_, halike, -⟩ := h.levels.top
  exact halike.flags

theorem change (h : Inside before below old a b) (ha : a'.outer = a.outer) (hb : b'.outer = b.outer)
    (hnames : a'.names = a.names) (hnames' : b'.names = b.names)
    (halike : ∀ before', a.top.Alike before' b.top → a'.top.Alike before' b'.top) :
    Inside before below old a' b' := by
  obtain ⟨before', htop, hlevels⟩ := h.levels.top
  exact ⟨by rw [ha, hb]; exact hlevels _ _ (halike _ htop), by rw [hnames', hnames, h.names]⟩

theorem add (h : Inside before below old a b) (p q : Pattern) :
    Inside before below old (a.add p) (b.add q) :=
  h.change rfl rfl rfl rfl fun _ htop =>
    ⟨htop.flags, congrArg (List.cons (true, 0)) htop.items, htop.alternatives⟩

theorem addNested? (h : Inside before below old a b) {p : Pattern} (q : Pattern) {depth : Nat}
    (ha : a.addNested? p depth = some a') :
    ∃ b', b.addNested? q depth = some b' ∧ Inside before below old a' b' ∧
      a'.names = a.names := by
  unfold ReaderState.addNested? at ha ⊢
  split at ha
  · next hdepth =>
    obtain rfl := Option.some.inj ha
    rw [if_pos hdepth]
    exact ⟨_, rfl, h.change rfl rfl rfl rfl fun _ htop =>
      ⟨htop.flags, congrArg (List.cons (true, depth)) htop.items, htop.alternatives⟩, rfl⟩
  · simp at ha

theorem depths_eq {before' : List Nat} (h : a.top.Alike before' b.top) :
    b.depths = a.depths ++ before' := by
  have hdepths := congrArg (List.map Prod.snd) h.items
  simp only [List.map_map] at hdepths
  have hsequence : b.sequence.2 = a.sequence.2 := congrArg rowDepth hdepths.symm
  have halternatives := h.alternatives
  simp only [ReaderState.top] at halternatives
  rw [ReaderState.depths, ReaderState.depths, List.map_cons, List.map_cons, hsequence,
    halternatives, List.cons_append]

theorem alternate (h : Inside before below old a b) :
    Inside before below old a.alternate b.alternate :=
  h.change rfl rfl rfl rfl fun _ htop => ⟨htop.flags, rfl, depths_eq htop⟩

theorem enter (h : Inside before below old a b) {f g : Flags} (hf : f.Alike g) (i j : Option Nat) :
    Inside before below old (a.enter f i) (b.enter g j) := by
  obtain ⟨before', htop, hlevels⟩ := h.levels.top
  exact ⟨.up ⟨hf, rfl, rfl⟩ (hlevels _ _ ⟨htop.flags, htop.items, htop.alternatives⟩), h.names⟩

theorem enterKept (h : Inside before below old a b) :
    Inside before below old a.enterKept b.enterKept :=
  let hin := h.enter h.flags (some (a.groups + 1)) (some (b.groups + 1))
  ⟨hin.levels, hin.names⟩

theorem close? (h : Inside before below old a b) (ha : a.close? = some a') :
    ∃ b', b.close? = some b' ∧ Inside before below old a' b' ∧ a'.names = a.names := by
  unfold ReaderState.close? at ha ⊢
  cases hout : a.outer with
  | nil => simp [hout] at ha
  | cons g gs =>
    have hlevels := h.levels
    rw [hout] at ha hlevels
    cases hlevels with
    | up htop hs =>
      cases hout' : b.outer with
      | nil => rw [hout'] at hs; cases hs
      | cons g' gs' =>
        rw [hout'] at hs
        obtain ⟨before', hg, hlevels⟩ := hs.top
        have hdepth : a.contents.2 = b.contents.2 := by
          rw [a.depth_contents, b.depth_contents, depths_eq htop, List.append_nil]
        dsimp only at ha ⊢
        rw [← hdepth]
        have hin : Inside before below old
            { a with
              flags := g.flags, items := g.items, alternatives := g.alternatives, outer := gs }
            { b with
              flags := g'.flags, items := g'.items, alternatives := g'.alternatives
              outer := gs' } :=
          ⟨hlevels _ _ ⟨hg.flags, hg.items, hg.alternatives⟩, h.names⟩
        exact hin.addNested? _ ha

theorem repeat? (h : Inside before below old a b) {least : Nat} {most : Option Nat} {greedy : Bool}
    (ha : a.repeat? least most greedy = some a') :
    ∃ b', b.repeat? least most greedy = some b' ∧ Inside before below old a' b' ∧
      a'.names = a.names := by
  unfold ReaderState.repeat? at ha ⊢
  obtain ⟨before', htop, hlevels⟩ := h.levels.top
  have hitems := htop.items
  simp only [ReaderState.top] at hitems
  split at ha
  · next p depth items hitem =>
    rw [hitem, List.map_cons] at hitems
    obtain ⟨⟨pattern, depth'⟩, items', hitem', hshape, hrest⟩ := List.map_eq_cons_iff.1 hitems.symm
    obtain ⟨hsome, rfl⟩ : pattern.isSome = true ∧ depth' = depth := by
      simpa [Item.shape] using hshape
    obtain ⟨q, rfl⟩ := Option.isSome_iff_exists.1 hsome
    rw [hitem']
    have hin : Inside before below old { a with items } { b with items := items' } :=
      ⟨hlevels _ _ ⟨htop.flags, hrest.symm, htop.alternatives⟩, h.names⟩
    exact hin.addNested? _ ha
  · simp at ha

theorem repeatMarked? (h : Inside before below old a b) {least : Nat} {most : Option Nat}
    {s rest : List Char} (ha : repeatMarked? a least most s = some (a', rest)) :
    ∃ b', repeatMarked? b least most s = some (b', rest) ∧ Inside before below old a' b' ∧
      a'.names = a.names := by
  unfold Regex.repeatMarked? at ha ⊢
  obtain ⟨c, hrepeat, heq⟩ := Option.map_eq_some_iff.1 ha
  obtain ⟨rfl, hrest⟩ := Prod.mk.inj heq
  obtain ⟨b', hb, hin⟩ := h.repeat? hrepeat
  exact ⟨b', Option.map_eq_some_iff.2 ⟨b', hb, Prod.ext rfl hrest⟩, hin⟩

/-- What becomes of a step of the pattern alone, to `a'` with `rest` left, inside: it goes on alike,
or it fails at a group whose name an earlier pattern took. -/
inductive Outcome (before : List Nat) (below : List Group) (old : List (List Char))
    (a a' : ReaderState) (rest : List Char) : Option (ReaderState × List Char) → Prop
  | goesOn {b' : ReaderState} (h : Inside before below old a' b')
      (hnames : a'.names = a.names ∨ ∃ n ∉ old, a'.names = n :: a.names) :
      Outcome before below old a a' rest (some (b', rest))
  | taken {n : List Char} (hn : n ∈ old) (hnames : a'.names = n :: a.names) :
      Outcome before below old a a' rest none

theorem Outcome.of_names_eq {rest : List Char} {x : Option (ReaderState × List Char)}
    (h : ∃ b', x = some (b', rest) ∧ Inside before below old a' b' ∧ a'.names = a.names) :
    Outcome before below old a a' rest x := by
  obtain ⟨b', rfl, hin, hnames⟩ := h
  exact .goesOn hin (.inl hnames)

theorem namedGroup? (h : Inside before below old a b) {s rest : List Char}
    (ha : namedGroup? a s = some (a', rest)) :
    Outcome before below old a a' rest (Regex.namedGroup? b s) := by
  unfold Regex.namedGroup? at ha ⊢
  dsimp only at ha ⊢
  split at ha
  · next c cs rest' hname hafter =>
    split at ha
    · next hgood =>
      obtain ⟨rfl, rfl⟩ := Prod.mk.inj (Option.some.inj ha)
      rw [hname] at hgood ⊢
      simp only [Bool.and_eq_true, Bool.not_eq_true', List.contains_eq_mem,
        decide_eq_false_iff_not] at hgood
      by_cases hold : c :: cs ∈ old
      · rw [if_neg (by simp [h.names, hold])]
        exact .taken hold rfl
      · rw [if_pos (by simp [h.names, hgood, hold])]
        exact .goesOn ⟨h.enterKept.levels, by simp [h.names]⟩ (.inr ⟨_, hold, rfl⟩)
    · simp at ha
  · simp at ha

theorem group? (h : Inside before below old a b) {s rest : List Char}
    (ha : group? a s = some (a', rest)) :
    Outcome before below old a a' rest (Regex.group? b s) := by
  unfold Regex.group? at ha ⊢
  rw [← h.flags.skip]
  split at ha
  · exact h.namedGroup? ha
  · exact h.namedGroup? ha
  · split at ha
    · next hflags =>
      obtain ⟨g', hflags', halike⟩ := h.flags.flags? hflags
      obtain ⟨rfl, rfl⟩ := Prod.mk.inj (Option.some.inj ha)
      rw [hflags']
      exact .goesOn (h.enter halike none none) (.inl rfl)
    · next hflags =>
      obtain ⟨g', hflags', halike⟩ := h.flags.flags? hflags
      obtain ⟨rfl, rfl⟩ := Prod.mk.inj (Option.some.inj ha)
      rw [hflags']
      exact .goesOn (h.change rfl rfl rfl rfl fun _ htop =>
        ⟨halike, congrArg (List.cons (false, 0)) htop.items, htop.alternatives⟩) (.inl rfl)
    · simp at ha
  · obtain ⟨rfl, rfl⟩ := Prod.mk.inj (Option.some.inj ha)
    exact .goesOn h.enterKept (.inl rfl)

theorem literal? (h : Inside before below old a b) {c : Char} {byByte : Bool} {p : Pattern}
    (ha : a.flags.literal? c byByte = some p) :
    ∃ q, b.flags.literal? c byByte = some q ∧ Inside before below old (a.add p) (b.add q) := by
  obtain ⟨q, hq⟩ := exists_of_isSome_eq (h.flags.literal? c byByte) ha
  exact ⟨q, hq, h.add p q⟩

theorem addAtom? (h : Inside before below old a b) {atom atom' : Atom} (hatom : atom.Alike atom')
    (ha : a.addAtom? atom = some a') :
    ∃ b', b.addAtom? atom' = some b' ∧ Inside before below old a' b' ∧ a'.names = a.names := by
  cases hatom with
  | refl =>
    cases atom with
    | char c byByte =>
      obtain ⟨p, hp, rfl⟩ := Option.map_eq_some_iff.1 ha
      obtain ⟨q, hq, hin⟩ := h.literal? hp
      exact ⟨b.add q, Option.map_eq_some_iff.2 ⟨q, hq, rfl⟩, hin, rfl⟩
    | set set =>
      obtain rfl := Option.some.inj ha
      exact ⟨_, rfl, h.add _ _, rfl⟩
    | anchor anchor =>
      obtain rfl := Option.some.inj ha
      exact ⟨_, rfl, h.add _ _, rfl⟩
  | set set set' =>
    obtain rfl := Option.some.inj ha
    exact ⟨_, rfl, h.add _ _, rfl⟩

/-- One step of the pattern alone is a step inside, or is a group whose name an earlier pattern
took. -/
theorem step? (h : Inside before below old a b) {s rest : List Char}
    (ha : step? a s = some (a', rest)) :
    Outcome before below old a a' rest (Regex.step? b s) := by
  cases s with
  | nil => simp [Regex.step?] at ha
  | cons c s =>
    by_cases hbackslash : c = '\\'
    · subst hbackslash
      rw [step?_backslash] at ha ⊢
      obtain ⟨⟨atom, left⟩, hatom, ha⟩ := Option.bind_eq_some_iff.1 ha
      obtain ⟨atom', hatom', halike⟩ := h.flags.escape? hatom
      obtain ⟨c, hadd, heq⟩ := Option.map_eq_some_iff.1 ha
      obtain ⟨rfl, rfl⟩ := Prod.mk.inj heq
      obtain ⟨b', hb, hin⟩ := h.addAtom? halike hadd
      rw [hatom', Option.bind_some]
      exact .of_names_eq ⟨b', Option.map_eq_some_iff.2 ⟨b', hb, rfl⟩, hin⟩
    rw [Regex.step?.eq_def] at ha ⊢
    dsimp only at ha ⊢
    split at ha
    · exact h.group? ha
    · obtain ⟨c, hclose, heq⟩ := Option.map_eq_some_iff.1 ha
      obtain ⟨rfl, rfl⟩ := Prod.mk.inj heq
      obtain ⟨b', hb, hin⟩ := h.close? hclose
      exact .of_names_eq ⟨b', by rw [hb]; rfl, hin⟩
    · obtain ⟨rfl, rfl⟩ := Prod.mk.inj (Option.some.inj ha)
      exact .goesOn h.alternate (.inl rfl)
    · obtain ⟨⟨inner, left⟩, hbracket, ha⟩ := Option.bind_eq_some_iff.1 ha
      obtain ⟨inner', hbracket', hdepth⟩ := h.flags.bracketExpression? hbracket
      obtain ⟨c, hadd, heq⟩ := Option.map_eq_some_iff.1 ha
      obtain ⟨rfl, rfl⟩ := Prod.mk.inj heq
      obtain ⟨b', hb, hin⟩ := h.addNested? (.ofSet inner'.set) hadd
      exact .of_names_eq ⟨b', by rw [hbracket', Option.bind_some, ← hdepth, hb]; rfl, hin⟩
    · exact .of_names_eq (h.repeatMarked? ha)
    · exact .of_names_eq (h.repeatMarked? ha)
    · exact .of_names_eq (h.repeatMarked? ha)
    · obtain ⟨⟨⟨least, most⟩, left⟩, hbounds, ha⟩ := Option.bind_eq_some_iff.1 ha
      rw [← h.flags.bounds?, hbounds, Option.bind_some, ← h.flags.skip]
      exact .of_names_eq (h.repeatMarked? ha)
    · obtain ⟨set, hdot, heq⟩ := Option.map_eq_some_iff.1 ha
      obtain ⟨rfl, rfl⟩ := Prod.mk.inj heq
      obtain ⟨set', hdot'⟩ := exists_of_isSome_eq h.flags.dot? hdot
      exact .of_names_eq ⟨_, by rw [hdot']; rfl, h.add _ _, rfl⟩
    · obtain ⟨rfl, rfl⟩ := Prod.mk.inj (Option.some.inj ha)
      exact .goesOn (h.add _ _) (.inl rfl)
    · obtain ⟨rfl, rfl⟩ := Prod.mk.inj (Option.some.inj ha)
      exact .goesOn (h.add _ _) (.inl rfl)
    · exact (hbackslash rfl).elim
    · obtain ⟨p, hp, heq⟩ := Option.map_eq_some_iff.1 ha
      obtain ⟨rfl, rfl⟩ := Prod.mk.inj heq
      obtain ⟨q, hq, hin⟩ := h.literal? hp
      exact .of_names_eq ⟨b.add q, by rw [hq]; rfl, hin, rfl⟩

theorem Outcome.names_subset {rest : List Char} {x : Option (ReaderState × List Char)}
    (h : Outcome before below old a a' rest x) : a.names ⊆ a'.names := by
  cases h with
  | goesOn h hnames =>
    obtain hnames | ⟨n, -, hnames⟩ := hnames
    · simp [hnames]
    · simp [hnames]
  | taken hn hnames => simp [hnames]

/-- A reader inside nothing else. -/
protected theorem refl (a : ReaderState) : Inside [] [] [] a a := by
  have hlevels : ∀ (g : Group) gs, Levels Group.Alike [] [] (g :: gs) (g :: gs) := by
    intro g gs
    induction gs generalizing g with
    | nil => exact .bottom ⟨⟨rfl, rfl⟩, rfl, (List.append_nil _).symm⟩
    | cons g' gs ih => exact .up ⟨⟨rfl, rfl⟩, rfl, (List.append_nil _).symm⟩ (ih g')
  exact ⟨hlevels _ _, (List.append_nil _).symm⟩

theorem eq_of_steps?_nil {n : Nat} {z : ReaderState} (h : Regex.steps? n a [] = some z) :
    z = a := by
  cases n with
  | zero => simp [Regex.steps?] at h
  | succ n =>
    have hskip : a.flags.skip [] = [] :=
      List.eq_nil_of_length_eq_zero (Nat.le_zero.1 (Flags.length_skip_le a.flags []))
    simp only [Regex.steps?, hskip, Option.some.injEq] at h
    exact h.symm

/-- The first round of the steps through a pattern: nothing is left to read, or there is a step, which
is the same when something follows the pattern. -/
theorem round_of_steps? {n : Nat} {s : List Char} {z : ReaderState} (hz : z.flags.verbose = false)
    (ha : Regex.steps? (n + 1) a s = some z) :
    (s = [] ∧ a = z) ∨ ∃ c s' a' rest, a.flags.skip s = c :: s' ∧
      (∀ t, EndsAlternative t → Regex.step? a (c :: (s' ++ t)) = some (a', rest ++ t)) ∧
      Regex.steps? n a' rest = some z := by
  simp only [Regex.steps?] at ha
  cases hskip : a.flags.skip s with
  | nil =>
    simp only [hskip, Option.some.injEq] at ha
    subst ha
    exact .inl ⟨by simpa [Flags.skip, hz] using hskip, rfl⟩
  | cons c s' =>
    simp only [hskip] at ha
    cases hstep : Regex.step? a (c :: s') with
    | none => simp [hstep] at ha
    | some found =>
      obtain ⟨a', rest⟩ := found
      simp only [hstep] at ha
      have hrest : a'.flags.verbose → rest ≠ [] := by
        rintro hverbose rfl
        obtain rfl := eq_of_steps?_nil ha
        simp [hz] at hverbose
      exact .inr ⟨c, s', a', rest, rfl, fun t ht => step?_append hstep hrest ht, ha⟩

theorem names_subset_steps? {n : Nat} {s : List Char} {z : ReaderState}
    (ha : Regex.steps? n a s = some z) : a.names ⊆ z.names := by
  induction n generalizing a s with
  | zero => simp [Regex.steps?] at ha
  | succ n ih =>
    simp only [Regex.steps?] at ha
    split at ha
    · rw [Option.some.inj ha]
      exact List.Subset.refl _
    · split at ha
      · next hstep => exact List.Subset.trans ((Inside.refl a).step? hstep).names_subset (ih ha)
      · simp at ha

/-- The steps through a pattern alone are steps inside, or lead to a group whose name an earlier
pattern took. What follows the pattern is left. -/
theorem steps? {z : ReaderState} {n : Nat} {s t : List Char} (ht : EndsAlternative t)
    (hz : z.flags.verbose = false) (h : Inside before below old a b)
    (hold : ∀ m ∈ a.names, m ∉ old) (ha : steps? n a s = some z) :
    ((∀ m ∈ z.names, m ∉ old) ∧ ∃ k b', k < n ∧ Inside before below old z b' ∧
      ∀ fuel, Regex.steps? (k + fuel) b (s ++ t) = Regex.steps? fuel b' t) ∨
    (∃ m ∈ z.names, m ∈ old) ∧ ∀ fuel, Regex.steps? fuel b (s ++ t) = none := by
  induction n generalizing a b s with
  | zero => simp [Regex.steps?] at ha
  | succ n ih =>
    obtain ⟨rfl, rfl⟩ | ⟨c, s', a', rest, hskip, hstep, ha⟩ := round_of_steps? hz ha
    · -- The pattern is read, and what follows is not touched.
      exact .inl ⟨hold, 0, b, Nat.succ_pos n, h, fun fuel => by rw [Nat.zero_add, List.nil_append]⟩
    · have hskip' : b.flags.skip (s ++ t) = c :: (s' ++ t) := by
        rw [← h.flags.skip]
        exact Flags.skip_append_of_eq hskip
      have hout := h.step? (hstep t ht)
      generalize hinside : Regex.step? b (c :: (s' ++ t)) = next at hout
      cases hout with
      | @goesOn c h' hnames =>
        have hold' : ∀ m ∈ a'.names, m ∉ old := by
          intro m hm
          obtain hnames | ⟨n, hn, hnames⟩ := hnames
          · exact hold m (hnames ▸ hm)
          · obtain rfl | hm := List.mem_cons.1 (hnames ▸ hm)
            · exact hn
            · exact hold m hm
        have hround : ∀ fuel, Regex.steps? (fuel + 1) b (s ++ t) =
            Regex.steps? fuel c (rest ++ t) := by
          intro fuel
          simp only [Regex.steps?, hskip', hinside]
        obtain ⟨hfree, k, b', hk, hin, hgo⟩ | ⟨htaken, hnone⟩ := ih h' hold' ha
        · refine .inl ⟨hfree, k + 1, b', Nat.succ_lt_succ hk, hin, fun fuel => ?_⟩
          rw [Nat.add_right_comm, hround, hgo]
        · refine .inr ⟨htaken, fun fuel => ?_⟩
          cases fuel with
          | zero => rfl
          | succ fuel => rw [hround, hnone]
      | @taken m hm hnames =>
        refine .inr ⟨⟨m, names_subset_steps? ha (by simp [hnames]), hm⟩, fun fuel => ?_⟩
        cases fuel with
        | zero => rfl
        | succ fuel => simp only [Regex.steps?, hskip', hinside]

end Inside

/-! ## Many alternatives -/

/-- The reader at the end of a pattern that is read by itself. -/
def final? (text : List Char) : Option ReaderState := steps? (text.length + 1) {} text

/-- The names of the groups of a pattern. -/
def groupNames (text : List Char) : List (List Char) := (final? text).elim [] (·.names)

/-- How deep the alternatives of a pattern are nested. -/
def alternativeDepths (text : List Char) : List Nat := (final? text).elim [] (·.depths.reverse)

/-- The pattern can be read, and at its end blanks count and Unicode is on, as at its start. -/
def SelfContained (text : List Char) : Prop :=
  ∃ z, final? text = some z ∧ z.outer = [] ∧ z.flags.verbose = false ∧ z.flags.unicode = true

/-- No group has a name that is old or that a group of an earlier pattern has. -/
def Fresh : (old : List (List Char)) → List (List Char) → Prop
  | _, [] => True
  | old, p :: ps => (∀ m ∈ groupNames p, m ∉ old) ∧ Fresh (groupNames p ++ old) ps

theorem fresh_iff {ps : List (List Char)} :
    Fresh old ps ↔ (∀ p ∈ ps, ∀ m ∈ groupNames p, m ∉ old) ∧
      ps.Pairwise fun p q => ∀ m ∈ groupNames p, m ∉ groupNames q := by
  induction ps generalizing old with
  | nil => simp [Fresh]
  | cons p ps ih =>
    rw [Fresh, ih, List.pairwise_cons, List.forall_mem_cons]
    constructor
    · rintro ⟨hp, hold, hps⟩
      refine ⟨⟨hp, fun q hq m hm hmold => ?_⟩, fun q hq m hm hmq => ?_, hps⟩
      · exact hold q hq m hm (List.mem_append_right _ hmold)
      · exact hold q hq m hmq (List.mem_append_left _ hm)
    · rintro ⟨⟨hp, hold⟩, hq, hps⟩
      refine ⟨hp, fun q hmem m hm hnew => ?_, hps⟩
      obtain hnew | hnew := List.mem_append.1 hnew
      · exact hq q hmem m hnew hm
      · exact hold q hmem m hm hnew

/-- The alternatives after the first one, up to the parenthesis that closes the group. -/
def follow : List (List Char) → List Char
  | [] => [')']
  | p :: ps => '|' :: p ++ follow ps

theorem endsAlternative_follow (ps : List (List Char)) : EndsAlternative (follow ps) := by
  cases ps with
  | nil => exact ⟨')', rfl, .inr rfl⟩
  | cons p ps => exact ⟨'|', rfl, .inl rfl⟩

/-- The reader after an alternative of the group that `below` is around: the alternatives so far are
nested as deep as `depths` says, last one first, and their groups have the names `names`. -/
structure After (depths : List Nat) (below : List Group) (names : List (List Char))
    (b : ReaderState) : Prop where
  outer : b.outer = below
  depths : b.depths = depths
  names : b.names = names
  verbose : b.flags.verbose = false
  unicode : b.flags.unicode = true

/-- After a bar, the next pattern is read as by itself. -/
theorem After.alternate {depths : List Nat} {b : ReaderState} (h : After depths below old b) :
    Inside depths below old {} b.alternate := by
  refine ⟨?_, h.names⟩
  show Levels Group.Alike depths below [_] (b.alternate.top :: b.outer)
  rw [h.outer]
  exact .bottom ⟨⟨h.verbose.symm, h.unicode.symm⟩, rfl, h.depths⟩

theorem steps?_alternative {p t : List Char} {b : ReaderState} (hp : SelfContained p)
    (ht : EndsAlternative t) (h : Inside before below old {} b) :
    ((∀ m ∈ groupNames p, m ∉ old) ∧ ∃ k b', k ≤ p.length ∧
      After ((alternativeDepths p).reverse ++ before) below (groupNames p ++ old) b' ∧
      ∀ fuel, steps? (k + fuel) b (p ++ t) = steps? fuel b' t) ∨
    (∃ m ∈ groupNames p, m ∈ old) ∧ ∀ fuel, steps? fuel b (p ++ t) = none := by
  obtain ⟨z, hz, houter, hverbose, hunicode⟩ := hp
  have hnames : groupNames p = z.names := by simp [groupNames, hz]
  have hdepths : (alternativeDepths p).reverse = z.depths := by simp [alternativeDepths, hz]
  rw [hnames, hdepths]
  refine (h.steps? ht hverbose (by simp) hz).imp_left ?_
  rintro ⟨hfree, k, b', hk, hin, hgo⟩
  refine ⟨hfree, k, b', Nat.le_of_lt_succ hk, ?_, hgo⟩
  have hlevels := hin.levels
  rw [houter] at hlevels
  obtain ⟨hbelow, halike⟩ := hlevels.outermost
  exact ⟨hbelow, Inside.depths_eq halike, hin.names, halike.flags.verbose ▸ hverbose,
    halike.flags.unicode ▸ hunicode⟩

/-- The steps through many alternatives lead to the parenthesis, unless a name comes again. -/
theorem steps?_alternatives {p : List Char} {ps : List (List Char)} {b : ReaderState}
    (hps : ∀ q ∈ p :: ps, SelfContained q) (h : Inside before below old {} b) :
    (Fresh old (p :: ps) ∧ ∃ k b' names, k + 1 ≤ (p ++ follow ps).length ∧
      After (((p :: ps).flatMap alternativeDepths).reverse ++ before) below names b' ∧
      ∀ fuel, steps? (k + fuel) b (p ++ follow ps) = steps? fuel b' [')']) ∨
    ¬Fresh old (p :: ps) ∧
      ∀ fuel, (p ++ follow ps).length ≤ fuel → steps? fuel b (p ++ follow ps) = none := by
  induction ps generalizing p before old b with
  | nil =>
    obtain ⟨hfree, k, b', hk, hafter, hgo⟩ | ⟨⟨m, hm, hold⟩, hnone⟩ :=
      steps?_alternative (hps p List.mem_cons_self) (endsAlternative_follow []) h
    · exact .inl ⟨⟨hfree, trivial⟩, k, b', _, by simpa [follow] using hk,
        by simpa using hafter, hgo⟩
    · exact .inr ⟨fun hfresh => hfresh.1 m hm hold, fun fuel _ => hnone fuel⟩
  | cons q ps ih =>
    obtain ⟨hp, hps⟩ := List.forall_mem_cons.1 hps
    obtain ⟨hfree, k, b', hk, hafter, hgo⟩ | ⟨⟨m, hm, hold⟩, hnone⟩ :=
      steps?_alternative hp (endsAlternative_follow (q :: ps)) h
    · have hbar : ∀ fuel, steps? (k + 1 + fuel) b (p ++ follow (q :: ps)) =
          steps? fuel b'.alternate (q ++ follow ps) := by
        intro fuel
        rw [Nat.add_assoc, hgo, Nat.add_comm 1]
        simp only [steps?, follow, List.cons_append, Flags.skip, hafter.verbose, Bool.false_eq_true,
          if_false]
        rfl
      have hlength : (p ++ follow (q :: ps)).length = p.length + 1 + (q ++ follow ps).length := by
        simp [follow]
        omega
      obtain ⟨hfresh, k', b'', names, hk', hafter', hgo'⟩ | ⟨hnot, hnone⟩ := ih hps hafter.alternate
      · refine .inl ⟨⟨hfree, hfresh⟩, k + 1 + k', b'', names, by omega, ?_, fun fuel => ?_⟩
        · simpa [List.append_assoc] using hafter'
        · rw [Nat.add_assoc, hbar, hgo']
      · refine .inr ⟨fun hfresh => hnot hfresh.2, fun fuel hfuel => ?_⟩
        obtain ⟨fuel, rfl⟩ := Nat.exists_eq_add_of_le (show k + 1 ≤ fuel by omega)
        rw [hbar, hnone fuel (by omega)]
    · exact .inr ⟨fun hfresh => hfresh.1 m hm hold, fun fuel _ => hnone fuel⟩

/-! ## The joined pattern -/

/-- What stands before the first alternative. -/
def opening : List Char := ['(', '?', 'i', ')', '(', '?', ':']

/-- The flags inside the group of the alternatives. -/
def caseless : Flags := { ignoreCase := true }

/-- The reader before the first alternative. -/
def opened : ReaderState :=
  { flags := caseless, outer := [⟨none, caseless, [⟨none, 0⟩], []⟩] }

theorem steps?_opening (fuel : Nat) (s : List Char) :
    steps? (fuel + 2) {} (opening ++ s) = steps? fuel opened s := by
  rfl

theorem inside_opened : Inside [] opened.outer [] {} opened :=
  ⟨.bottom ⟨⟨rfl, rfl⟩, rfl, rfl⟩, rfl⟩

/-- What a reader has read when nothing is left. -/
def whole? (st : ReaderState) : Option Pattern :=
  if st.outer.isEmpty && st.contents.2 ≤ deepest then some st.contents.1 else none

theorem isSome_whole?_iff {st : ReaderState} :
    (whole? st).isSome ↔ st.outer = [] ∧ st.contents.2 ≤ deepest := by
  unfold whole?
  split <;> simp_all

theorem read?_eq (text : List Char) : read? text = (final? text).bind whole? := by
  unfold read? final?
  cases steps? (text.length + 1) {} text <;> rfl

/-- The group of the alternatives can be closed, and the pattern ends there, if all of them leave
two levels of the nesting. -/
theorem isSome_steps?_closing {depths : List Nat} {names : List (List Char)} {b : ReaderState}
    (h : After depths opened.outer names b) (fuel : Nat) :
    ((steps? (fuel + 2) b [')']).bind whole?).isSome ↔ rowDepth depths.reverse + 2 ≤ deepest := by
  have hskip : b.flags.skip [')'] = [')'] := by simp [Flags.skip, h.verbose]
  have hcontents : b.contents.2 = rowDepth depths.reverse := by rw [b.depth_contents, h.depths]
  have hclose : b.close? =
      if rowDepth depths.reverse + 1 ≤ deepest then
        some { b with
          flags := caseless
          items := [⟨some b.contents.1, rowDepth depths.reverse + 1⟩, ⟨none, 0⟩]
          alternatives := []
          outer := [] }
      else none := by
    rw [ReaderState.close?, h.outer, ← hcontents]
    rfl
  have hstep : step? b [')'] = b.close?.map fun st => (st, []) := rfl
  simp only [steps?, hskip, hstep, hclose]
  by_cases hdepth : rowDepth depths.reverse + 1 ≤ deepest
  · rw [if_pos hdepth]
    -- What is left is the item of the flags and the group.
    show (whole? _).isSome ↔ _
    have hrow : rowDepth [rowDepth depths.reverse + 1, 0] = rowDepth depths.reverse + 2 := by
      simp [rowDepth]
    rw [isSome_whole?_iff, ReaderState.depth_contents, ← hrow]
    exact and_iff_right rfl
  · rw [if_neg hdepth]
    simp
    omega

/-- The joined pattern can be read iff no two patterns name a group alike and all alternatives
leave two levels of the nesting. -/
theorem isSome_read?_joined {p : List Char} {ps : List (List Char)}
    (hps : ∀ q ∈ p :: ps, SelfContained q) :
    (read? (opening ++ (p ++ follow ps))).isSome ↔
      ((p :: ps).Pairwise fun q r => ∀ m ∈ groupNames q, m ∉ groupNames r) ∧
        rowDepth ((p :: ps).flatMap alternativeDepths) + 2 ≤ deepest := by
  have hfresh : Fresh [] (p :: ps) ↔
      (p :: ps).Pairwise fun q r => ∀ m ∈ groupNames q, m ∉ groupNames r := by simp [fresh_iff]
  have hstart : final? (opening ++ (p ++ follow ps)) =
      steps? ((p ++ follow ps).length + 6) opened (p ++ follow ps) := by
    rw [final?, List.length_append, show opening.length = 7 from rfl, Nat.add_comm 7]
    exact steps?_opening _ _
  rw [read?_eq, hstart, ← hfresh]
  obtain ⟨hnew, k, b, names, hk, hafter, hgo⟩ | ⟨hold, hnone⟩ :=
    steps?_alternatives hps inside_opened
  · obtain ⟨fuel, hfuel⟩ : ∃ fuel, (p ++ follow ps).length + 6 = k + (fuel + 2) :=
      ⟨(p ++ follow ps).length + 4 - k, by omega⟩
    rw [hfuel, hgo, isSome_steps?_closing hafter]
    simp [hnew]
  · rw [hnone _ (by omega)]
    simp [hold]

end TreeLint.Regex
