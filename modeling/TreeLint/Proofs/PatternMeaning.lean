import Mathlib.Data.Nat.Bitwise
import Mathlib.Data.List.Forall2
import TreeLint.Regex.Match

/-!
# What patterns mean

A pattern takes a set of positions to another one (`Pattern.reach`). The functions that make
patterns write equal things alike: they drop empty parts, join literals, turn a choice of
characters into a set and put a common start before a choice. None of this changes what a pattern
means, nor whether it matches only the empty text, which decides how it is repeated.

Patterns that agree in both (`Pattern.Agrees`) can stand for each other. The laws of patterns are
stated with it: a sequence is associative and the empty pattern is its unit, a common start
distributes over a choice, and a choice of sets is their union.

* `sequence_agrees`: a sequence is its parts one after the other.
* `choice_agrees`: a choice is its parts side by side.
* `matchesIn_choice`: a choice matches somewhere iff one of its parts does.
-/

namespace TreeLint

/-! ## Members of sets -/

namespace CharSet

variable (n : Nat)

theorem memRanges_cons (a : Nat × Nat) (as : List (Nat × Nat)) :
    memRanges n (a :: as) = if n < a.1 then false else decide (n ≤ a.2) || memRanges n as := rfl

/-- Merging loses no range and adds none, in whatever order the ranges are. -/
theorem memRanges_merge (as bs : List (Nat × Nat)) :
    memRanges n (merge as bs) = (memRanges n as || memRanges n bs) := by
  induction as generalizing bs with
  | nil => rfl
  | cons a as ih =>
    rw [merge]
    induction bs with
    | nil => simp [mergeFrom, memRanges]
    | cons b bs ihb =>
      unfold mergeFrom
      split
      · next hlt =>
        rw [memRanges_cons, ihb, memRanges_cons n b]
        by_cases hb : n < b.1
        · simp [hb, memRanges_cons, Nat.lt_trans hb hlt]
        · simp only [hb, if_false]
          ac_rfl
      · next hle =>
        rw [memRanges_cons, ih, memRanges_cons n a]
        by_cases ha : n < a.1
        · simp [ha, memRanges_cons, Nat.lt_of_lt_of_le ha (Nat.not_lt.1 hle)]
        · simp only [ha, if_false, Bool.or_assoc]

theorem memRanges_coalesceFrom (r : Nat × Nat) (rs : List (Nat × Nat)) :
    memRanges n (coalesceFrom r rs) = memRanges n (r :: rs) := by
  induction rs generalizing r with
  | nil => rfl
  | cons s ss ih =>
    unfold coalesceFrom
    split
    · next htouch =>
      rw [ih, memRanges_cons, memRanges_cons, memRanges_cons]
      have hmax : n ≤ max r.2 s.2 ↔ n ≤ r.2 ∨ n ≤ s.2 := by omega
      by_cases hr : n ≤ r.2
      · simp [hmax, hr]
      · -- A code point after `r` is not before `s`.
        have hs : ¬n < s.1 := by omega
        simp [hmax, hr, hs]
    · rw [memRanges_cons, ih, memRanges_cons n r]

theorem memRanges_coalesce (rs : List (Nat × Nat)) :
    memRanges n (coalesce rs) = memRanges n rs := by
  cases rs with
  | nil => rfl
  | cons r rs => exact memRanges_coalesceFrom n r rs

theorem memCode_union (a b : CharSet) : (a.union b).memCode n = (a.memCode n || b.memCode n) := by
  rw [memCode, union, memRanges_coalesce, memRanges_merge, memCode, memCode]

theorem memCode_unions (ss : List CharSet) : (unions ss).memCode n = ss.any (·.memCode n) := by
  induction ss with
  | nil => rfl
  | cons s ss ih => rw [unions, List.foldr_cons, memCode_union, List.any_cons, ← ih, unions]

theorem memCode_ofCodes (ns : List Nat) : (ofCodes ns).memCode n = ns.any (n == ·) := by
  rw [memCode, ofCodes, ofRanges, memRanges_coalesce]
  induction ns with
  | nil => rfl
  | cons m ns ih =>
    have hone : memRanges n [(m, m)] = (n == m) := by
      rw [memRanges_cons]
      grind [memRanges]
    rw [List.map_cons, List.foldr_cons, memRanges_merge, hone, ih, List.any_cons]

theorem mem_of_only? {s : CharSet} {c : Char} (h : s.only? = some c) : s.mem = (· == c) := by
  unfold only? at h
  split at h
  · next lo hi hranges =>
    split at h
    · next hone =>
      obtain ⟨rfl, hvalid⟩ := hone
      obtain rfl := Option.some.inj h
      have hcode : (Char.ofNat lo).toNat = lo := by
        rw [Char.ofNat, dif_pos hvalid]
        rfl
      funext x
      have hx : x = Char.ofNat lo ↔ x.toNat = lo := by rw [← Char.toNat_inj, hcode]
      rw [mem, memCode, hranges, memRanges_cons]
      grind [memRanges]
    · simp at h
  · simp at h

end CharSet

namespace Regex

/-! ## Reaching positions -/

theorem testBit_positions {α : Type} (p : α → Bool) (as : List α) (i : Nat) :
    (positions p as).testBit i = as[i]?.any p := by
  induction as generalizing i with
  | nil => simp [positions]
  | cons a as ih =>
    have hbit : (if p a then 1 else 0) = (p a).toNat := by cases p a <;> rfl
    rw [positions, hbit, ← Nat.bit_val]
    cases i with
    | zero => rw [Nat.testBit_bit_zero, List.getElem?_cons_zero, Option.any_some]
    | succ i => rw [Nat.testBit_bit_succ, ih, List.getElem?_cons_succ]

theorem positions_or {α : Type} (p q : α → Bool) (as : List α) :
    positions (fun a => p a || q a) as = positions p as ||| positions q as := by
  apply Nat.eq_of_testBit_eq
  intro i
  rw [Nat.testBit_or]
  simp only [testBit_positions]
  cases as[i]? <;> rfl

namespace Pattern

/-- The positions that the pattern leads to from the given ones. -/
def reach (p : Pattern) (text : List Char) (start : Nat) : Nat :=
  (p.track text).reach text.length start

section Equations

variable (p q : Pattern) (text : List Char) (start : Nat)

theorem reach_seq : (seq p q).reach text start = q.reach text (p.reach text start) := rfl

theorem reach_alt : (alt p q).reach text start = p.reach text start ||| q.reach text start := rfl

theorem reach_rep (least : Nat) (most : Option Nat) (greedy : Bool) :
    (rep p least most greedy).reach text start =
      roundsUpTo (p.reach text)
        (match most with
          | none => text.length + 1
          | some m => m - least)
        (roundsExactly (p.reach text) least start) := rfl

@[simp] theorem onlyEmpty_empty : empty.onlyEmpty = true := rfl

@[simp] theorem onlyEmpty_literal : (literal text).onlyEmpty = text.isEmpty := rfl

@[simp] theorem onlyEmpty_seq : (seq p q).onlyEmpty = (p.onlyEmpty && q.onlyEmpty) := rfl

@[simp] theorem onlyEmpty_alt : (alt p q).onlyEmpty = (p.onlyEmpty && q.onlyEmpty) := rfl

@[simp] theorem onlyEmpty_rep (least : Nat) (most : Option Nat) (greedy : Bool) :
    (rep p least most greedy).onlyEmpty = (most == some 0 || (most.isSome && p.onlyEmpty)) := rfl

end Equations

/-- Patterns that match alike and can be repeated alike. -/
structure Agrees (p q : Pattern) : Prop where
  onlyEmpty : p.onlyEmpty = q.onlyEmpty
  reach : ∀ text, p.reach text = q.reach text

namespace Agrees

variable {p p' q q' r : Pattern}

protected theorem refl (p : Pattern) : p.Agrees p := ⟨rfl, fun _ => rfl⟩

protected theorem symm (h : p.Agrees q) : q.Agrees p :=
  ⟨h.onlyEmpty.symm, fun text => (h.reach text).symm⟩

protected theorem trans (h : p.Agrees q) (h' : q.Agrees r) : p.Agrees r :=
  ⟨h.onlyEmpty.trans h'.onlyEmpty, fun text => (h.reach text).trans (h'.reach text)⟩

theorem seq (hp : p.Agrees p') (hq : q.Agrees q') : (Pattern.seq p q).Agrees (.seq p' q') := by
  refine ⟨?_, fun text => ?_⟩
  · rw [onlyEmpty_seq, onlyEmpty_seq, hp.onlyEmpty, hq.onlyEmpty]
  · funext start
    rw [reach_seq, reach_seq, hp.reach, hq.reach]

theorem alt (hp : p.Agrees p') (hq : q.Agrees q') : (Pattern.alt p q).Agrees (.alt p' q') := by
  refine ⟨?_, fun text => ?_⟩
  · rw [onlyEmpty_alt, onlyEmpty_alt, hp.onlyEmpty, hq.onlyEmpty]
  · funext start
    rw [reach_alt, reach_alt, hp.reach, hq.reach]

/-- The number of a group does not count, nor does the group itself. -/
theorem group (i : Nat) (p : Pattern) : (Pattern.group i p).Agrees p := ⟨rfl, fun _ => rfl⟩

theorem rep (hp : p.Agrees p') (least : Nat) (most : Option Nat) (greedy : Bool) :
    (Pattern.rep p least most greedy).Agrees (.rep p' least most greedy) := by
  refine ⟨?_, fun text => ?_⟩
  · rw [onlyEmpty_rep, onlyEmpty_rep, hp.onlyEmpty]
  · funext start
    rw [reach_rep, reach_rep, hp.reach]

theorem repeated (hp : p.Agrees p') (least : Nat) (most : Option Nat) (greedy : Bool) :
    (p.repeated least most greedy).Agrees (p'.repeated least most greedy) := by
  unfold Pattern.repeated
  rw [hp.onlyEmpty]
  generalize (if p'.onlyEmpty then (min least 1, some (min (most.getD 1) 1))
    else (least, most)) = bounds
  obtain ⟨least, most⟩ := bounds
  dsimp only
  split
  · exact .refl _
  · split
    · exact hp
    · exact hp.rep _ _ _

theorem matchesIn (h : p.Agrees q) (text : List Char) : p.matchesIn text = q.matchesIn text := by
  show (p.reach text (allPositions text) != 0) = (q.reach text (allPositions text) != 0)
  rw [h.reach]

end Agrees

/-! ## Laws -/

theorem empty_seq (p : Pattern) : (seq .empty p).Agrees p := ⟨by simp, fun _ => rfl⟩

theorem seq_empty (p : Pattern) : (seq p .empty).Agrees p := ⟨by simp, fun _ => rfl⟩

theorem seq_assoc (p q r : Pattern) : (seq (.seq p q) r).Agrees (.seq p (.seq q r)) :=
  ⟨by simp [Bool.and_assoc], fun _ => rfl⟩

theorem alt_assoc (p q r : Pattern) : (alt (.alt p q) r).Agrees (.alt p (.alt q r)) := by
  refine ⟨by simp [Bool.and_assoc], fun text => ?_⟩
  funext start
  simp only [reach_alt, Nat.or_assoc]

/-- What two alternatives start with may stand before them. -/
theorem seq_alt (p q r : Pattern) : (alt (.seq p q) (.seq p r)).Agrees (.seq p (.alt q r)) := by
  refine ⟨?_, fun _ => rfl⟩
  cases hp : p.onlyEmpty <;> simp [hp]

theorem literal_append (a b : List Char) :
    (literal (a ++ b)).Agrees (.seq (.literal a) (.literal b)) := by
  refine ⟨by cases a <;> simp, fun text => ?_⟩
  induction a with
  | nil => rfl
  | cons c a ih =>
    funext start
    exact congrFun ih ((start &&& positions (· == c) text) <<< 1)

/-! ## Sequences -/

/-- Patterns one after the other, as they are. -/
def row : List Pattern → Pattern
  | [] => .empty
  | p :: ps => .seq p (row ps)

theorem row_append (ps qs : List Pattern) : (row (ps ++ qs)).Agrees (.seq (row ps) (row qs)) := by
  induction ps with
  | nil => exact (empty_seq _).symm
  | cons p ps ih => exact ((Agrees.refl p).seq ih).trans (seq_assoc _ _ _).symm

theorem row_seqItems (p : Pattern) : (row p.seqItems).Agrees p := by
  fun_induction seqItems p with
  | case1 p q ih => exact (Agrees.refl p).seq ih
  | case2 p _ => exact seq_empty p

theorem row_flatMap_seqItems (ps : List Pattern) : (row (ps.flatMap seqItems)).Agrees (row ps) := by
  induction ps with
  | nil => exact .refl _
  | cons p ps ih =>
    rw [List.flatMap_cons]
    exact (row_append _ _).trans ((row_seqItems p).seq ih)

theorem row_joinLiterals (ps : List Pattern) : (row (joinLiterals ps)).Agrees (row ps) := by
  fun_induction joinLiterals ps with
  | case1 => exact .refl _
  | case2 ps ih => exact ih.trans (empty_seq _).symm
  | case3 a ps b rest hrest ih =>
    rw [hrest] at ih
    have hjoin : (row (.literal (a ++ b) :: rest)).Agrees
        (.seq (.literal a) (row (.literal b :: rest))) :=
      ((literal_append a b).seq (.refl _)).trans (seq_assoc _ _ _)
    exact hjoin.trans ((Agrees.refl _).seq ih)
  | case4 a ps _ ih => exact (Agrees.refl _).seq ih
  | case5 p ps _ _ ih => exact (Agrees.refl p).seq ih

theorem ofSeqItems_agrees (ps : List Pattern) : (ofSeqItems ps).Agrees (row ps) := by
  fun_induction ofSeqItems ps with
  | case1 => exact .refl _
  | case2 p => exact (seq_empty p).symm
  | case3 p ps _ ih => exact (Agrees.refl p).seq ih

theorem sequence_agrees (ps : List Pattern) : (sequence ps).Agrees (row ps) :=
  (ofSeqItems_agrees _).trans ((row_joinLiterals _).trans (row_flatMap_seqItems ps))

theorem Agrees.row {ps qs : List Pattern} (h : List.Forall₂ Agrees ps qs) :
    (row ps).Agrees (row qs) := by
  induction h with
  | nil => exact .refl _
  | cons hp _ ih => exact hp.seq ih

theorem Agrees.sequence {ps qs : List Pattern} (h : List.Forall₂ Agrees ps qs) :
    (sequence ps).Agrees (sequence qs) :=
  (sequence_agrees ps).trans ((Agrees.row h).trans (sequence_agrees qs).symm)

/-! ## One character -/

/-- The pattern matches just the characters for which `m` says so. -/
structure MatchesChar (p : Pattern) (m : Char → Bool) : Prop where
  onlyEmpty : p.onlyEmpty = false
  reach : ∀ text start, p.reach text start = (start &&& positions m text) <<< 1

theorem MatchesChar.agrees {p q : Pattern} {m : Char → Bool} (hp : p.MatchesChar m)
    (hq : q.MatchesChar m) : p.Agrees q :=
  ⟨hp.onlyEmpty.trans hq.onlyEmpty.symm, fun text => funext fun start =>
    (hp.reach text start).trans (hq.reach text start).symm⟩

theorem MatchesChar.alt {p q : Pattern} {m k : Char → Bool} (hp : p.MatchesChar m)
    (hq : q.MatchesChar k) : (Pattern.alt p q).MatchesChar fun c => m c || k c := by
  refine ⟨by rw [onlyEmpty_alt, hp.onlyEmpty, Bool.false_and], fun text start => ?_⟩
  rw [reach_alt, hp.reach, hq.reach, positions_or, Nat.and_or_distrib_left,
    Nat.shiftLeft_or_distrib]

theorem matchesChar_literal (c : Char) : (literal [c]).MatchesChar (· == c) :=
  ⟨rfl, fun _ _ => rfl⟩

theorem matchesChar_set (s : CharSet) : (set s).MatchesChar s.mem := ⟨rfl, fun _ _ => rfl⟩

theorem matchesChar_ofSet (s : CharSet) : (ofSet s).MatchesChar s.mem := by
  unfold ofSet
  split
  · next c hc =>
    rw [CharSet.mem_of_only? hc]
    exact matchesChar_literal c
  · exact matchesChar_set s

/-! ## Choices -/

theorem ofAlternatives_cons {ps : List Pattern} (hps : ps ≠ []) (p : Pattern) :
    ofAlternatives (p :: ps) = .alt p (ofAlternatives ps) := by
  cases ps with
  | nil => exact (hps rfl).elim
  | cons q ps => rfl

theorem ofAlternatives_append {ps qs : List Pattern} (hps : ps ≠ []) (hqs : qs ≠ []) :
    (ofAlternatives (ps ++ qs)).Agrees (.alt (ofAlternatives ps) (ofAlternatives qs)) := by
  induction ps with
  | nil => exact (hps rfl).elim
  | cons p ps ih =>
    rw [List.cons_append, ofAlternatives_cons (by simp [hqs])]
    by_cases hnil : ps = []
    · rw [hnil]
      exact .refl _
    · rw [ofAlternatives_cons hnil]
      exact ((Agrees.refl p).alt (ih hnil)).trans (alt_assoc _ _ _).symm

theorem alternatives_ne_nil (p : Pattern) : p.alternatives ≠ [] := by
  fun_cases alternatives p <;> simp

theorem ofAlternatives_alternatives (p : Pattern) : ofAlternatives p.alternatives = p := by
  fun_induction alternatives p with
  | case1 p q ih => rw [ofAlternatives_cons (alternatives_ne_nil q), ih]
  | case2 p _ => rfl

theorem ofAlternatives_flatMap_alternatives (ps : List Pattern) :
    (ofAlternatives (ps.flatMap alternatives)).Agrees (ofAlternatives ps) := by
  induction ps with
  | nil => exact .refl _
  | cons p ps ih =>
    rw [List.flatMap_cons]
    by_cases hnil : ps = []
    · rw [hnil, List.flatMap_nil, List.append_nil, ofAlternatives_alternatives]
      exact .refl p
    · have hne : ps.flatMap alternatives ≠ [] := by
        obtain ⟨q, qs, rfl⟩ := List.exists_cons_of_ne_nil hnil
        simp [alternatives_ne_nil q]
      have happ := ofAlternatives_append (alternatives_ne_nil p) hne
      rw [ofAlternatives_alternatives] at happ
      rw [ofAlternatives_cons hnil]
      exact happ.trans ((Agrees.refl p).alt ih)

/-- A choice between characters is one character. -/
theorem MatchesChar.ofAlternatives {α : Type} {f : α → Pattern} {m : α → Char → Bool}
    (h : ∀ a, (f a).MatchesChar (m a)) {as : List α} (has : as ≠ []) :
    (ofAlternatives (as.map f)).MatchesChar fun c => as.any (m · c) := by
  induction as with
  | nil => exact (has rfl).elim
  | cons a as ih =>
    by_cases hnil : as = []
    · rw [hnil]
      simpa [Pattern.ofAlternatives] using h a
    · rw [List.map_cons, ofAlternatives_cons (by simpa using hnil)]
      simpa only [List.any_cons] using (h a).alt (ih hnil)

theorem eq_map_of_mapM {α : Type} {view? : Pattern → Option α} {f : α → Pattern}
    (hview : ∀ p a, view? p = some a → p = f a) {ps : List Pattern} {as : List α}
    (h : ps.mapM view? = some as) : ps = as.map f := by
  induction ps generalizing as with
  | nil => simp_all
  | cons p ps ih =>
    rw [List.mapM_cons] at h
    obtain ⟨a, ha, h⟩ := Option.bind_eq_some_iff.1 h
    obtain ⟨as, has, h⟩ := Option.bind_eq_some_iff.1 h
    obtain rfl := Option.some.inj h
    rw [List.map_cons, ← hview p a ha, ← ih has]

theorem choiceOf_agrees (ps : List Pattern) : (choiceOf ps).Agrees (ofAlternatives ps) := by
  have hchar : ∀ p c, char? p = some c → p = .literal [c] := by
    intro p c hc
    unfold char? at hc
    grind
  have hset : ∀ p s, set? p = some s → p = .set s := by
    intro p s hs
    unfold set? at hs
    grind
  unfold choiceOf
  split
  · exact .refl _
  · split
    · next c cs hcs =>
      rw [eq_map_of_mapM hchar hcs]
      have halternatives :=
        MatchesChar.ofAlternatives matchesChar_literal (List.cons_ne_nil c cs)
      have hmem : (CharSet.ofCodes ((c :: cs).map Char.toNat)).mem =
          fun x => (c :: cs).any (x == ·) := by
        funext x
        have hcode : ((x.toNat == ·) ∘ Char.toNat : Char → Bool) = (x == ·) := by
          funext d
          rw [Function.comp_apply, Bool.eq_iff_iff, beq_iff_eq, beq_iff_eq, Char.toNat_inj]
        rw [CharSet.mem, CharSet.memCode_ofCodes, List.any_map, hcode]
      exact (hmem ▸ matchesChar_ofSet _).agrees halternatives
    · next s ss hss _ =>
      rw [eq_map_of_mapM hset hss]
      have halternatives := MatchesChar.ofAlternatives matchesChar_set (List.cons_ne_nil s ss)
      have hmem : (CharSet.unions (s :: ss)).mem = fun x => (s :: ss).any (·.mem x) := by
        funext x
        exact CharSet.memCode_unions _ _
      exact (hmem ▸ matchesChar_ofSet _).agrees halternatives
    · exact .refl _

/-! ## A common start -/

theorem commonStart_prefix (ps qs : List Pattern) :
    commonStart ps qs <+: ps ∧ commonStart ps qs <+: qs := by
  fun_induction commonStart ps qs with
  | case1 p ps qs ih => simpa [List.cons_prefix_cons] using ih
  | case2 => simp
  | case3 => simp

theorem foldl_commonStart_prefix (first : List Pattern) (rest : List (List Pattern)) :
    ∀ items ∈ first :: rest, rest.foldl commonStart first <+: items := by
  induction rest generalizing first with
  | nil => simp
  | cons items rest ih =>
    obtain ⟨hcommon, hrest⟩ := List.forall_mem_cons.1 (ih (commonStart first items))
    have hstart := commonStart_prefix first items
    simp only [List.foldl_cons, List.forall_mem_cons]
    exact ⟨hcommon.trans hstart.1, hcommon.trans hstart.2, hrest⟩

/-- Alternatives that start alike, with the start before what is left of them. -/
theorem ofAlternatives_seq (p : Pattern) {qs : List Pattern} (hqs : qs ≠ []) :
    (ofAlternatives (qs.map (.seq p))).Agrees (.seq p (ofAlternatives qs)) := by
  induction qs with
  | nil => exact (hqs rfl).elim
  | cons q qs ih =>
    by_cases hnil : qs = []
    · rw [hnil]
      exact .refl _
    · rw [List.map_cons, ofAlternatives_cons (by simpa using hnil), ofAlternatives_cons hnil]
      exact ((Agrees.refl _).alt (ih hnil)).trans (seq_alt _ _ _)

theorem Agrees.ofAlternatives {ps qs : List Pattern} (h : List.Forall₂ Agrees ps qs) :
    (ofAlternatives ps).Agrees (ofAlternatives qs) := by
  induction h with
  | nil => exact .refl _
  | @cons p q ps qs hp hps ih =>
    cases hps with
    | nil => exact hp
    | cons => exact hp.alt ih

theorem liftStart?_agrees {ps common rests : List Pattern}
    (h : liftStart? ps = some (common, rests)) :
    (Pattern.seq (row common) (ofAlternatives rests)).Agrees (ofAlternatives ps) := by
  unfold liftStart? at h
  split at h
  · simp at h
  · next first rest hitems =>
    split at h
    · dsimp only at h
      split at h
      · simp at h
      · obtain ⟨rfl, rfl⟩ := Prod.mk.inj (Option.some.inj h)
        have hne : ps ≠ [] := by
          rintro rfl
          simp at hitems
        have hprefix := foldl_commonStart_prefix first rest
        rw [← hitems] at hprefix ⊢
        generalize rest.foldl commonStart first = common at hprefix ⊢
        rw [List.map_map]
        refine (ofAlternatives_seq _ (by simpa using hne)).symm.trans (Agrees.ofAlternatives ?_)
        rw [List.forall₂_map_left_iff, List.forall₂_map_left_iff, List.forall₂_same]
        intro p hp
        obtain ⟨left, hleft⟩ := hprefix p.seqItems (List.mem_map_of_mem hp)
        simp only [Function.comp_apply, ← hleft, List.drop_left]
        have hsplit : (row (common ++ left)).Agrees p := hleft ▸ row_seqItems p
        exact ((Agrees.refl _).seq (sequence_agrees left)).trans
          ((row_append common left).symm.trans hsplit)
    · simp at h

theorem choice_agrees (ps : List Pattern) : (choice ps).Agrees (ofAlternatives ps) := by
  have hparts : (choiceOf (ps.flatMap alternatives)).Agrees (ofAlternatives ps) :=
    (choiceOf_agrees _).trans (ofAlternatives_flatMap_alternatives ps)
  unfold choice
  split
  · next p q halt =>
    rw [halt] at hparts
    split
    · next common rests hlift =>
      have hrests : (choiceOf (rests.flatMap alternatives)).Agrees (ofAlternatives rests) :=
        (choiceOf_agrees _).trans (ofAlternatives_flatMap_alternatives rests)
      have hlifted := liftStart?_agrees hlift
      rw [ofAlternatives_alternatives] at hlifted
      refine (sequence_agrees _).trans ((row_append _ _).trans ?_)
      exact ((Agrees.refl _).seq ((seq_empty _).trans hrests)).trans (hlifted.trans hparts)
    · exact hparts
  · exact hparts

theorem Agrees.choice {ps qs : List Pattern} (h : List.Forall₂ Agrees ps qs) :
    (choice ps).Agrees (choice qs) :=
  (choice_agrees ps).trans ((Agrees.ofAlternatives h).trans (choice_agrees qs).symm)

theorem matchesIn_ofAlternatives (ps : List Pattern) (text : List Char) :
    (ofAlternatives ps).matchesIn text = ps.any (·.matchesIn text) := by
  have hset : ∀ p : Pattern, p.matchesIn text = (p.reach text (allPositions text) != 0) :=
    fun _ => rfl
  induction ps with
  | nil =>
    have hnone : positions (fun _ => false) text = 0 := by
      apply Nat.eq_of_testBit_eq
      intro i
      rw [testBit_positions]
      cases text[i]? <;> simp
    show ((allPositions text &&& positions (fun _ => false) text) <<< 1 != 0) = false
    rw [hnone, Nat.and_zero]
    rfl
  | cons p ps ih =>
    by_cases hnil : ps = []
    · rw [hnil, List.any_cons, List.any_nil, Bool.or_false]
      rfl
    · rw [ofAlternatives_cons hnil, List.any_cons, ← ih, hset, hset, hset]
      show (p.reach text _ ||| (ofAlternatives ps).reach text _ != 0) = _
      rw [Bool.eq_iff_iff]
      simp [Nat.or_eq_zero_iff, imp_iff_not_or]

theorem matchesIn_choice (ps : List Pattern) (text : List Char) :
    (choice ps).matchesIn text = ps.any (·.matchesIn text) := by
  rw [(choice_agrees ps).matchesIn, matchesIn_ofAlternatives]

end Pattern

end Regex

end TreeLint
