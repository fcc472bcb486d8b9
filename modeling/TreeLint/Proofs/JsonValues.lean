import Mathlib.Data.List.Basic
import TreeLint.Document.Writer

/-!
# Reading back what was written

Each value of a document is written in one way, and read by a reader that knows its shape. A reader
answers a written value (`Answers`): if the value fits into the depth that is left, the reader gives
it back and leaves what follows; if it does not fit, the reader says that the text is nested too
deep. There is no third possibility, so what was written is never taken for another shape.

Values are put together by lists, pairs and records, and answers along with them: the readers of
lists and records go through what was written item by item (`items_answers`, `Takes.answers`).
-/

namespace TreeLint.Json

open Document (commas writeText writeField writeOptional writeList writeObject writeWord32)

/-! ## Answers -/

/-- What may follow a value that stands inside a list or an object. -/
def Closing (rest : List Char) : Prop := ∀ c ∈ rest.head?, c = ',' ∨ c = ']' ∨ c = '}'

theorem closing_nil : Closing [] := by simp [Closing]

theorem closing_cons {c : Char} {rest : List Char} (h : c = ',' ∨ c = ']' ∨ c = '}') :
    Closing (c :: rest) := by simpa [Closing] using h

variable {α β δ : Type}

/-- The reader gives back what was written and leaves what follows. -/
def Reads (read : List Char → Result α) (written : List Char) (a : α) : Prop :=
  ∀ rest, Closing rest → read (written ++ rest) = .ok (a, rest)

/-- The reader complains of the depth, whatever follows. -/
def Refuses (read : List Char → Result α) (written : List Char) : Prop :=
  ∀ rest, ∃ left, read (written ++ rest) = .error (.text .tooDeep left)

/-- The reader gives back what was written if it fits, and complains of the depth if not. -/
structure Answers (read : List Char → Result α) (written : List Char) (a : α) (fits : Prop) :
    Prop where
  reads : fits → Reads read written a
  refuses : ¬fits → Refuses read written

theorem Answers.congr {read : List Char → Result α} {written : List Char} {a : α}
    {fits fits' : Prop} (h : Answers read written a fits) (hiff : fits ↔ fits') :
    Answers read written a fits' := propext hiff ▸ h

theorem Reads.answers {read : List Char → Result α} {written : List Char} {a : α}
    (h : Reads read written a) : Answers read written a True :=
  ⟨fun _ => h, fun hfalse => (hfalse trivial).elim⟩

/-- Reading in two steps: `item` reads the first part, and what it gives decides how the second is
read. The whole fits if both parts do; the first part that does not fit ends the reading. -/
theorem Answers.next {read : List Char → Result β} {item : List Char → Result α}
    (later : α → List Char → Result β) {written w v : List Char} {a : α} {b : β} {fits fits' : Prop}
    (hround : ∀ rest, read (written ++ rest) =
      (item (w ++ (v ++ rest))).bind fun (a, after) => later a after)
    (hv : ∀ rest, Closing (v ++ rest)) (hitem : Answers item w a fits)
    (hlater : Answers (later a) v b fits') : Answers read written b (fits ∧ fits') := by
  constructor
  · intro hfits rest hrest
    rw [hround, hitem.reads hfits.1 _ (hv rest)]
    exact hlater.reads hfits.2 rest hrest
  · intro hnot rest
    rw [hround]
    by_cases hfits : fits
    · obtain ⟨left, hleft⟩ := hlater.refuses (fun hfits' => hnot ⟨hfits, hfits'⟩) rest
      exact ⟨left, by rw [hitem.reads hfits _ (hv rest)]; exact hleft⟩
    · obtain ⟨left, hleft⟩ := hitem.refuses hfits (v ++ rest)
      exact ⟨left, by rw [hleft]; rfl⟩

/-! ## Texts -/

theorem readTextFrom_escape {read rest after : List Char} {c : Char}
    (h : escape rest = .ok (c, after)) :
    readTextFrom read ('\\' :: rest) = readTextFrom (c :: read) after := by
  rw [readTextFrom]
  simp only [Char.reduceBEq, Bool.false_eq_true, if_false, if_true]
  split
  · next e he => simp [h] at he
  · next e after' he =>
    simp only [h, Except.ok.injEq, Prod.mk.injEq] at he
    obtain ⟨rfl, rfl⟩ := he
    rfl

theorem digitValue?_hexDigit {n : Nat} (h : n < 16) :
    Decimal.digitValue? 16 (hexDigit n) = some n := by
  revert n
  decide

theorem escape_control {c : Char} (h : c.toNat < 32) (rest : List Char) :
    escape ('u' :: '0' :: '0' :: hexDigit (c.toNat / 16) :: hexDigit (c.toNat % 16) :: rest) =
      .ok (c, rest) := by
  have hhigh := digitValue?_hexDigit (n := c.toNat / 16) (by omega)
  have hlow := digitValue?_hexDigit (n := c.toNat % 16) (by omega)
  have hzero : Decimal.digitValue? 16 '0' = some 0 := by decide
  have hvalue : Decimal.natOfDigits? 16
      ['0', '0', hexDigit (c.toNat / 16), hexDigit (c.toNat % 16)] = some c.toNat := by
    simp [Decimal.natOfDigits?, hhigh, hlow, hzero]
    omega
  have hnot : isLowSurrogate c.toNat = false ∧ isHighSurrogate c.toNat = false := by
    simp [isLowSurrogate, isHighSurrogate]
    omega
  simp [escape, codePoint, hex4, hvalue, hnot]

theorem readTextFrom_encodeChar (read rest : List Char) (c : Char) :
    readTextFrom read (encodeChar c ++ rest) = readTextFrom (c :: read) rest := by
  unfold encodeChar
  split
  · exact readTextFrom_escape rfl
  · exact readTextFrom_escape rfl
  · exact readTextFrom_escape rfl
  · exact readTextFrom_escape rfl
  · exact readTextFrom_escape rfl
  · exact readTextFrom_escape rfl
  · exact readTextFrom_escape rfl
  · next hquote hbackslash _ _ _ _ _ =>
    by_cases hc : c < ' '
    · rw [if_pos hc]
      have hlt : c.toNat < 32 := hc
      exact readTextFrom_escape (escape_control hlt rest)
    · have hplain : (c == '"') = false ∧ (c == '\\') = false := by
        simpa using And.intro hquote hbackslash
      rw [if_neg hc, List.singleton_append, readTextFrom]
      simp only [hplain.1, hplain.2, hc, Bool.false_eq_true, if_false]

/-- Reading a text as it was written. -/
theorem readText_encode (s rest : List Char) :
    readText (s.flatMap encodeChar ++ '"' :: rest) = .ok (s, rest) := by
  have hfrom : ∀ read, readTextFrom read (s.flatMap encodeChar ++ '"' :: rest) =
      .ok (read.reverse ++ s, rest) := by
    induction s with
    | nil => intro read; simp [readTextFrom]
    | cons c s ih =>
      intro read
      rw [List.flatMap_cons, List.append_assoc, readTextFrom_encodeChar, ih]
      simp
  exact hfrom []

/-- A reader that takes a text on its own opening quote. -/
theorem skipFiller_cons {c : Char} (h : isFiller c = false) (rest : List Char) :
    skipFiller (c :: rest) = c :: rest := by
  simp [skipFiller, List.dropWhile, h]

theorem text_reads (t : String) : Reads text (writeText t) t := by
  intro rest _
  have hread := readText_encode t.toList rest
  simp [writeText, encode, text, skipFiller_cons, isFiller, hread, Except.map]

theorem optionalText_reads (t : String) : Reads optionalText (writeText t) (some t) := by
  intro rest hrest
  have hread : text ('"' :: (t.toList.flatMap encodeChar ++ ['"'] ++ rest)) = .ok (t, rest) :=
    text_reads t rest hrest
  rw [writeText, encode, List.cons_append, List.cons_append, optionalText,
    skipFiller_cons (by decide)]
  show (text ('"' :: _)).map _ = _
  rw [hread]
  rfl

theorem name_reads {ofName? : String → Option α} {t : String} {a : α} (h : ofName? t = some a)
    (depth : Nat) : Reads (name ofName? depth) (writeText t) a := by
  intro rest _
  have hread := readText_encode t.toList rest
  simp [writeText, encode, name, skipFiller_cons, isFiller, hread, named, h, bind, Except.bind,
    pure, Except.pure]

/-! ## Numbers -/

theorem absorb_eq {significand count : Nat} {digits : List Char}
    (h : Nat.ofDigitChars 10 digits significand ≤ maxSignificand) :
    absorb significand count digits =
      (Nat.ofDigitChars 10 digits significand, count + digits.length) := by
  induction digits generalizing significand count with
  | nil => rfl
  | cons c digits ih =>
    rw [Nat.ofDigitChars_cons] at h ⊢
    have hnext : 10 * significand + (c.toNat - '0'.toNat) = significand * 10 + (c.toNat - 48) := by
      rw [Nat.mul_comm]
      rfl
    rw [hnext] at h ⊢
    have hle : significand * 10 + (c.toNat - 48) ≤ maxSignificand := by
      rw [Nat.ofDigitChars_eq_ofDigitChars_zero] at h
      have hmul := Nat.le_mul_of_pos_left (significand * 10 + (c.toNat - 48))
        (Nat.pow_pos (a := 10) (n := digits.length) (by decide))
      omega
    simp only [absorb, hle, if_true, ih h, List.length_cons, Nat.add_assoc, Nat.add_comm 1]

theorem head?_toDigits_ne_zero {n : Nat} (h : 0 < n) : (Nat.toDigits 10 n).head? ≠ some '0' := by
  induction n using Nat.strongRecOn with
  | ind n ih =>
    rw [Nat.toDigits_eq_if (by decide)]
    split
    · next hlt =>
      have hdigit : ∀ d < 10, 0 < d → (Nat.digitChar d) ≠ '0' := by decide
      simpa using hdigit n hlt h
    · next hge =>
      have hquotient := ih (n / 10) (by omega) (by omega)
      cases hdigits : Nat.toDigits 10 (n / 10) with
      | nil => exact absurd hdigits Nat.toDigits_ne_nil
      | cons c cs => simpa [hdigits] using hquotient

theorem not_digit_of_closing {rest : List Char} (h : Closing rest) :
    rest.head?.any Char.isDigit = false ∧ rest.head?.any isExponentMark = false ∧
      rest.head? ≠ some '.' := by
  cases rest with
  | nil => simp
  | cons c rest =>
    obtain rfl | rfl | rfl := h c rfl <;> simp [isExponentMark]

theorem takeWhile_append_of_closing {digits rest : List Char}
    (hdigits : ∀ c ∈ digits, c.isDigit) (hrest : Closing rest) :
    (digits ++ rest).takeWhile Char.isDigit = digits ∧
      (digits ++ rest).dropWhile Char.isDigit = rest := by
  induction digits with
  | nil =>
    have hnot := (not_digit_of_closing hrest).1
    cases rest with
    | nil => simp
    | cons c rest =>
      have hc : c.isDigit = false := by simpa using hnot
      simp [hc]
  | cons c digits ih =>
    obtain ⟨hc, hdigits⟩ := List.forall_mem_cons.1 hdigits
    simpa [hc] using ih hdigits

/-- A number ends before what may follow a value. -/
theorem afterDigits_of_closing {rest : List Char} (h : Closing rest) (n : Nat) :
    afterDigits false n 0 rest = .ok (.natural n, rest) := by
  obtain ⟨-, hmark, hpoint⟩ := not_digit_of_closing h
  unfold afterDigits
  split
  · simp at hpoint
  · simp [hmark]

theorem readNumber_toDigits {n : Nat} (hn : n ≤ maxSignificand) {rest : List Char}
    (hrest : Closing rest) :
    readNumber false (Nat.toDigits 10 n ++ rest) = .ok (.natural n, rest) := by
  obtain ⟨c, digits, hdigits⟩ := List.exists_cons_of_ne_nil (Nat.toDigits_ne_nil (b := 10) (n := n))
  have hall : ∀ d ∈ Nat.toDigits 10 n, d.isDigit := fun d hd =>
    Nat.isDigit_of_mem_toDigits (by decide) (by decide) hd
  by_cases hc : c = '0'
  · -- Only zero starts with a zero, so nothing else is among its digits.
    have hzero : n = 0 := by
      by_contra hne
      have hhead := head?_toDigits_ne_zero (Nat.pos_of_ne_zero hne)
      simp [hdigits, hc] at hhead
    subst hzero
    have hnot := (not_digit_of_closing hrest).1
    simp [Nat.toDigits_zero, readNumber, hnot, afterDigits_of_closing hrest]
  · obtain ⟨htake, hdrop⟩ := takeWhile_append_of_closing hall hrest
    have hvalue : Nat.ofDigitChars 10 (Nat.toDigits 10 n) 0 = n := Nat.ofDigitChars_ten_toDigits
    have habsorb : absorb 0 0 (Nat.toDigits 10 n) = (n, (Nat.toDigits 10 n).length) := by
      rw [absorb_eq (by omega), hvalue, Nat.zero_add]
    have hdigit : c.isDigit := hall c (by simp [hdigits])
    rw [hdigits] at htake hdrop habsorb ⊢
    rw [List.cons_append, readNumber]
    simp only [beq_iff_eq, hc, if_false, hdigit, if_true]
    rw [← List.cons_append, htake, hdrop, habsorb]
    simp [afterDigits_of_closing hrest]

theorem word32_reads (n : UInt32) : Reads word32 (writeWord32 n) n := by
  intro rest hrest
  have hlt : n.toNat < 0x100000000 := n.toNat_lt
  have hread := readNumber_toDigits (n := n.toNat) (by unfold maxSignificand; omega) hrest
  obtain ⟨c, digits, hdigits⟩ :=
    List.exists_cons_of_ne_nil (Nat.toDigits_ne_nil (b := 10) (n := n.toNat))
  have hdigit : c.isDigit :=
    Nat.isDigit_of_mem_toDigits (by decide) (by decide) (hdigits ▸ List.mem_cons_self)
  have hplain : isFiller c = false ∧ c ≠ '-' := by
    constructor
    · by_contra hfiller
      simp only [isFiller, Bool.not_eq_false, Bool.or_eq_true, beq_iff_eq] at hfiller
      rcases hfiller with ((rfl | rfl) | rfl) | rfl <;> simp at hdigit
    · rintro rfl
      simp at hdigit
  rw [writeWord32, word32]
  rw [hdigits] at hread ⊢
  rw [List.cons_append] at hread ⊢
  rw [skipFiller_cons hplain.1]
  simp [hplain.2, hdigit, hread, hlt]

/-! ## Lists -/

/-- Written items as they go on in a list or an object; before the first there is no comma. -/
def continued : (first : Bool) → List (List Char) → List Char
  | _, [] => []
  | true, w :: ws => w ++ continued false ws
  | false, w :: ws => ',' :: w ++ continued false ws

theorem commas_eq_continued (ws : List (List Char)) : commas ws = continued true ws := by
  have hrest : ∀ (w : List Char) (ws : List (List Char)),
      commas (w :: ws) = w ++ continued false ws := by
    intro w ws
    induction ws generalizing w with
    | nil => simp [commas, continued]
    | cons v ws ih => simp [commas, continued, ih]
  cases ws with
  | nil => rfl
  | cons w ws => exact hrest w ws

theorem continued_append (first : Bool) (ws ws' : List (List Char)) :
    continued first (ws ++ ws') = continued first ws ++ continued (first && ws.isEmpty) ws' := by
  induction ws generalizing first with
  | nil => cases first <;> simp [continued]
  | cons w ws ih => cases first <;> simp [continued, ih]

theorem length_le_commas {ws : List (List Char)} {w : List Char} (h : w ∈ ws) :
    w.length ≤ (commas ws).length := by
  fun_induction commas ws <;> grind

theorem count_le_commas {ws : List (List Char)} (h : ∀ w ∈ ws, w ≠ []) :
    ws.length ≤ (commas ws).length := by
  fun_induction commas ws with
  | case1 => simp
  | case2 item => exact List.length_pos_iff.2 (h item (by simp))
  | case3 item items _ ih => grind

/-- A written value starts with a character that is no filler and no end of a list. -/
def Starts (w : List Char) : Prop := ∃ c s, w = c :: s ∧ isFiller c = false ∧ c ≠ ']'

theorem Starts.ne_nil {w : List Char} (h : Starts w) : w ≠ [] := by
  obtain ⟨c, s, rfl, -⟩ := h
  exact List.cons_ne_nil c s

theorem nextItem_over (first : Bool) (rest : List Char) :
    nextItem first (']' :: rest) = .ok (.over rest) := by
  simp [nextItem, skipFiller, isFiller]

/-- Where a written item stands, the next item is looked for and found. -/
theorem nextItem_continued {w : List Char} (h : Starts w) (first : Bool) (ws : List (List Char))
    (rest : List Char) :
    nextItem first (continued first (w :: ws) ++ rest) =
      .ok (.item (w ++ (continued false ws ++ rest))) := by
  obtain ⟨c, s, rfl, hfiller, hend⟩ := h
  cases first with
  | true => simp [nextItem, continued, skipFiller_cons hfiller, hend]
  | false =>
    have hcomma : isFiller ',' = false := by decide
    simp [nextItem, continued, skipFiller_cons hfiller, skipFiller_cons hcomma, hend]

theorem closing_continued (ws : List (List Char)) {c : Char} (hc : c = ']' ∨ c = '}')
    (rest : List Char) : Closing (continued false ws ++ [c] ++ rest) := by
  cases ws with
  | nil => exact closing_cons (.inr hc)
  | cons w ws => exact closing_cons (.inl rfl)

theorem items_answers {item : List Char → Result α} {write : β → List Char} {value : β → α}
    {fits : β → Prop} {xs : List β}
    (hitem : ∀ x ∈ xs, Answers item (write x) (value x) (fits x))
    (hstart : ∀ x ∈ xs, Starts (write x)) {fuel : Nat} (hfuel : xs.length < fuel)
    (read : List α) :
    Answers (items item fuel read) (continued read.isEmpty (xs.map write) ++ [']'])
      (read.reverse ++ xs.map value) (∀ x ∈ xs, fits x) := by
  induction xs generalizing fuel read with
  | nil =>
    obtain ⟨fuel, rfl⟩ := Nat.exists_eq_succ_of_ne_zero (Nat.ne_of_gt hfuel)
    refine ⟨fun _ rest _ => ?_, fun hnot => (hnot (by simp)).elim⟩
    simp [items, continued, nextItem_over]
  | cons x xs ih =>
    obtain ⟨fuel, rfl⟩ := Nat.exists_eq_succ_of_ne_zero (Nat.ne_of_gt (Nat.zero_lt_of_lt hfuel))
    obtain ⟨hx, hxs⟩ := List.forall_mem_cons.1 hitem
    obtain ⟨hstartx, hstartxs⟩ := List.forall_mem_cons.1 hstart
    have hlater := ih hxs hstartxs (Nat.lt_of_succ_lt_succ hfuel) (value x :: read)
    rw [List.reverse_cons, List.append_assoc, List.singleton_append] at hlater
    refine (Answers.next (fun a => items item fuel (a :: read)) ?_
      (closing_continued (xs.map write) (.inl rfl)) hx hlater).congr
        List.forall_mem_cons.symm
    intro rest
    rw [List.append_assoc, List.map_cons, items, nextItem_continued hstartx, List.append_assoc]
    dsimp only
    cases item (write x ++ (continued false (xs.map write) ++ ([']'] ++ rest)))
    · rfl
    · rfl

/-- A bracket that is opened takes one level of the depth. -/
theorem enter_answers {read : List Char → Result α} (inside : List Char → Result α) {c : Char}
    {w : List Char} {a : α} {fits : Prop} {depth : Nat}
    (hread : ∀ s, read (c :: s) = enter depth (c :: s) (inside s))
    (h : 0 < depth → Answers inside w a fits) : Answers read (c :: w) a (0 < depth ∧ fits) := by
  by_cases hdepth : 0 < depth
  · have hpass : ∀ s, read (c :: s) = inside s := by
      intro s
      rw [hread, enter, if_neg (by simpa using Nat.ne_of_gt hdepth)]
    refine ⟨fun hfits rest hrest => ?_, fun hnot rest => ?_⟩
    · rw [List.cons_append, hpass]
      exact (h hdepth).reads hfits.2 rest hrest
    · rw [List.cons_append, hpass]
      exact (h hdepth).refuses (fun hfits => hnot ⟨hdepth, hfits⟩) rest
  · refine ⟨fun hfits => (hdepth hfits.1).elim, fun _ rest => ?_⟩
    obtain rfl : depth = 0 := by omega
    rw [List.cons_append, hread]
    exact ⟨_, rfl⟩

theorem list_answers {item : List Char → Result α} {write : β → List Char} {value : β → α}
    {fits : β → Prop} {xs : List β} {fuel depth : Nat}
    (hitem : 0 < depth → ∀ x ∈ xs, Answers item (write x) (value x) (fits x))
    (hstart : ∀ x ∈ xs, Starts (write x)) (hfuel : xs.length < fuel) :
    Answers (list item fuel depth) (writeList (xs.map write)) (xs.map value)
      (0 < depth ∧ ∀ x ∈ xs, fits x) := by
  rw [writeList, commas_eq_continued, List.cons_append]
  refine enter_answers (items item fuel []) (fun s => ?_) fun hdepth => ?_
  · rw [list, skipFiller_cons (by decide)]
    rfl
  · exact items_answers (hitem hdepth) hstart hfuel []

/-- The parts of a pair, after its opening bracket. -/
def parts (left : List Char → Result α) (right : List Char → Result β) (s : List Char) :
    Except Fault ((α × β) × List Char) := do
  let .item s ← nextItem true s | .error .shape
  let (a, rest) ← left s
  let .item s ← nextItem false rest | .error .shape
  let (b, rest) ← right s
  return ((a, b), ← closeList rest)

theorem pair_answers {left : List Char → Result α} {right : List Char → Result β}
    {l r : List Char} {a : α} {b : β} {fits : Prop} {depth : Nat} (hleft : Reads left l a)
    (hright : 0 < depth → Answers right r b fits) (hl : Starts l) (hr : Starts r) :
    Answers (pair left right depth) (writeList [l, r]) (a, b) (0 < depth ∧ fits) := by
  rw [writeList, commas_eq_continued, List.cons_append]
  refine enter_answers (parts left right) (fun s => ?_) fun hdepth => ?_
  · rw [pair, skipFiller_cons (by decide)]
    rfl
  · have hclose : Reads (fun s => (closeList s).map fun rest => ((a, b), rest)) [']'] (a, b) := by
      intro rest _
      simp [closeList, skipFiller, isFiller, Except.map]
    refine (Answers.next (fun b s => (closeList s).map fun rest => ((a, b), rest)) (fun rest => ?_)
      (fun rest => closing_cons (.inr (.inl rfl))) (hright hdepth) hclose.answers).congr
        (and_iff_left trivial)
    have hclosing : Closing (continued false [r] ++ ([']'] ++ rest)) := closing_cons (.inl rfl)
    rw [List.append_assoc, parts, nextItem_continued hl]
    simp only [bind, Except.bind, hleft _ hclosing, nextItem_continued hr]
    simp only [continued, List.nil_append]
    cases right (r ++ ([']'] ++ rest)) with
    | error e => rfl
    | ok p => cases closeList p.2 <;> rfl

/-! ## Records -/

theorem nextKey_over (first : Bool) (rest : List Char) :
    nextKey first ('}' :: rest) = .ok (.over rest) := by
  simp [nextKey, skipFiller, isFiller]

/-- Where a written field stands, the key is looked for and found. -/
theorem nextKey_continued (key : String) (value : List Char) (first : Bool)
    (ws : List (List Char)) (rest : List Char) :
    nextKey first (continued first (writeField key value :: ws) ++ rest) =
      .ok (.item (key.toList.flatMap encodeChar ++
        '"' :: (':' :: value ++ (continued false ws ++ rest)))) := by
  cases first <;>
    simp [nextKey, continued, writeField, writeText, encode, skipFiller, isFiller]

/-- The fields take a draft from `d` to `d'` if they fit. -/
inductive Takes (fields : List (Member δ)) (loop : Nat) :
    δ → List (List Char) → δ → Prop → Prop
  | nil (d : δ) : Takes fields loop d [] d True
  | cons {d d' d'' : δ} {key : String} {value : List Char} {ws : List (List Char)}
      {fits fits' : Prop} (h : Answers (fieldValue loop fields key d) (':' :: value) d' fits)
      (hws : Takes fields loop d' ws d'' fits') :
      Takes fields loop d (writeField key value :: ws) d'' (fits ∧ fits')

/-- The fields of a record are read one after the other. -/
theorem Takes.answers {fields : List (Member δ)} {loop : Nat} {d d' : δ} {ws : List (List Char)}
    {fits : Prop} (h : Takes fields loop d ws d' fits) {fuel : Nat} (hfuel : ws.length < fuel)
    (first : Bool) :
    Answers (fieldsByKey fields loop fuel first d) (continued first ws ++ ['}']) d' fits := by
  induction h generalizing fuel first with
  | nil d =>
    obtain ⟨fuel, rfl⟩ := Nat.exists_eq_succ_of_ne_zero (Nat.ne_of_gt hfuel)
    refine Reads.answers fun rest _ => ?_
    simp [fieldsByKey, continued, nextKey_over]
  | @cons d d' d'' key value ws fits fits' h hws ih =>
    obtain ⟨fuel, rfl⟩ := Nat.exists_eq_succ_of_ne_zero (Nat.ne_of_gt (Nat.zero_lt_of_lt hfuel))
    have hlater := ih (Nat.lt_of_succ_lt_succ hfuel) false
    refine Answers.next (fun d => fieldsByKey fields loop fuel false d) (fun rest => ?_)
      (closing_continued ws (.inr rfl)) h hlater
    rw [List.append_assoc, fieldsByKey, nextKey_continued, List.append_assoc]
    simp only [readText_encode, String.ofList_toList]
    cases fieldValue loop fields key d (':' :: value ++ (continued false ws ++ (['}'] ++ rest)))
    · rfl
    · rfl

theorem Takes.append {fields : List (Member δ)} {loop : Nat} {d d' d'' : δ}
    {ws ws' : List (List Char)} {fits fits' : Prop} (h : Takes fields loop d ws d' fits)
    (h' : Takes fields loop d' ws' d'' fits') :
    Takes fields loop d (ws ++ ws') d'' (fits ∧ fits') := by
  induction h with
  | nil d => simpa using h'
  | cons hfield _ ih => simpa [and_assoc] using Takes.cons hfield (ih h')

theorem Takes.congr {fields : List (Member δ)} {loop : Nat} {d d' : δ} {ws : List (List Char)}
    {fits fits' : Prop} (h : Takes fields loop d ws d' fits) (hiff : fits ↔ fits') :
    Takes fields loop d ws d' fits' := propext hiff ▸ h

theorem fieldValue_answers {fields : List (Member δ)} {key : String} {get : δ → Option β}
    {set : δ → β → δ} {read : List Char → Result β}
    (hfind : fields.find? (·.name == key) = some (.of key get set read)) {loop : Nat} {d : δ}
    (hd : get d = none) {w : List Char} {b : β} {fits : Prop} (h : Answers read w b fits) :
    Answers (fieldValue loop fields key d) (':' :: w) (set d b) fits := by
  have hvalue : ∀ rest, fieldValue loop fields key d (':' :: w ++ rest) =
      (read (w ++ rest)).map fun (b, rest) => (set d b, rest) := by
    intro rest
    simp [fieldValue, hfind, Member.of, hd, colon, skipFiller, isFiller, Except.bind]
  constructor
  · intro hfits rest hrest
    rw [hvalue, h.reads hfits rest hrest]
    rfl
  · intro hnot rest
    obtain ⟨left, hleft⟩ := h.refuses hnot rest
    exact ⟨left, by rw [hvalue, hleft]; rfl⟩

theorem takes_field {fields : List (Member δ)} {key : String} {get : δ → Option β}
    {set : δ → β → δ} {read : List Char → Result β}
    (hfind : fields.find? (·.name == key) = some (.of key get set read)) {loop : Nat} {d d' : δ}
    (hd : get d = none) {b : β} (hset : set d b = d') {w : List Char} {fits : Prop}
    (h : Answers read w b fits) : Takes fields loop d [writeField key w] d' fits :=
  hset ▸ (Takes.cons (fieldValue_answers hfind hd h) (.nil _)).congr (and_iff_left trivial)

theorem record_answers {fields : List (Member δ)} {empty d : δ} {finish : δ → Option α} {a : α}
    {ws : List (List Char)} {fits : Prop} {fuel depth : Nat}
    (h : Takes fields fuel empty ws d fits) (hfinish : finish d = some a)
    (hfuel : ws.length < fuel) :
    Answers (record fields empty finish fuel depth) (writeObject ws) a (0 < depth ∧ fits) := by
  rw [writeObject, commas_eq_continued, List.cons_append]
  refine enter_answers (fun s => complete finish (fieldsByKey fields fuel fuel true empty s))
    (fun s => ?_) fun _ => ?_
  · rw [record, skipFiller_cons (by decide)]
    rfl
  · have hfields := h.answers hfuel true
    constructor
    · intro hfits rest hrest
      show complete finish _ = _
      rw [hfields.reads hfits rest hrest]
      simp [complete, hfinish]
    · intro hnot rest
      obtain ⟨left, hleft⟩ := hfields.refuses hnot rest
      exact ⟨left, by show complete finish _ = _; rw [hleft]; rfl⟩

end TreeLint.Json
