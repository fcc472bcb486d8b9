import TreeLint.Proofs.TextLines
import TreeLint.Source

/-!
# The table of lines

A unit reads its lines with a table of the positions where they start, counted in bytes. A line is
taken out of the text from its start to one byte before the start of the next line. In a text with
characters of several bytes such a range may well start or end inside a character, and then there is
no text in it.

**Theorem (`lineText?_eq`).** It never does: what the table gives are the rows of the text, without
the carriage returns at their ends.

A range is good iff the text splits at both of its ends (`slice?_eq_some_iff`). So it is enough to
say of each row where it stands in the text, and that the table has its start, and one byte after
its end the start of the next row (`exists_place_of_row`). This is an induction on the text: a
newline starts a new row at the next byte, and any other character moves all later starts by its own
size.
-/

namespace TreeLint

namespace Text

variable {s t : List Char} {n : Nat}

/-! ## Parts of a text -/

@[simp] theorem byteLength_append (s t : List Char) :
    byteLength (s ++ t) = byteLength s + byteLength t := by
  induction s with
  | nil => simp [byteLength]
  | cons c s ih => simp [byteLength, ih, Nat.add_assoc]

theorem eq_nil_of_byteLength (h : byteLength s = 0) : s = [] := by
  cases s with
  | nil => rfl
  | cons c s =>
    have hpos := c.utf8Size_pos
    simp only [byteLength] at h
    omega

theorem exists_of_cons_eq_append {c : Char} {a b : List Char} (h : c :: s = a ++ b)
    (hn : byteLength a = n + 1) :
    ∃ a', a = c :: a' ∧ s = a' ++ b ∧ c.utf8Size + byteLength a' = n + 1 := by
  cases a with
  | nil => cases hn
  | cons d a' =>
    obtain ⟨rfl, hs⟩ := List.cons.inj h
    exact ⟨a', rfl, hs, hn⟩

theorem dropBytes?_eq_some_iff :
    dropBytes? n s = some t ↔ ∃ before, s = before ++ t ∧ byteLength before = n := by
  fun_induction dropBytes? n s with
  | case1 s =>
    constructor
    · intro h
      exact ⟨[], Option.some.inj h, rfl⟩
    · rintro ⟨before, rfl, hbefore⟩
      rw [eq_nil_of_byteLength hbefore]
      rfl
  | case2 n =>
    refine ⟨nofun, ?_⟩
    rintro ⟨before, hs, hbefore⟩
    obtain ⟨rfl, -⟩ := List.nil_eq_append_iff.1 hs
    cases hbefore
  | case3 n c s hle ih =>
    rw [ih]
    constructor
    · rintro ⟨before, rfl, hbefore⟩
      refine ⟨c :: before, rfl, ?_⟩
      rw [byteLength, hbefore, Nat.add_sub_of_le hle]
    · rintro ⟨before, hs, hbefore⟩
      obtain ⟨before', -, hs', hsize⟩ := exists_of_cons_eq_append hs hbefore
      exact ⟨before', hs', by omega⟩
  | case4 n c s hlt =>
    refine ⟨nofun, ?_⟩
    rintro ⟨before, hs, hbefore⟩
    obtain ⟨before', -, -, hsize⟩ := exists_of_cons_eq_append hs hbefore
    omega

theorem takeBytes?_eq_some_iff :
    takeBytes? n s = some t ↔ ∃ after, s = t ++ after ∧ byteLength t = n := by
  fun_induction takeBytes? n s generalizing t with
  | case1 s =>
    constructor
    · intro h
      obtain rfl := Option.some.inj h
      exact ⟨s, rfl, rfl⟩
    · rintro ⟨after, -, ht⟩
      rw [eq_nil_of_byteLength ht]
  | case2 n =>
    refine ⟨nofun, ?_⟩
    rintro ⟨after, hs, ht⟩
    obtain ⟨rfl, -⟩ := List.nil_eq_append_iff.1 hs
    cases ht
  | case3 n c s hle ih =>
    rw [Option.map_eq_some_iff]
    constructor
    · rintro ⟨t, ht, rfl⟩
      obtain ⟨after, rfl, hsize⟩ := ih.1 ht
      refine ⟨after, rfl, ?_⟩
      rw [byteLength, hsize, Nat.add_sub_of_le hle]
    · rintro ⟨after, hs, ht⟩
      obtain ⟨t', rfl, hs', hsize⟩ := exists_of_cons_eq_append hs ht
      exact ⟨t', ih.2 ⟨after, hs', by omega⟩, rfl⟩
  | case4 n c s hlt =>
    refine ⟨nofun, ?_⟩
    rintro ⟨after, hs, ht⟩
    obtain ⟨t', -, -, hsize⟩ := exists_of_cons_eq_append hs ht
    omega

/-- **A part of a text**: the text splits at the two positions. -/
theorem slice?_eq_some_iff {start stop : Nat} :
    slice? s start stop = some t ↔
      ∃ before after, s = before ++ (t ++ after) ∧ byteLength before = start ∧
        byteLength (before ++ t) = stop := by
  rw [slice?]
  constructor
  · intro h
    split_ifs at h with hle
    obtain ⟨rest, hrest, ht⟩ := Option.bind_eq_some_iff.1 h
    obtain ⟨before, rfl, hbefore⟩ := dropBytes?_eq_some_iff.1 hrest
    obtain ⟨after, rfl, hsize⟩ := takeBytes?_eq_some_iff.1 ht
    refine ⟨before, after, rfl, hbefore, ?_⟩
    rw [byteLength_append]
    omega
  · rintro ⟨before, after, rfl, hbefore, hstop⟩
    rw [byteLength_append] at hstop
    rw [if_pos (by omega), Option.bind_eq_some_iff]
    exact ⟨t ++ after, dropBytes?_eq_some_iff.2 ⟨before, rfl, hbefore⟩,
      takeBytes?_eq_some_iff.2 ⟨after, rfl, by omega⟩⟩

/-! ## Rows in the table -/

/-- The table of a text that starts at `offset`. -/
def startsFrom (offset : Nat) (s : List Char) : List Nat :=
  offset :: (newlineOffsets offset s).map (· + 1)

theorem startsFrom_newline (offset : Nat) (s : List Char) :
    startsFrom offset ('\n' :: s) = offset :: startsFrom (offset + 1) s := rfl

theorem startsFrom_cons {c : Char} (hc : c ≠ '\n') (offset : Nat) (s : List Char) :
    startsFrom offset (c :: s) = offset :: (startsFrom (offset + c.utf8Size) s).tail := by
  rw [startsFrom, newlineOffsets, startsFrom, List.tail_cons]
  simp [hc]

theorem length_startsFrom (offset : Nat) (s : List Char) :
    (startsFrom offset s).length = (rows s).length := by
  rw [length_rows]
  induction s generalizing offset with
  | nil => rfl
  | cons c s ih =>
    by_cases hc : c = '\n'
    · subst hc
      rw [startsFrom_newline, List.length_cons, ih, List.count_cons_self]
    · have hcount : (c :: s).count '\n' = s.count '\n' := List.count_cons_of_ne hc
      rw [startsFrom_cons hc, List.length_cons, List.length_tail, ih, hcount, Nat.add_sub_cancel]

/-- The place of row `i` in a text and in its table: the table has the start of the row, and one
byte after its end the start of the next row, if there is one. -/
structure Place (offset : Nat) (s : List Char) (i : Nat) (row before after : List Char) : Prop where
  text : s = before ++ (row ++ after)
  start : (startsFrom offset s)[i]? = some (offset + byteLength before)
  next : after = [] ∧ (startsFrom offset s)[i + 1]? = none ∨
    (startsFrom offset s)[i + 1]? = some (offset + byteLength (before ++ row) + 1)

/-- A character more at the start of the text, in another row. -/
theorem Place.cons {c : Char} {offset i j : Nat} {row before after : List Char}
    (h : Place (offset + c.utf8Size) s i row before after)
    (hstart : (startsFrom offset (c :: s))[j]? = (startsFrom (offset + c.utf8Size) s)[i]?)
    (hnext : (startsFrom offset (c :: s))[j + 1]? = (startsFrom (offset + c.utf8Size) s)[i + 1]?) :
    Place offset (c :: s) j row (c :: before) after where
  text := congrArg (c :: ·) h.text
  start := by rw [hstart, h.start, byteLength, Nat.add_assoc]
  next := by
    rw [hnext]
    refine h.next.imp id fun hsome => ?_
    rw [hsome, List.cons_append, byteLength, Nat.add_assoc offset]

theorem exists_place_of_row {i : Nat} {row : List Char} (h : (rows s)[i]? = some row)
    (offset : Nat) : ∃ before after, Place offset s i row before after := by
  induction s generalizing i row offset with
  | nil =>
    cases i with
    | zero =>
      obtain rfl : [] = row := Option.some.inj h
      exact ⟨[], [], rfl, rfl, .inl ⟨rfl, rfl⟩⟩
    | succ i => cases h
  | cons c s ih =>
    by_cases hc : c = '\n'
    · subst hc
      rw [rows_cons_newline] at h
      cases i with
      | zero =>
        obtain rfl : [] = row := Option.some.inj h
        exact ⟨[], '\n' :: s, rfl, rfl, .inr rfl⟩
      | succ i =>
        obtain ⟨before, after, hplace⟩ := ih h (offset + 1)
        exact ⟨'\n' :: before, after, hplace.cons rfl rfl⟩
    · obtain ⟨first, later, hrows, hcons⟩ := exists_rows_cons hc s
      rw [hcons] at h
      have hlater : ∀ k, (startsFrom offset (c :: s))[k + 1]? =
          (startsFrom (offset + c.utf8Size) s)[k + 1]? := by
        intro k
        rw [startsFrom_cons hc, List.getElem?_cons_succ, List.getElem?_tail]
      cases i with
      | zero =>
        -- The row has the character itself, and nothing is before it.
        obtain rfl : c :: first = row := Option.some.inj h
        have hfirst : (rows s)[0]? = some first := by rw [hrows, List.getElem?_cons_zero]
        obtain ⟨before, after, hplace⟩ := ih hfirst (offset + c.utf8Size)
        obtain rfl : before = [] := by
          have hstart : offset + c.utf8Size = offset + c.utf8Size + byteLength before :=
            Option.some.inj hplace.start
          exact eq_nil_of_byteLength (by omega)
        refine ⟨[], after, congrArg (c :: ·) hplace.text, rfl, ?_⟩
        rw [hlater]
        refine hplace.next.imp id fun hsome => ?_
        rw [hsome, List.nil_append, List.nil_append, byteLength, Nat.add_assoc offset]
      | succ i =>
        have hsame : (rows s)[i + 1]? = some row := by rwa [hrows]
        obtain ⟨before, after, hplace⟩ := ih hsame (offset + c.utf8Size)
        exact ⟨c :: before, after, hplace.cons (hlater i) (hlater (i + 1))⟩

end Text

/-! ## Lines of a unit -/

namespace SourceUnit

variable {u : SourceUnit}

theorem length_lineStarts (u : SourceUnit) :
    u.lineStarts.length = (Text.rows u.text.toList).length :=
  Text.length_startsFrom 0 u.text.toList

theorem lineCount_eq (u : SourceUnit) :
    u.lineCount = UInt32.ofNat (Text.rows u.text.toList).length := by
  rw [lineCount, length_lineStarts]

theorem lineRange?_of_row {i : Nat} {row : List Char}
    (h : (Text.rows u.text.toList)[i]? = some row) :
    ∃ start stop, u.lineRange? i = some (start, stop) ∧
      Text.slice? u.text.toList start stop = some row := by
  obtain ⟨before, after, htext, hstart, hnext⟩ := Text.exists_place_of_row h 0
  rw [Nat.zero_add] at hstart
  have hstart' : u.lineStarts[i]? = some (Text.byteLength before) := hstart
  refine ⟨Text.byteLength before, Text.byteLength (before ++ row), ?_,
    Text.slice?_eq_some_iff.2 ⟨before, after, htext, rfl, rfl⟩⟩
  rw [lineRange?, hstart', Option.map_some]
  rcases hnext with ⟨rfl, hnone⟩ | hsome
  · have hnone' : u.lineStarts[i + 1]? = none := hnone
    rw [hnone', htext, List.append_nil]
    rfl
  · have hsome' : u.lineStarts[i + 1]? = some (Text.byteLength (before ++ row) + 1) := by
      rw [Nat.zero_add] at hsome
      exact hsome
    rw [hsome']
    rfl

/-- **The lines of the table are the rows of the text.** -/
theorem lineText?_eq (u : SourceUnit) (line : UInt32) :
    u.lineText? line =
      match line.toNat with
      | 0 => none
      | i + 1 => ((Text.rows u.text.toList)[i]?).map Text.chop := by
  unfold lineText?
  cases line.toNat with
  | zero => rfl
  | succ i =>
    dsimp only
    cases hrow : (Text.rows u.text.toList)[i]? with
    | none =>
      have hnone : u.lineStarts[i]? = none := by
        rw [List.getElem?_eq_none_iff, length_lineStarts]
        exact List.getElem?_eq_none_iff.1 hrow
      rw [lineRange?, hnone]
      rfl
    | some row =>
      obtain ⟨start, stop, hrange, hslice⟩ := lineRange?_of_row hrow
      rw [hrange, Option.bind_some, hslice]

end SourceUnit

end TreeLint
