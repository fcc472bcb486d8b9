/-!
# Searching and splitting text

Texts are lists of characters. `breakOn` cuts a text around the first place where a needle
stands, `pieces` cuts it at every character of a class. Neither loses anything but what it cuts
at: `append_of_breakOn` puts the parts back together.
-/

namespace TreeLint.Text

/-- What follows `head` in a text that starts with it. -/
def after? : (head : List Char) → List Char → Option (List Char)
  | [], s => some s
  | _ :: _, [] => none
  | h :: hs, c :: s => if h = c then after? hs s else none

/-- What stands before and after the first occurrence of `needle`; `none` if it does not occur. -/
def breakOn (needle : List Char) : List Char → Option (List Char × List Char)
  | [] => if needle.isEmpty then some ([], []) else none
  | c :: s =>
    match after? needle (c :: s) with
    | some rest => some ([], rest)
    | none => (breakOn needle s).map fun (before, after) => (c :: before, after)

/-- The text up to the first occurrence of `needle`, or all of it. -/
def upTo (needle s : List Char) : List Char :=
  match breakOn needle s with
  | some (before, _) => before
  | none => s

/-- The text cut at every character that satisfies `p`; there is always at least one piece. -/
def pieces (p : Char → Bool) : List Char → List (List Char)
  | [] => [[]]
  | c :: s =>
    if p c then [] :: pieces p s
    else
      match pieces p s with
      | [] => [[c]]
      | piece :: rest => (c :: piece) :: rest

/-- The text without every copy of `suffix` that stands at its end. -/
def dropEndCopies (suffix : List Char) (s : List Char) : List Char :=
  (go suffix.reverse s.length s.reverse).reverse
where
  /-- Takes `tail` off the front at most `fuel` times. -/
  go (tail : List Char) : Nat → List Char → List Char
    | 0, r => r
    | fuel + 1, r =>
      match after? tail r with
      | some rest => go tail fuel rest
      | none => r

/-- A text that starts with `head` is `head` and what follows it. -/
theorem append_of_after? {head s rest : List Char} (h : after? head s = some rest) :
    s = head ++ rest := by
  induction head generalizing s with
  | nil => simpa [after?] using h
  | cons a head ih =>
    cases s with
    | nil => simp [after?] at h
    | cons c s =>
      simp only [after?] at h
      split at h
      next hac => simp [hac, ih h]
      next => simp at h

/-- A text is the part before the needle, the needle, and the part after it. -/
theorem append_of_breakOn {needle s before after : List Char}
    (h : breakOn needle s = some (before, after)) : s = before ++ needle ++ after := by
  induction s generalizing before with
  | nil =>
    simp only [breakOn] at h
    split at h <;> simp_all
  | cons c s ih =>
    simp only [breakOn] at h
    split at h
    next rest hrest =>
      obtain ⟨rfl, rfl⟩ := by simpa using h
      simpa using append_of_after? hrest
    next =>
      obtain ⟨⟨b, a⟩, hb, hba⟩ := Option.map_eq_some_iff.1 h
      obtain ⟨rfl, rfl⟩ := by simpa using hba
      simp [ih hb]

theorem pieces_ne_nil (p : Char → Bool) (s : List Char) : pieces p s ≠ [] := by
  cases s with
  | nil => simp [pieces]
  | cons c s =>
    simp only [pieces]
    split
    · simp
    · split <;> simp

theorem pieces_cons (p : Char → Bool) (c : Char) (s : List Char) :
    pieces p (c :: s) =
      if p c then [] :: pieces p s else (pieces p s).modifyHead (c :: ·) := by
  rw [pieces]
  split
  · rfl
  · cases hs : pieces p s with
    | nil => exact absurd hs (pieces_ne_nil p s)
    | cons piece rest => rfl

end TreeLint.Text
