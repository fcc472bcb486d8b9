import TreeLint.Decimal.Reader
import TreeLint.Json.Fault

/-!
# Texts of JSON

A text stands in double quotes. A quote, a backslash and a control character are written with a
backslash; any character may be written by its code point, those past `U+FFFF` as two surrogates.
`readText` reads what follows the opening quote, `passText` passes over it and is content with
surrogates that make no pair. `encode` writes a text; it escapes no more than it must.
-/

namespace TreeLint.Json

/-! ## Escapes -/

/-- Four hexadecimal digits. Four bytes are looked at in any case. -/
def hex4 (s : List Char) : Result Nat :=
  match s with
  | a :: b :: c :: d :: rest =>
    match Decimal.natOfDigits? 16 [a, b, c, d] with
    | some n => .ok (n, rest)
    | none => .error (.text .badEscape (byteCount s - 4))
  | _ =>
    if byteCount s < 4 then failAt .endInText []
    else .error (.text .badEscape (byteCount s - 4))

/-- Whether a code unit is the first half of a pair. -/
def isHighSurrogate (n : Nat) : Bool := 0xD800 ≤ n && n ≤ 0xDBFF

/-- Whether a code unit is the second half of a pair. -/
def isLowSurrogate (n : Nat) : Bool := 0xDC00 ≤ n && n ≤ 0xDFFF

/-- The second half of a pair, whose first half is `high`. -/
def lowHalf (high : Nat) (s : List Char) : Result Char :=
  match s with
  | [] => failAt .endInText []
  | c :: rest =>
    if c != '\\' then failAt .cutSurrogate s
    else
      match rest with
      | [] => failAt .endInText []
      | d :: digits =>
        if d != 'u' then failAt .cutSurrogate rest
        else
          match hex4 digits with
          | .error e => .error e
          | .ok (low, after) =>
            if isLowSurrogate low then
              .ok (Char.ofNat (0x10000 + (high - 0xD800) * 0x400 + (low - 0xDC00)), after)
            else failBefore .loneSurrogate after

/-- The character of a code point, after `\u`. -/
def codePoint (s : List Char) : Result Char :=
  match hex4 s with
  | .error e => .error e
  | .ok (n, rest) =>
    if isLowSurrogate n then failBefore .loneSurrogate rest
    else if isHighSurrogate n then lowHalf n rest
    else .ok (Char.ofNat n, rest)

/-- The character that a letter after a backslash stands for, `\u` apart. -/
def shortEscape? : Char → Option Char
  | '"' => some '"'
  | '\\' => some '\\'
  | '/' => some '/'
  | 'b' => some '\x08'
  | 'f' => some '\x0c'
  | 'n' => some '\n'
  | 'r' => some '\r'
  | 't' => some '\t'
  | _ => none

/-- The character that an escape stands for, after its backslash. -/
def escape (s : List Char) : Result Char :=
  match s with
  | [] => failAt .endInText []
  | c :: rest =>
    if c == 'u' then codePoint rest
    else
      match shortEscape? c with
      | some e => .ok (e, rest)
      | none => failAt .badEscape s

/-- Passes over an escape, after its backslash. -/
def passEscape (s : List Char) : Except Fault (List Char) :=
  match s with
  | [] => failAt .endInText []
  | c :: rest =>
    if c == 'u' then (hex4 rest).map (·.2)
    else if (shortEscape? c).isSome then .ok rest
    else failAt .badEscape s

/-! ## Progress -/

theorem length_of_hex4 {s rest : List Char} {n : Nat} (h : hex4 s = .ok (n, rest)) :
    rest.length ≤ s.length := by
  unfold hex4 at h
  split at h
  · split at h
    · cases h; simp only [List.length_cons]; omega
    · simp at h
  · split at h <;> simp [failAt] at h

theorem length_of_lowHalf {high : Nat} {s rest : List Char} {c : Char}
    (h : lowHalf high s = .ok (c, rest)) : rest.length ≤ s.length := by
  unfold lowHalf at h
  split at h
  · simp [failAt] at h
  · split at h
    · simp [failAt] at h
    · split at h
      · simp [failAt] at h
      · split at h
        · simp [failAt] at h
        · split at h
          · simp at h
          · next hr =>
            have := length_of_hex4 hr
            split at h
            · simp only [Except.ok.injEq, Prod.mk.injEq] at h
              obtain ⟨-, rfl⟩ := h
              simp only [List.length_cons]; omega
            · simp [failBefore] at h

theorem length_of_codePoint {s rest : List Char} {c : Char} (h : codePoint s = .ok (c, rest)) :
    rest.length ≤ s.length := by
  unfold codePoint at h
  split at h
  · simp at h
  · next n r hr =>
    have hle := length_of_hex4 hr
    split at h
    · simp [failBefore] at h
    · split at h
      · have := length_of_lowHalf h; omega
      · cases h; exact hle

/-- An escape consumes something. -/
theorem length_of_escape {s rest : List Char} {c : Char} (h : escape s = .ok (c, rest)) :
    rest.length < s.length := by
  unfold escape at h
  split at h
  · simp [failAt] at h
  · next d r =>
    split at h
    · have := length_of_codePoint h
      simp only [List.length_cons]; omega
    · split at h
      · cases h; simp
      · simp [failAt] at h

/-- An escape that is passed over consumes something. -/
theorem length_of_passEscape {s rest : List Char} (h : passEscape s = .ok rest) :
    rest.length < s.length := by
  unfold passEscape at h
  split at h
  · simp [failAt] at h
  · next d r =>
    split at h
    · cases hr : hex4 r with
      | error e => simp [hr, Except.map] at h
      | ok p =>
        obtain ⟨n, r'⟩ := p
        have := length_of_hex4 hr
        simp only [hr, Except.map, Except.ok.injEq] at h
        subst h
        simp only [List.length_cons]; omega
    · split at h
      · cases h; simp
      · simp [failAt] at h

/-! ## Reading -/

/-- The rest of a text, after what was read of it so far, last character first. -/
def readTextFrom (read : List Char) (s : List Char) : Result (List Char) :=
  match s with
  | [] => failAt .endInText []
  | c :: rest =>
    if c == '"' then .ok (read.reverse, rest)
    else if c == '\\' then
      match h : escape rest with
      | .error e => .error e
      | .ok (e, after) =>
        have := length_of_escape h
        readTextFrom (e :: read) after
    else if c < ' ' then failAt .controlChar s
    else readTextFrom (c :: read) rest
termination_by s.length

/-- A text, after its opening quote. -/
def readText (s : List Char) : Result (List Char) := readTextFrom [] s

/-- Passes over a text, after its opening quote. -/
def passText (s : List Char) : Except Fault (List Char) :=
  match s with
  | [] => failAt .endInText []
  | c :: rest =>
    if c == '"' then .ok rest
    else if c == '\\' then
      match h : passEscape rest with
      | .error e => .error e
      | .ok after =>
        have := length_of_passEscape h
        passText after
    else if c < ' ' then failBefore .controlChar s
    else passText rest
termination_by s.length

/-! ## Writing -/

/-- The digit of a value below sixteen. -/
def hexDigit (n : Nat) : Char := Nat.digitChar n

/-- A character inside quotes. -/
def encodeChar (c : Char) : List Char :=
  match c with
  | '"' => ['\\', '"']
  | '\\' => ['\\', '\\']
  | '\x08' => ['\\', 'b']
  | '\x0c' => ['\\', 'f']
  | '\n' => ['\\', 'n']
  | '\r' => ['\\', 'r']
  | '\t' => ['\\', 't']
  | _ =>
    if c < ' ' then ['\\', 'u', '0', '0', hexDigit (c.toNat / 16), hexDigit (c.toNat % 16)]
    else [c]

def encode (s : List Char) : List Char := '"' :: s.flatMap encodeChar ++ ['"']

end TreeLint.Json
