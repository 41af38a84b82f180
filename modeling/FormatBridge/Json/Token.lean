import FormatBridge.Text.Utf8

set_option autoImplicit false

/-! # JSON tokens

A JSON text is a sequence of tokens with white space around them. `Json.tokens?` cuts bytes into
tokens and drops the white space; it fails exactly where the bytes at hand start no token. A token
keeps what is written and does not judge it: a string is the list of its units between the quotes
(which may be no text at all: ill-formed UTF-8, half a surrogate pair), a number is its digits
(which may be out of every range). -/

namespace FormatBridge.Json

/-! ## Strings as they are written -/

/-- One unit of a string between its quotes. -/
inductive Unit16 where
  /-- A byte, written as itself or by its short escape. -/
  | byte (b : UInt8)
  /-- A code unit of 16 bits, written as four hexadecimal digits. -/
  | code (u : Nat)
  deriving DecidableEq, Repr

/-- The inside of a quoted string. -/
abbrev Quoted := List Unit16

/-- The quotation mark. -/
def quoteMark : UInt8 := 0x22

/-- The backslash, which starts an escape. -/
def escapeMark : UInt8 := 0x5C

/-- The byte that the letter after a backslash stands for. -/
def shortEscape? (letter : UInt8) : Option UInt8 :=
  if letter = 0x22 then some 0x22        -- quotation mark
  else if letter = 0x5C then some 0x5C   -- backslash
  else if letter = 0x2F then some 0x2F   -- slash
  else if letter = 0x62 then some 0x08   -- b
  else if letter = 0x66 then some 0x0C   -- f
  else if letter = 0x6E then some 0x0A   -- n
  else if letter = 0x72 then some 0x0D   -- r
  else if letter = 0x74 then some 0x09   -- t
  else none

/-- The value of a hexadecimal digit of either case. -/
def hexDigit? (b : UInt8) : Option Nat :=
  if 0x30 ≤ b && b ≤ 0x39 then some (b.toNat - 0x30)
  else if 0x41 ≤ b && b ≤ 0x46 then some (b.toNat - 0x41 + 10)
  else if 0x61 ≤ b && b ≤ 0x66 then some (b.toNat - 0x61 + 10)
  else none

/-- The value of four hexadecimal digits. -/
def hexCode? (a b c d : UInt8) : Option Nat := do
  return (((← hexDigit? a) * 16 + (← hexDigit? b)) * 16 + (← hexDigit? c)) * 16 + (← hexDigit? d)

/-- Reads on inside a string, behind the units in `done` (last first), to its closing quote; gives
    the string and what follows the quote. A byte below 0x20 has to be escaped. -/
def readQuoted? (done : Quoted) : Bytes → Option (Quoted × Bytes)
  | [] => none
  | a :: rest =>
    if a = quoteMark then some (done.reverse, rest)
    else if a = escapeMark then
      match rest with
      | [] => none
      | letter :: rest =>
        match shortEscape? letter with
        | some b => readQuoted? (.byte b :: done) rest
        | none =>
          if letter = 0x75 then
            match rest with
            | h₁ :: h₂ :: h₃ :: h₄ :: rest =>
              match hexCode? h₁ h₂ h₃ h₄ with
              | some u => readQuoted? (.code u :: done) rest
              | none => none
            | _ => none
          else none
    else if a < 0x20 then none
    else readQuoted? (.byte a :: done) rest

/-! ## Numbers as they are written -/

/-- A number by its digits. -/
structure NumberText where
  /-- Whether a minus sign stands in front. -/
  negative : Bool
  /-- The digits before the point: `0`, or digits that start with another one. -/
  whole : List Char
  /-- The digits after the point, if there is one; at least one then. -/
  fraction : Option (List Char)
  /-- The exponent's minus sign and its digits, if there is one; at least one digit then. -/
  exponent : Option (Bool × List Char)
  deriving DecidableEq, Repr

/-- A byte that is a decimal digit. -/
def isDigit (b : UInt8) : Bool := 0x30 ≤ b && b ≤ 0x39

/-- The leading digits of `s` and what follows them. -/
def readDigits (s : Bytes) : List Char × Bytes :=
  ((s.takeWhile isDigit).map fun b => Char.ofNat b.toNat, s.dropWhile isDigit)

/-- Like `readDigits`, for a place where at least one digit has to stand. -/
def readDigits? (s : Bytes) : Option (List Char × Bytes) :=
  match readDigits s with
  | ([], _) => none
  | found => some found

/-- The digits before the point: a leading zero stands alone. -/
def readWhole? (s : Bytes) : Option (List Char × Bytes) :=
  match s with
  | 0x30 :: rest => some (['0'], rest)
  | _ => readDigits? s

/-- The digits after a point, when a point is next. -/
def readFraction? (s : Bytes) : Option (Option (List Char) × Bytes) :=
  match s with
  | 0x2E :: rest => (readDigits? rest).map fun (digits, rest) => (some digits, rest)
  | _ => some (none, s)

/-- The exponent, when its letter is next. -/
def readExponent? (s : Bytes) : Option (Option (Bool × List Char) × Bytes) :=
  match s with
  | a :: rest =>
    if a = 0x65 || a = 0x45 then
      let (negative, rest) :=
        match rest with
        | 0x2B :: rest => (false, rest)
        | 0x2D :: rest => (true, rest)
        | _ => (false, rest)
      (readDigits? rest).map fun (digits, rest) => (some (negative, digits), rest)
    else some (none, s)
  | [] => some (none, s)

/-- The longest number at the start of `s`. -/
def readNumber? (s : Bytes) : Option (NumberText × Bytes) := do
  let (negative, s) := match s with
    | 0x2D :: rest => (true, rest)
    | _ => (false, s)
  let (whole, s) ← readWhole? s
  let (fraction, s) ← readFraction? s
  let (exponent, s) ← readExponent? s
  return (⟨negative, whole, fraction, exponent⟩, s)

/-! ## Tokens -/

/-- A token of a JSON text. -/
inductive Token where
  | openArray
  | closeArray
  | openObject
  | closeObject
  | comma
  | colon
  | null
  | bool (b : Bool)
  | number (n : NumberText)
  | string (s : Quoted)
  deriving DecidableEq, Repr

/-- JSON's white space: space, tab, line feed, carriage return. -/
def isSpace (b : UInt8) : Bool := b = 0x20 || b = 0x09 || b = 0x0A || b = 0x0D

/-- Takes the bytes of `word` off the start of `s`. -/
def dropWord? (word s : Bytes) : Option Bytes :=
  match word, s with
  | [], s => some s
  | w :: word, a :: s => if w = a then dropWord? word s else none
  | _ :: _, [] => none

/-- The token that starts with the byte `a`, and what follows it. -/
def readToken? (a : UInt8) (rest : Bytes) : Option (Token × Bytes) :=
  if a = 0x5B then some (.openArray, rest)
  else if a = 0x5D then some (.closeArray, rest)
  else if a = 0x7B then some (.openObject, rest)
  else if a = 0x7D then some (.closeObject, rest)
  else if a = 0x2C then some (.comma, rest)
  else if a = 0x3A then some (.colon, rest)
  else if a = quoteMark then (readQuoted? [] rest).map fun (s, rest) => (.string s, rest)
  else if a = 0x6E then (dropWord? [0x75, 0x6C, 0x6C] rest).map fun rest => (.null, rest)
  else if a = 0x74 then (dropWord? [0x72, 0x75, 0x65] rest).map fun rest => (.bool true, rest)
  else if a = 0x66 then
    (dropWord? [0x61, 0x6C, 0x73, 0x65] rest).map fun rest => (.bool false, rest)
  else (readNumber? (a :: rest)).map fun (n, rest) => (.number n, rest)

/-! ### Every token takes at least one byte -/

theorem readQuoted?_length {done : Quoted} {s : Bytes} {q : Quoted} {rest : Bytes}
    (h : readQuoted? done s = some (q, rest)) : rest.length < s.length := by
  fun_induction readQuoted? done s with
  | case1 => simp at h
  | case2 => simp_all
  | case3 => simp at h
  | case4 _ _ _ _ _ _ ih => have := ih h; simp only [List.length_cons]; omega
  | case5 _ _ _ _ _ _ _ _ _ _ ih => have := ih h; simp only [List.length_cons]; omega
  | case6 => simp at h
  | case7 => simp at h
  | case8 => simp at h
  | case9 => simp at h
  | case10 _ _ _ _ _ _ ih => have := ih h; simp only [List.length_cons]; omega

theorem length_dropWhile_le {α : Type} (p : α → Bool) (s : List α) :
    (s.dropWhile p).length ≤ s.length := by
  induction s with
  | nil => simp
  | cons a s ih =>
    rw [List.dropWhile_cons]
    split
    · exact Nat.le_succ_of_le ih
    · exact Nat.le_refl _

theorem readDigits?_length {s : Bytes} {digits : List Char} {rest : Bytes}
    (h : readDigits? s = some (digits, rest)) : rest.length < s.length := by
  unfold readDigits? readDigits at h
  cases s with
  | nil => simp at h
  | cons a s =>
    by_cases ha : isDigit a = true
    · simp only [List.takeWhile_cons, List.dropWhile_cons, ha, if_true, List.map_cons,
        Option.some.injEq, Prod.mk.injEq] at h
      have := length_dropWhile_le isDigit s
      rw [← h.2, List.length_cons]
      omega
    · simp [ha] at h

theorem readWhole?_length {s : Bytes} {digits : List Char} {rest : Bytes}
    (h : readWhole? s = some (digits, rest)) : rest.length < s.length := by
  unfold readWhole? at h
  split at h
  · simp only [Option.some.injEq, Prod.mk.injEq] at h
    simp [h.2]
  · exact readDigits?_length h

theorem readFraction?_length {s : Bytes} {digits : Option (List Char)} {rest : Bytes}
    (h : readFraction? s = some (digits, rest)) : rest.length ≤ s.length := by
  unfold readFraction? at h
  split at h
  · simp only [Option.map_eq_some_iff, Prod.mk.injEq, Prod.exists] at h
    obtain ⟨_, _, hd, _, rfl⟩ := h
    have := readDigits?_length hd
    simp only [List.length_cons]
    omega
  · simp only [Option.some.injEq, Prod.mk.injEq] at h
    simp [h.2]

theorem readExponent?_length {s : Bytes} {e : Option (Bool × List Char)} {rest : Bytes}
    (h : readExponent? s = some (e, rest)) : rest.length ≤ s.length := by
  unfold readExponent? at h
  split at h
  · rename_i a s
    split at h
    · simp only [Option.map_eq_some_iff, Prod.mk.injEq, Prod.exists] at h
      obtain ⟨_, _, hd, _, rfl⟩ := h
      have := readDigits?_length hd
      simp only [List.length_cons]
      split at this <;> simp_all only [List.length_cons] <;> omega
    · simp only [Option.some.injEq, Prod.mk.injEq] at h
      simp [← h.2]
  · simp only [Option.some.injEq, Prod.mk.injEq] at h
    simp [← h.2]

theorem readNumber?_length {s : Bytes} {n : NumberText} {rest : Bytes}
    (h : readNumber? s = some (n, rest)) : rest.length < s.length := by
  simp only [readNumber?, Option.bind_eq_bind, Option.bind_eq_some_iff, Option.pure_def,
    Option.some.injEq, Prod.mk.injEq, Prod.exists] at h
  obtain ⟨_, s₁, hw, _, s₂, hf, _, s₃, he, _, rfl⟩ := h
  have := readWhole?_length hw
  have := readFraction?_length hf
  have := readExponent?_length he
  have : (match s with | 0x2D :: rest => (true, rest) | _ => (false, s)).2.length ≤ s.length := by
    split <;> simp
  omega

theorem dropWord?_length {word s rest : Bytes} (h : dropWord? word s = some rest) :
    rest.length ≤ s.length := by
  fun_induction dropWord? word s with
  | case1 => simp_all
  | case2 _ _ _ ih => have := ih h; simp only [List.length_cons]; omega
  | case3 => simp at h
  | case4 => simp at h

theorem readToken?_length {a : UInt8} {s : Bytes} {t : Token} {rest : Bytes}
    (h : readToken? a s = some (t, rest)) : rest.length ≤ s.length := by
  unfold readToken? at h
  repeat' split at h
  all_goals
    simp only [Option.some.injEq, Prod.mk.injEq, Option.map_eq_some_iff, Prod.exists] at h
  all_goals first
    | (obtain ⟨_, rfl⟩ := h; exact Nat.le_refl _)
    | (obtain ⟨_, _, hq, _, rfl⟩ := h; exact Nat.le_of_lt (readQuoted?_length hq))
    | (obtain ⟨_, hw, _, rfl⟩ := h; exact dropWord?_length hw)
    | (obtain ⟨_, _, hn, _, rfl⟩ := h; exact Nat.le_of_lt_succ (readNumber?_length hn))

/-- The tokens of a JSON text; `none` when some part of it starts no token. -/
def tokens? (s : Bytes) : Option (List Token) :=
  match s with
  | [] => some []
  | a :: rest =>
    if isSpace a then tokens? rest
    else
      match _h : readToken? a rest with
      | some (t, rest) => (tokens? rest).map (t :: ·)
      | none => none
  termination_by s.length
  decreasing_by
    · simp
    · have := readToken?_length _h
      simp only [List.length_cons]
      omega

end FormatBridge.Json
