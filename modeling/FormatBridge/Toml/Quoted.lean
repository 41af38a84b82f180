import FormatBridge.Toml.Scalar

set_option autoImplicit false

/-! # TOML strings

A string is basic, with escapes, or literal, without; either kind stands on one line between single
marks, or on any number of lines between triple marks. The readers below start behind the opening
marks and give the text and what follows the closing ones. -/

namespace FormatBridge.Toml

/-! ## Characters -/

/-- The mark of a basic string. -/
def basicMark : Char := '"'

/-- The mark of a literal string. -/
def literalMark : Char := Char.ofNat 39

/-- A character that may stand in comments and strings: no control character but the tab. -/
def isPlain (c : Char) : Bool := c = '\t' || (' ' ≤ c && c ≠ Char.ofNat 0x7F)

/-- Takes a line end off the front. -/
def dropNewline? : List Char → Option (List Char)
  | '\n' :: rest => some rest
  | '\r' :: '\n' :: rest => some rest
  | _ => none

/-! ## Escapes -/

/-- The character that a letter behind a backslash stands for. -/
def shortEscape? (c : Char) : Option Char :=
  if c = 'b' then some (Char.ofNat 0x08)
  else if c = 't' then some '\t'
  else if c = 'n' then some '\n'
  else if c = 'f' then some (Char.ofNat 0x0C)
  else if c = 'r' then some '\r'
  else if c = 'e' then some (Char.ofNat 0x1B)
  else if c = '"' then some '"'
  else if c = '\\' then some '\\'
  else none

/-- How many hexadecimal digits follow a letter behind a backslash. -/
def hexCount? (c : Char) : Option Nat :=
  if c = 'x' then some 2 else if c = 'u' then some 4 else if c = 'U' then some 8 else none

/-- The value of a hexadecimal digit. -/
def hexValue (c : Char) : Nat :=
  if isDecimal c then c.toNat - 0x30
  else if 'a' ≤ c then c.toNat - 0x57
  else c.toNat - 0x37

/-- The character with a number, if there is one. -/
def scalar? (n : Nat) : Option Char := if n.isValidChar then some (Char.ofNat n) else none

/-- The character that hexadecimal digits stand for. -/
def hexScalar? (digits : List Char) : Option Char :=
  if digits.all isHex then scalar? (digits.foldl (fun n c => 16 * n + hexValue c) 0) else none

/-- The character of an escape, behind its backslash, and what follows it. -/
def readEscape? : List Char → Option (Char × List Char)
  | [] => none
  | c :: rest =>
    match shortEscape? c with
    | some escaped => some (escaped, rest)
    | none => do
      let count ← hexCount? c
      let digits := rest.take count
      if digits.length < count then none
      else (hexScalar? digits).map fun escaped => (escaped, rest.drop count)

theorem readEscape?_length {s rest : List Char} {c : Char}
    (h : readEscape? s = some (c, rest)) : rest.length < s.length := by
  unfold readEscape? at h
  split at h
  · simp at h
  · split at h
    · simp only [Option.some.injEq, Prod.mk.injEq] at h
      simp [h.2]
    · simp only [Option.bind_eq_bind, Option.bind_eq_some_iff] at h
      obtain ⟨count, _, h⟩ := h
      split at h
      · simp at h
      · simp only [Option.map_eq_some_iff, Prod.mk.injEq] at h
        obtain ⟨_, _, _, rfl⟩ := h
        simp only [List.length_drop, List.length_cons]
        omega

/-! ## Strings on one line -/

/-- Reads on in a literal string, behind the characters in `done` (last first). -/
def readLiteral? (done : List Char) : List Char → Option (String × List Char)
  | [] => none
  | c :: rest =>
    if c = literalMark then some (String.ofList done.reverse, rest)
    else if isPlain c then readLiteral? (c :: done) rest
    else none

/-- Reads on in a basic string, behind the characters in `done` (last first). -/
def readBasic? (done : List Char) (s : List Char) : Option (String × List Char) :=
  match s with
  | [] => none
  | c :: rest =>
    if c = basicMark then some (String.ofList done.reverse, rest)
    else if c = '\\' then
      match _h : readEscape? rest with
      | some (escaped, rest') => readBasic? (escaped :: done) rest'
      | none => none
    else if isPlain c then readBasic? (c :: done) rest
    else none
  termination_by s.length
  decreasing_by
    · have := readEscape?_length _h
      simp only [List.length_cons]
      omega
    · simp

/-! ## Strings on many lines -/

/-- Whether three marks stand at the front. -/
def startsTriple (mark : Char) : List Char → Bool
  | a :: b :: c :: _ => a = mark && b = mark && c = mark
  | _ => false

/-- Closes a string at its triple marks: up to two marks right before them belong to the text. -/
def closeTriple (mark : Char) (done : List Char) (s : List Char) : String × List Char :=
  let marks := (s.takeWhile (· = mark)).length
  let inside := min (marks - 3) 2
  (String.ofList (done.reverse ++ List.replicate inside mark), s.drop (inside + 3))

/-- What follows the blanks and line ends at the front. -/
def dropSpace : List Char → List Char
  | '\r' :: '\n' :: rest => dropSpace rest
  | c :: rest => if isBlank c || c = '\n' then dropSpace rest else c :: rest
  | [] => []

/-- What follows a backslash that ends a line: all white space up to the next character. -/
def dropLineEnd? (s : List Char) : Option (List Char) :=
  (dropNewline? (s.dropWhile isBlank)).map dropSpace

/-- Reads on in a literal string of many lines, behind the characters in `done` (last first). -/
def readLiteralLines? (done : List Char) : List Char → Option (String × List Char)
  | [] => none
  | '\r' :: '\n' :: rest => readLiteralLines? ('\n' :: '\r' :: done) rest
  | c :: rest =>
    if startsTriple literalMark (c :: rest) then some (closeTriple literalMark done (c :: rest))
    else if c = '\n' || isPlain c then readLiteralLines? (c :: done) rest
    else none

theorem length_dropSpace_le (s : List Char) : (dropSpace s).length ≤ s.length := by
  fun_induction dropSpace s with
  | case1 _ ih => simp only [List.length_cons]; omega
  | case2 _ _ _ _ ih => simp only [List.length_cons]; omega
  | case3 => exact Nat.le_refl _
  | case4 => exact Nat.le_refl _

theorem length_dropBlank_le (s : List Char) : (s.dropWhile isBlank).length ≤ s.length := by
  induction s with
  | nil => simp
  | cons c s ih =>
    rw [List.dropWhile_cons]
    split
    · exact Nat.le_succ_of_le ih
    · exact Nat.le_refl _

theorem dropLineEnd?_length {s rest : List Char} (h : dropLineEnd? s = some rest) :
    rest.length < s.length := by
  simp only [dropLineEnd?, Option.map_eq_some_iff] at h
  obtain ⟨s', hs, rfl⟩ := h
  have h₁ := length_dropSpace_le s'
  have h₂ := length_dropBlank_le s
  unfold dropNewline? at hs
  split at hs
  · rename_i heq
    simp only [Option.some.injEq] at hs
    rw [heq, List.length_cons, hs] at h₂
    omega
  · rename_i heq
    simp only [Option.some.injEq] at hs
    rw [heq, List.length_cons, List.length_cons, hs] at h₂
    omega
  · simp at hs

/-- Reads on in a basic string of many lines, behind the characters in `done` (last first). -/
def readBasicLines? (done : List Char) (s : List Char) : Option (String × List Char) :=
  match s with
  | [] => none
  | '\r' :: '\n' :: rest => readBasicLines? ('\n' :: '\r' :: done) rest
  | c :: rest =>
    if startsTriple basicMark (c :: rest) then some (closeTriple basicMark done (c :: rest))
    else if c = '\\' then
      match _h : dropLineEnd? rest with
      | some rest' => readBasicLines? done rest'
      | none =>
        match _h : readEscape? rest with
        | some (escaped, rest') => readBasicLines? (escaped :: done) rest'
        | none => none
    else if c = '\n' || isPlain c then readBasicLines? (c :: done) rest
    else none
  termination_by s.length
  decreasing_by
    · simp only [List.length_cons]; omega
    · have := dropLineEnd?_length _h
      simp only [List.length_cons]
      omega
    · have := readEscape?_length _h
      simp only [List.length_cons]
      omega
    · simp

/-- A line end right behind the opening marks does not belong to the text. -/
def dropFirstNewline (s : List Char) : List Char := (dropNewline? s).getD s

/-! ## Any string -/

/-- Reads a string on one line, as a key may be. -/
def readLineString? : List Char → Option (String × List Char)
  | c :: rest =>
    if c = basicMark then readBasic? [] rest
    else if c = literalMark then readLiteral? [] rest
    else none
  | [] => none

/-- Reads a string of any kind. -/
def readString? (s : List Char) : Option (String × List Char) :=
  if startsTriple basicMark s then readBasicLines? [] (dropFirstNewline (s.drop 3))
  else if startsTriple literalMark s then readLiteralLines? [] (dropFirstNewline (s.drop 3))
  else readLineString? s

end FormatBridge.Toml
