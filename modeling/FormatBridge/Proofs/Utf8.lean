import FormatBridge.Text.Utf8
import Mathlib.Data.List.Basic

set_option autoImplicit false

/-! # Encoded texts are read back

A character is encoded in one to four bytes, and reading takes exactly these off the front of
whatever follows (`piecesOnto_char`). So the bytes of a text are read as that text. -/

namespace FormatBridge.Utf8

theorem width_one {a : UInt8} (h : a.toNat < 0x80) : width a = 1 := by
  rw [width, if_pos (UInt8.lt_iff_toNat_lt.2 h)]

theorem width_two {a : UInt8} (hlow : 0xC2 ≤ a.toNat) (hhigh : a.toNat < 0xE0) : width a = 2 := by
  simp only [width, UInt8.lt_iff_toNat_lt, UInt8.reduceToNat]
  rw [if_neg (by omega), if_neg (by omega), if_pos (by omega)]

theorem width_three {a : UInt8} (hlow : 0xE0 ≤ a.toNat) (hhigh : a.toNat < 0xF0) : width a = 3 := by
  simp only [width, UInt8.lt_iff_toNat_lt, UInt8.reduceToNat]
  rw [if_neg (by omega), if_neg (by omega), if_neg (by omega), if_pos (by omega)]

theorem width_four {a : UInt8} (hlow : 0xF0 ≤ a.toNat) (hhigh : a.toNat < 0xF5) : width a = 4 := by
  simp only [width, UInt8.lt_iff_toNat_lt, UInt8.reduceToNat]
  rw [if_neg (by omega), if_neg (by omega), if_neg (by omega), if_neg (by omega), if_pos (by omega)]

theorem isTail_iff {b : UInt8} : isTail b = true ↔ 0x80 ≤ b.toNat ∧ b.toNat < 0xC0 := by
  simp [isTail, UInt8.lt_iff_toNat_lt, UInt8.le_iff_toNat_le]

theorem mayFollow_of {a b : UInt8} (htail : isTail b = true)
    (he0 : a.toNat = 0xE0 → 0xA0 ≤ b.toNat) (hed : a.toNat = 0xED → b.toNat < 0xA0)
    (hf0 : a.toNat = 0xF0 → 0x90 ≤ b.toNat) (hf4 : a.toNat = 0xF4 → b.toNat < 0x90) :
    mayFollow a b = true := by
  simp only [mayFollow, htail, Bool.true_and, ← UInt8.toNat_inj, UInt8.reduceToNat]
  split
  · rename_i h
    simpa [UInt8.le_iff_toNat_le] using he0 h
  split
  · rename_i h
    simpa [UInt8.lt_iff_toNat_lt] using hed h
  split
  · rename_i h
    simpa [UInt8.le_iff_toNat_le] using hf0 h
  split
  · rename_i h
    simpa [UInt8.lt_iff_toNat_lt] using hf4 h
  · rfl

theorem toNat_ofNat {n : Nat} (h : n < 256) : (UInt8.ofNat n).toNat = n :=
  UInt8.toNat_ofNat_of_lt' h

theorem isTail_ofNat {n : Nat} (h : n < 0x40) : isTail (UInt8.ofNat (n + 0x80)) = true := by
  rw [isTail_iff, toNat_ofNat (by omega)]
  omega

theorem tailBits_ofNat {n : Nat} (h : n < 0x40) : tailBits (UInt8.ofNat (n + 0x80)) = n := by
  rw [tailBits, toNat_ofNat (by omega)]
  omega

/-! ## One character -/

theorem piecesOnto_one {a : UInt8} (done : List (Option Char)) (rest : Bytes) (hw : width a = 1) :
    piecesOnto done (a :: rest) = piecesOnto (some (Char.ofNat a.toNat) :: done) rest := by
  rw [piecesOnto.eq_def]
  simp only [hw]

theorem piecesOnto_two {a b : UInt8} (done : List (Option Char)) (rest : Bytes) (hw : width a = 2)
    (hb : mayFollow a b = true) : piecesOnto done (a :: b :: rest) =
      piecesOnto (some (Char.ofNat (a.toNat % 0x20 * 0x40 + tailBits b)) :: done) rest := by
  rw [piecesOnto.eq_def]
  simp only [hw, hb, if_true]

theorem piecesOnto_three {a b c : UInt8} (done : List (Option Char)) (rest : Bytes)
    (hw : width a = 3) (hb : mayFollow a b = true) (hc : isTail c = true) :
    piecesOnto done (a :: b :: c :: rest) =
      piecesOnto (some (Char.ofNat (a.toNat % 0x10 * 0x1000 + tailBits b * 0x40 + tailBits c)) :: done)
        rest := by
  rw [piecesOnto.eq_def]
  simp only [hw, hb, hc, if_true]

theorem piecesOnto_four {a b c d : UInt8} (done : List (Option Char)) (rest : Bytes)
    (hw : width a = 4) (hb : mayFollow a b = true) (hc : isTail c = true) (hd : isTail d = true) :
    piecesOnto done (a :: b :: c :: d :: rest) =
      piecesOnto (some (Char.ofNat (a.toNat % 0x08 * 0x40000 + tailBits b * 0x1000 +
        tailBits c * 0x40 + tailBits d)) :: done) rest := by
  rw [piecesOnto.eq_def]
  simp only [hw, hb, hc, hd, if_true]

/-- **Reading takes the bytes of one character off.** -/
theorem piecesOnto_char (done : List (Option Char)) (c : Char) (rest : Bytes) :
    piecesOnto done (String.utf8EncodeChar c ++ rest) = piecesOnto (some c :: done) rest := by
  have hvalid : c.toNat < 0xD800 ∨ 0xDFFF < c.toNat ∧ c.toNat < 0x110000 := c.valid
  have hchar : Char.ofNat c.toNat = c := Char.ofNat_toNat c
  have hval : c.val.toNat = c.toNat := rfl
  simp only [String.utf8EncodeChar, hval]
  generalize c.toNat = n at hvalid hchar
  have htail {m : Nat} (hm : m < 0x40) := isTail_ofNat hm
  have hbits {m : Nat} (hm : m < 0x40) := tailBits_ofNat hm
  split
  · have ha : (UInt8.ofNat n).toNat = n := toNat_ofNat (by omega)
    simp only [List.cons_append, List.nil_append]
    rw [piecesOnto_one done rest (width_one (by omega)), ha, hchar]
  split
  · have ha : (UInt8.ofNat (n / 64 % 32 + 0xC0)).toNat = n / 64 % 32 + 0xC0 :=
      toNat_ofNat (by omega)
    have hb := @toNat_ofNat (n % 64 + 0x80) (by omega)
    have hsum : (n / 64 % 32 + 0xC0) % 0x20 * 0x40 + n % 64 = n := by omega
    simp only [List.cons_append, List.nil_append]
    rw [piecesOnto_two done rest (width_two (by omega) (by omega))
      (mayFollow_of (htail (by omega)) (by omega) (by omega) (by omega) (by omega)), ha,
      hbits (by omega), hsum, hchar]
  split
  · have ha : (UInt8.ofNat (n / 4096 % 16 + 0xE0)).toNat = n / 4096 % 16 + 0xE0 :=
      toNat_ofNat (by omega)
    have hb := @toNat_ofNat (n / 64 % 64 + 0x80) (by omega)
    have hsum : (n / 4096 % 16 + 0xE0) % 0x10 * 0x1000 + n / 64 % 64 * 0x40 + n % 64 = n := by omega
    simp only [List.cons_append, List.nil_append]
    rw [piecesOnto_three done rest (width_three (by omega) (by omega))
      (mayFollow_of (htail (by omega)) (by omega) (by omega) (by omega) (by omega))
      (htail (by omega)), ha, hbits (by omega), hbits (by omega), hsum, hchar]
  · have ha : (UInt8.ofNat (n / 262144 % 8 + 0xF0)).toNat = n / 262144 % 8 + 0xF0 :=
      toNat_ofNat (by omega)
    have hb := @toNat_ofNat (n / 4096 % 64 + 0x80) (by omega)
    have hsum : (n / 262144 % 8 + 0xF0) % 0x08 * 0x40000 + n / 4096 % 64 * 0x1000 +
        n / 64 % 64 * 0x40 + n % 64 = n := by omega
    simp only [List.cons_append, List.nil_append]
    rw [piecesOnto_four done rest (width_four (by omega) (by omega))
      (mayFollow_of (htail (by omega)) (by omega) (by omega) (by omega) (by omega))
      (htail (by omega)) (htail (by omega)), ha, hbits (by omega), hbits (by omega),
      hbits (by omega), hsum, hchar]

/-! ## Whole texts -/

theorem piecesOnto_chars (done : List (Option Char)) (chars : List Char) :
    piecesOnto done (chars.flatMap String.utf8EncodeChar) = done.reverse ++ chars.map some := by
  induction chars generalizing done with
  | nil => simp [piecesOnto]
  | cons c chars ih =>
    rw [List.flatMap_cons, piecesOnto_char, ih, List.reverse_cons, List.map_cons, List.append_assoc]
    rfl

/-- **The bytes of a text are read as that text.** -/
theorem decode?_encode (s : String) : decode? (encode s) = some s := by
  have hpieces : pieces (encode s) = s.toList.map some := piecesOnto_chars [] s.toList
  have hmap (chars : List Char) : (chars.map some).mapM id = some chars := by
    induction chars with
    | nil => rfl
    | cons c chars ih => simp [ih]
  rw [decode?, scalars?, hpieces, hmap]
  simp

end FormatBridge.Utf8
