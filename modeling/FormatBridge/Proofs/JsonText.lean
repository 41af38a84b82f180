import FormatBridge.Json.Printer
import FormatBridge.Proofs.Utf8

set_option autoImplicit false

/-! # Strings as they may be written

`SpellsUnits s q` says that the bytes `s` between two quotes spell the units `q`. A string is read up
to its own closing quote as the units it spells, whatever follows (`SpellsUnits.read`). A printed
string spells units (`spellsUnits_bytes`) that stand for the text that was printed
(`text?_quoted`). -/

namespace FormatBridge.Json

/-! ## Reading -/

/-- Whether bytes between quotes spell units: a byte that needs no escape stands for itself, and an
    escape for its byte or its code unit. -/
inductive SpellsUnits : Bytes → Quoted → Prop
  | nil : SpellsUnits [] []
  | plain {a : UInt8} {s : Bytes} {q : Quoted} (hquote : a ≠ quoteMark) (hescape : a ≠ escapeMark)
    (hprint : 0x20 ≤ a) (h : SpellsUnits s q) : SpellsUnits (a :: s) (.byte a :: q)
  | short {letter b : UInt8} {s : Bytes} {q : Quoted} (hshort : shortEscape? letter = some b)
    (h : SpellsUnits s q) : SpellsUnits (escapeMark :: letter :: s) (.byte b :: q)
  | code {h₁ h₂ h₃ h₄ : UInt8} {u : Nat} {s : Bytes} {q : Quoted}
    (hcode : hexCode? h₁ h₂ h₃ h₄ = some u) (h : SpellsUnits s q) :
    SpellsUnits (escapeMark :: 0x75 :: h₁ :: h₂ :: h₃ :: h₄ :: s) (.code u :: q)

/-- **A string is read up to its own closing quote**, as the units that it spells. -/
theorem SpellsUnits.read {s : Bytes} {q : Quoted} (h : SpellsUnits s q) (done : Quoted)
    (rest : Bytes) : readQuoted? done (s ++ quoteMark :: rest) = some (done.reverse ++ q, rest) := by
  have hmarks : escapeMark ≠ quoteMark := by decide
  induction h generalizing done with
  | nil =>
    rw [List.nil_append, readQuoted?.eq_def]
    simp
  | plain hquote hescape hprint _ ih =>
    rw [List.cons_append, readQuoted?.eq_def]
    simp only [hquote, hescape, UInt8.not_lt.2 hprint, if_false]
    simp [ih]
  | short hshort _ ih =>
    rw [List.cons_append, List.cons_append, readQuoted?.eq_def]
    simp only [hmarks, if_false, if_true, hshort]
    simp [ih]
  | code hcode _ ih =>
    have hshort : shortEscape? 0x75 = none := by decide
    simp only [List.cons_append]
    rw [readQuoted?.eq_def]
    simp only [hmarks, if_false, if_true, hshort, hcode]
    simp [ih]

/-- A token that starts with a quote is the string that it spells. -/
theorem SpellsUnits.readToken? {s : Bytes} {q : Quoted} (h : SpellsUnits s q) (rest : Bytes) :
    readToken? quoteMark (s ++ quoteMark :: rest) = some (.string q, rest) := by
  have hread := h.read [] rest
  simp only [Json.readToken?, quoteMark] at hread ⊢
  simp [hread]

/-! ## Printing -/

/-- The unit as which a printed byte is read: bytes without a short escape are code units. -/
def unitOf (b : UInt8) : Unit16 :=
  if 0x20 ≤ b || [0x08, 0x0C, 0x0A, 0x0D, 0x09].contains b then .byte b else .code b.toNat

/-- The four digits of a control character. -/
theorem hexCode?_control {b : UInt8} (h : b < 0x20) :
    hexCode? 0x30 0x30 (hexDigit (b.toNat / 16)) (hexDigit (b.toNat % 16)) = some b.toNat := by
  have hall : ∀ n : Fin 32,
      hexCode? 0x30 0x30 (hexDigit (n.val / 16)) (hexDigit (n.val % 16)) = some n.val := by decide
  exact hall ⟨b.toNat, UInt8.lt_iff_toNat_lt.1 h⟩

theorem spellsUnits_escapeByte (b : UInt8) {s : Bytes} {q : Quoted} (h : SpellsUnits s q) :
    SpellsUnits (escapeByte b ++ s) (unitOf b :: q) := by
  unfold escapeByte
  split
  · rename_i hb
    subst hb
    exact .short (by decide) h
  split
  · rename_i hb
    subst hb
    exact .short (by decide) h
  split
  · rename_i hquote hescape hprint
    have hunit : unitOf b = .byte b := by simp [unitOf, hprint]
    rw [hunit]
    exact .plain hquote hescape hprint h
  iterate 5
    split
    · rename_i hb
      subst hb
      exact .short (by decide) h
  rename_i hprint h8 hc ha hd h9
  have hunit : unitOf b = .code b.toNat := by simp [unitOf, hprint, h8, hc, ha, hd, h9]
  rw [hunit]
  exact .code (hexCode?_control (UInt8.not_le.1 hprint)) h

/-- **Printed bytes spell their units.** -/
theorem spellsUnits_bytes (s : Bytes) : SpellsUnits (s.flatMap escapeByte) (s.map unitOf) := by
  induction s with
  | nil => exact .nil
  | cons b s ih => exact spellsUnits_escapeByte b ih

/-- The string as which a printed text is read. -/
def quoted (s : String) : Quoted := (Utf8.encode s).map unitOf

theorem spellsUnits_quoted (s : String) :
    SpellsUnits ((Utf8.encode s).flatMap escapeByte) (quoted s) := spellsUnits_bytes _

theorem bytesOnto?_unitOf (done : Bytes) (b : UInt8) (rest : Quoted) :
    Quoted.bytesOnto? done (unitOf b :: rest) = Quoted.bytesOnto? (b :: done) rest := by
  unfold unitOf
  split
  · rw [Quoted.bytesOnto?]
  · rename_i hcontrol
    have hsmall : b.toNat < 0x20 := by
      simp only [Bool.or_eq_true, not_or, decide_eq_true_eq] at hcontrol
      exact UInt8.lt_iff_toNat_lt.1 (UInt8.not_le.1 hcontrol.1)
    have hhigh : isHighSurrogate b.toNat = false := by
      simp [isHighSurrogate]
      omega
    have hlow : isLowSurrogate b.toNat = false := by
      simp [isLowSurrogate]
      omega
    have hvalid : b.toNat.isValidChar := by
      left
      omega
    have hchar : String.utf8EncodeChar (Char.ofNat b.toNat) = [b] := by
      have hnat : (Char.ofNat b.toNat).val.toNat = b.toNat := by
        rw [Char.ofNat, dif_pos hvalid]
        rfl
      simp only [String.utf8EncodeChar, hnat]
      rw [if_pos (by omega)]
      simp
    rw [Quoted.bytesOnto?.eq_def]
    simp only [hhigh, hlow, hchar, Bool.false_eq_true, if_false]
    rfl

theorem bytesOnto?_units (done s : Bytes) :
    Quoted.bytesOnto? done (s.map unitOf) = some (done.reverse ++ s) := by
  induction s generalizing done with
  | nil => simp [Quoted.bytesOnto?]
  | cons b s ih =>
    rw [List.map_cons, bytesOnto?_unitOf, ih, List.reverse_cons, List.append_assoc]
    rfl

/-- **The string that is read stands for the text that was printed.** -/
@[simp]
theorem text?_quoted (s : String) : Quoted.text? (quoted s) = some s := by
  rw [Quoted.text?, quoted, bytesOnto?_units]
  exact Utf8.decode?_encode s

end FormatBridge.Json
