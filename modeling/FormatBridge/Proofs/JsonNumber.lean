import FormatBridge.Proofs.JsonWriting

set_option autoImplicit false

/-! # Numbers as they may be written

`SpellsNumber s n` says that the bytes `s` spell the number text `n`: a sign, digits that start with
no needless zero, a fraction and an exponent, as far as there are any. Digits are read up to the
first byte that is none, so a number is read as what it spells (`SpellsNumber.read`). A printed whole
number spells its decimal digits (`spellsNumber_printWhole`), and as long as it has at most 64 bits
it is kept as it is (`number?_wholeText`). -/

namespace FormatBridge.Json

/-! ## Digits -/

theorem leadingDigit_ne_zero {n : Nat} (hn : 0 < n) :
    ∃ c cs, Nat.toDigits 10 n = c :: cs ∧ c ≠ '0' := by
  induction n using Nat.strongRecOn with
  | ind n ih =>
    by_cases hlt : n < 10
    · refine ⟨n.digitChar, [], Nat.toDigits_of_lt_base hlt, ?_⟩
      have hall : ∀ k : Fin 10, 0 < k.val → k.val.digitChar ≠ '0' := by decide
      exact hall ⟨n, hlt⟩ hn
    · obtain ⟨c, cs, hdigits, hc⟩ := ih (n / 10) (by omega) (by omega)
      refine ⟨c, cs ++ [(n % 10).digitChar], ?_, hc⟩
      rw [Nat.toDigits_of_base_le (by decide) (by omega), hdigits]
      rfl

theorem digit_byte {c : Char} (hc : c.isDigit = true) :
    isDigit (UInt8.ofNat c.toNat) = true ∧ Char.ofNat (UInt8.ofNat c.toNat).toNat = c := by
  have hrange : 48 ≤ c.toNat ∧ c.toNat ≤ 57 := by
    simpa [Char.isDigit, UInt32.le_iff_toNat_le] using hc
  have hbyte : (UInt8.ofNat c.toNat).toNat = c.toNat := Utf8.toNat_ofNat (by omega)
  refine ⟨?_, by rw [hbyte, Char.ofNat_toNat]⟩
  simp only [isDigit, UInt8.le_iff_toNat_le, hbyte, UInt8.reduceToNat, Bool.and_eq_true,
    decide_eq_true_eq]
  omega

/-- A byte in front of which a value may end is no digit. -/
theorem Ends.head {rest : Bytes} (h : Ends rest) : rest = [] ∨ ∃ b tail, rest = b :: tail ∧
    isDigit b = false ∧ b ≠ 0x2E ∧ b ≠ 0x65 ∧ b ≠ 0x45 := by
  cases rest with
  | nil => exact .inl rfl
  | cons b tail =>
    right
    refine ⟨b, tail, rfl, ?_⟩
    have hb := h b rfl
    simp only [isSpace, Bool.or_eq_true, decide_eq_true_eq] at hb
    rcases hb with (((rfl | rfl) | rfl) | rfl) | rfl | rfl | rfl <;> decide

/-- Whether no digit comes first. -/
def NoDigit (rest : Bytes) : Prop := ∀ b ∈ rest.head?, isDigit b = false

theorem Ends.noDigit {rest : Bytes} (h : Ends rest) : NoDigit rest := by
  rcases h.head with rfl | ⟨b, tail, rfl, hb, -⟩
  · simp [NoDigit]
  · simpa [NoDigit] using hb

theorem readDigits_digits {digits : List Char} (hdigits : ∀ c ∈ digits, c.isDigit = true)
    {rest : Bytes} (hrest : NoDigit rest) :
    readDigits (printDigits digits ++ rest) = (digits, rest) := by
  induction digits with
  | nil =>
    cases rest with
    | nil => rfl
    | cons b tail =>
      have hb : isDigit b = false := hrest b rfl
      simp [readDigits, printDigits, hb]
  | cons c digits ih =>
    obtain ⟨hbyte, hchar⟩ := digit_byte (hdigits c (List.mem_cons_self ..))
    have hrec := ih fun d hd => hdigits d (List.mem_cons_of_mem c hd)
    simp only [readDigits, Prod.mk.injEq] at hrec ⊢
    have hcons : printDigits (c :: digits) ++ rest =
        UInt8.ofNat c.toNat :: (printDigits digits ++ rest) := rfl
    rw [hcons, List.takeWhile_cons, List.dropWhile_cons, if_pos hbyte, if_pos hbyte, List.map_cons,
      hchar, hrec.1, hrec.2]
    exact ⟨rfl, rfl⟩

theorem digit_cases {a : UInt8} (ha : isDigit a = true) : a = 0x30 ∨ a = 0x31 ∨ a = 0x32 ∨
    a = 0x33 ∨ a = 0x34 ∨ a = 0x35 ∨ a = 0x36 ∨ a = 0x37 ∨ a = 0x38 ∨ a = 0x39 := by
  simp only [isDigit, Bool.and_eq_true, decide_eq_true_eq, UInt8.le_iff_toNat_le,
    UInt8.reduceToNat, ← UInt8.toNat_inj] at ha ⊢
  omega

/-! ## How a number may be written -/

/-- Decimal digits, at least one. -/
structure Digits (digits : List Char) : Prop where
  ne_nil : digits ≠ []
  all : ∀ c ∈ digits, c.isDigit = true

/-- Whether digits may stand before the point: a zero in front stands alone. -/
def Whole (digits : List Char) : Prop :=
  digits = ['0'] ∨ Digits digits ∧ digits.head? ≠ some '0'

/-- Whether bytes spell a fraction, or are none. -/
inductive SpellsFraction : Bytes → Option (List Char) → Prop
  | absent : SpellsFraction [] none
  | digits {digits : List Char} (h : Digits digits) :
    SpellsFraction (0x2E :: printDigits digits) (some digits)

/-- Whether bytes spell an exponent, or are none. -/
inductive SpellsExponent : Bytes → Option (Bool × List Char) → Prop
  | absent : SpellsExponent [] none
  | unsigned {letter : UInt8} {digits : List Char} (hletter : letter = 0x65 ∨ letter = 0x45)
    (h : Digits digits) : SpellsExponent (letter :: printDigits digits) (some (false, digits))
  | plus {letter : UInt8} {digits : List Char} (hletter : letter = 0x65 ∨ letter = 0x45)
    (h : Digits digits) :
    SpellsExponent (letter :: 0x2B :: printDigits digits) (some (false, digits))
  | minus {letter : UInt8} {digits : List Char} (hletter : letter = 0x65 ∨ letter = 0x45)
    (h : Digits digits) :
    SpellsExponent (letter :: 0x2D :: printDigits digits) (some (true, digits))

/-- Whether bytes spell a number. -/
inductive SpellsNumber : Bytes → NumberText → Prop
  | intro (negative : Bool) {whole : List Char} {fraction : Option (List Char)}
    {exponent : Option (Bool × List Char)} {f e : Bytes} (hwhole : Whole whole)
    (hfraction : SpellsFraction f fraction) (hexponent : SpellsExponent e exponent) :
    SpellsNumber ((if negative then [0x2D] else []) ++ (printDigits whole ++ (f ++ e)))
      ⟨negative, whole, fraction, exponent⟩

/-! ## Reading -/

/-- The first byte of digits is a digit. -/
theorem Digits.first {digits : List Char} (h : Digits digits) (rest : Bytes) : ∃ a tail,
    printDigits digits ++ rest = a :: tail ∧ isDigit a = true := by
  obtain ⟨c, cs, rfl⟩ := List.exists_cons_of_ne_nil h.ne_nil
  exact ⟨_, _, rfl, (digit_byte (h.all c (List.mem_cons_self ..))).1⟩

theorem Digits.read {digits : List Char} (h : Digits digits) {rest : Bytes}
    (hrest : NoDigit rest) : readDigits? (printDigits digits ++ rest) = some (digits, rest) := by
  rw [readDigits?, readDigits_digits h.all hrest]
  split
  · rename_i heq
    exact absurd (congrArg Prod.fst heq) h.ne_nil
  · rfl

theorem Whole.digits {digits : List Char} (h : Whole digits) : Digits digits := by
  rcases h with rfl | ⟨h, -⟩
  · exact ⟨by decide, by simp⟩
  · exact h

theorem Whole.read {digits : List Char} (h : Whole digits) {rest : Bytes} (hrest : NoDigit rest) :
    readWhole? (printDigits digits ++ rest) = some (digits, rest) := by
  rcases h with rfl | ⟨h, hzero⟩
  · rfl
  · have hread := h.read hrest
    obtain ⟨c, cs, rfl⟩ := List.exists_cons_of_ne_nil h.ne_nil
    unfold readWhole?
    split
    · rename_i tail heq
      have hbyte : UInt8.ofNat c.toNat = 0x30 := (List.cons.inj heq).1
      have hchar := (digit_byte (h.all c (List.mem_cons_self ..))).2
      rw [hbyte] at hchar
      exact absurd (congrArg some hchar.symm) hzero
    · exact hread

theorem SpellsFraction.noDigit {s rest : Bytes} {fraction : Option (List Char)}
    (h : SpellsFraction s fraction) (hrest : NoDigit rest) : NoDigit (s ++ rest) := by
  cases h with
  | absent => exact hrest
  | digits _ => simp [NoDigit, isDigit]

theorem SpellsFraction.read {s rest : Bytes} {fraction : Option (List Char)}
    (h : SpellsFraction s fraction) (hrest : NoDigit rest) (hpoint : ∀ b ∈ rest.head?, b ≠ 0x2E) :
    readFraction? (s ++ rest) = some (fraction, rest) := by
  cases h with
  | absent =>
    unfold readFraction?
    split
    · rename_i tail heq
      rw [List.nil_append] at heq
      exact absurd rfl (hpoint 0x2E (heq ▸ rfl))
    · rfl
  | digits h => simp [readFraction?, h.read hrest]

/-- Neither a digit nor a point stands behind the fraction of a number. -/
theorem SpellsExponent.follows {s rest : Bytes} {exponent : Option (Bool × List Char)}
    (h : SpellsExponent s exponent) (hrest : Ends rest) :
    NoDigit (s ++ rest) ∧ ∀ b ∈ (s ++ rest).head?, b ≠ 0x2E := by
  have hletter {letter : UInt8} (tail : Bytes) (h : letter = 0x65 ∨ letter = 0x45) :
      NoDigit (letter :: tail) ∧ ∀ b ∈ (letter :: tail).head?, b ≠ 0x2E := by
    rcases h with rfl | rfl <;> simp [NoDigit, isDigit]
  cases h with
  | absent =>
    refine ⟨hrest.noDigit, ?_⟩
    rcases hrest.head with rfl | ⟨b, tail, rfl, -, hb, -⟩
    · simp
    · simpa using hb
  | unsigned h => exact hletter _ h
  | plus h => exact hletter _ h
  | minus h => exact hletter _ h

theorem SpellsExponent.read {s rest : Bytes} {exponent : Option (Bool × List Char)}
    (h : SpellsExponent s exponent) (hrest : Ends rest) :
    readExponent? (s ++ rest) = some (exponent, rest) := by
  cases h with
  | absent =>
    rcases hrest.head with rfl | ⟨b, tail, rfl, -, -, he, hE⟩
    · rfl
    · simp [readExponent?, he, hE]
  | unsigned hletter h =>
    have hread := h.read hrest.noDigit
    obtain ⟨a, tail, hhead, hdigit⟩ := h.first rest
    rw [hhead] at hread
    -- the first digit is no sign
    rcases digit_cases hdigit with rfl | rfl | rfl | rfl | rfl | rfl | rfl | rfl | rfl | rfl <;>
      simp [readExponent?, hletter, hhead, hread]
  | plus hletter h => simp [readExponent?, hletter, h.read hrest.noDigit]
  | minus hletter h => simp [readExponent?, hletter, h.read hrest.noDigit]

/-- **A number is read as what it spells**, up to where it ends. -/
theorem SpellsNumber.read {s rest : Bytes} {n : NumberText} (h : SpellsNumber s n)
    (hrest : Ends rest) : readNumber? (s ++ rest) = some (n, rest) := by
  obtain ⟨negative, hwhole, hfraction, hexponent⟩ := h
  rename_i whole _ _ f e
  obtain ⟨hdigit, hpoint⟩ := hexponent.follows hrest
  have hreadWhole := hwhole.read (hfraction.noDigit hdigit)
  have hreadFraction := hfraction.read hdigit hpoint
  have hreadExponent := hexponent.read hrest
  cases negative with
  | true => simp [readNumber?, hreadWhole, hreadFraction, hreadExponent]
  | false =>
    obtain ⟨a, tail, hhead, hfirst⟩ := hwhole.digits.first (f ++ (e ++ rest))
    rw [hhead] at hreadWhole
    -- the first digit is no sign
    rcases digit_cases hfirst with rfl | rfl | rfl | rfl | rfl | rfl | rfl | rfl | rfl | rfl <;>
      simp [readNumber?, hhead, hreadWhole, hreadFraction, hreadExponent]

theorem readToken?_number {a : UInt8} (ha : a = 0x2D ∨ isDigit a = true) (s : Bytes) :
    isSpace a = false ∧
      readToken? a s = (readNumber? (a :: s)).map fun (n, rest) => (.number n, rest) := by
  rcases ha with rfl | hdigit
  · exact ⟨rfl, rfl⟩
  · rcases digit_cases hdigit with rfl | rfl | rfl | rfl | rfl | rfl | rfl | rfl | rfl | rfl <;>
      exact ⟨rfl, rfl⟩

/-- A number starts with its sign or a digit. -/
theorem SpellsNumber.first {s : Bytes} {n : NumberText} (h : SpellsNumber s n) (rest : Bytes) :
    ∃ a tail, s ++ rest = a :: tail ∧ (a = 0x2D ∨ isDigit a = true) := by
  obtain ⟨negative, hwhole, -, -⟩ := h
  rename_i f e
  cases negative with
  | true => exact ⟨_, _, rfl, .inl rfl⟩
  | false =>
    obtain ⟨a, tail, hhead, hfirst⟩ := hwhole.digits.first (f ++ (e ++ rest))
    exact ⟨a, tail, by simpa using hhead, .inr hfirst⟩

/-- **A number is written as the text that it spells.** -/
theorem writes_number {s : Bytes} {n : NumberText} (h : SpellsNumber s n) :
    Writes s (.number n) := by
  have hstart : startValue? (.number n) = some (.after (.number n)) := rfl
  refine .of_token hstart fun rest hrest => ?_
  obtain ⟨a, tail, hbytes, ha⟩ := h.first rest
  obtain ⟨hspace, hread⟩ := readToken?_number ha tail
  have hnumber := h.read hrest
  rw [hbytes] at hnumber ⊢
  rw [hnumber] at hread
  exact tokens?_cons hspace hread

/-! ## Printing -/

/-- A whole number by its digits. -/
def wholeText (n : Int) : NumberText := ⟨decide (n < 0), Nat.toDigits 10 n.natAbs, none, none⟩

theorem whole_toDigits (n : Nat) : Whole (Nat.toDigits 10 n) := by
  rcases Nat.eq_zero_or_pos n with rfl | hn
  · exact .inl rfl
  · obtain ⟨c, cs, hdigits, hc⟩ := leadingDigit_ne_zero hn
    refine .inr ⟨⟨Nat.toDigits_ne_nil, fun c hc => ?_⟩, by simpa [hdigits] using hc⟩
    exact Nat.isDigit_of_mem_toDigits (by decide) (by decide) hc

/-- **A printed whole number spells its digits.** -/
theorem spellsNumber_printWhole (n : Int) : SpellsNumber (printWhole n) (wholeText n) := by
  have hspells := SpellsNumber.intro (decide (n < 0)) (whole_toDigits n.natAbs) .absent .absent
  have hbytes : printWhole n = (if decide (n < 0) then [0x2D] else []) ++
      (printDigits (Nat.toDigits 10 n.natAbs) ++ ([] ++ [])) := by
    unfold printWhole
    by_cases hneg : n < 0 <;> simp [hneg]
  rw [hbytes]
  exact hspells

/-! ## Values -/

theorem le_ofDigitChars (digits : List Char) (n : Nat) : n ≤ Nat.ofDigitChars 10 digits n := by
  induction digits generalizing n with
  | nil => simp
  | cons d digits ih =>
    rw [Nat.ofDigitChars_cons]
    exact Nat.le_trans (by omega) (ih _)

/-- Digits that stay within 64 bits are all taken. -/
theorem takeDigits_eq {digits : List Char} {n : Nat}
    (h : Nat.ofDigitChars 10 digits n ≤ maxWhole) :
    takeDigits n digits = (Nat.ofDigitChars 10 digits n, 0) := by
  induction digits generalizing n with
  | nil => simp [takeDigits]
  | cons d digits ih =>
    rw [Nat.ofDigitChars_cons] at h ⊢
    have hnext : Nat.ofDigitChars 10 [d] n ≤ maxWhole := by
      rw [Nat.ofDigitChars_cons, Nat.ofDigitChars_nil]
      exact Nat.le_trans (le_ofDigitChars digits _) h
    rw [takeDigits]
    simp only [hnext, if_true]
    rw [Nat.ofDigitChars_cons, Nat.ofDigitChars_nil]
    exact ih h

/-- **A whole number of at most 64 bits is kept as it is.** -/
theorem number?_wholeText {n : Int} (hmin : minWhole ≤ n) (hmax : n ≤ maxWhole) :
    (wholeText n).number? = some (.whole n) := by
  have hsmall : n.natAbs ≤ maxWhole := by
    simp only [minWhole, maxWhole] at hmin hmax ⊢
    omega
  have htake : takeDigits 0 (Nat.toDigits 10 n.natAbs) = (n.natAbs, 0) := by
    have hvalue : Nat.ofDigitChars 10 (Nat.toDigits 10 n.natAbs) 0 = n.natAbs :=
      Nat.ofDigitChars_ten_toDigits
    rw [takeDigits_eq (by rw [hvalue]; exact hsmall), hvalue]
  simp only [NumberText.number?, wholeText, htake, Option.isNone_none, Bool.and_self, decide_true,
    if_true, signedWhole?]
  by_cases hneg : n < 0
  · have hne : n.natAbs ≠ 0 := by omega
    have hvalue : -(n.natAbs : Int) = n := by omega
    have hrange : ¬minWhole > n := by omega
    simp only [hneg, decide_true, Bool.not_true, Bool.false_eq_true, if_false, hne, decide_false,
      Bool.false_or, hvalue, hrange]
  · have hvalue : (n.natAbs : Int) = n := by omega
    simp only [hneg, decide_false, Bool.not_false, if_true, hvalue]

end FormatBridge.Json
