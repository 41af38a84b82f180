import FormatBridge.LineReader
import FormatBridge.Proofs.JsonValue
import FormatBridge.Reply

set_option autoImplicit false

/-! # Messages survive the wire

What `Message.print` writes is read back as the message (`Message.decode?_print`), and it is the
body of one line: it has no line feed and no white space at its ends (`LineReader.judge_print`). So
a reader that is given the line of a message gives the message. The reply that is made from a typed
record is classified as the record says (`classify_replyTo`). -/

namespace FormatBridge

open Json

/-! ## Printed JSON is one line -/

namespace Json

/-- Whether bytes stand on one line: none of them is a control character. -/
def Visible (s : Bytes) : Prop := ∀ b ∈ s, 0x20 ≤ b

theorem visible_nil : Visible [] := by simp [Visible]

theorem visible_cons {b : UInt8} {s : Bytes} (hb : 0x20 ≤ b) (hs : Visible s) : Visible (b :: s) :=
  List.forall_mem_cons.2 ⟨hb, hs⟩

theorem visible_append {s t : Bytes} (hs : Visible s) (ht : Visible t) : Visible (s ++ t) :=
  List.forall_mem_append.2 ⟨hs, ht⟩

theorem visible_of_all {s : Bytes} (h : s.all (0x20 ≤ ·) = true) : Visible s :=
  fun b hb => of_decide_eq_true (List.all_eq_true.1 h b hb)

theorem Visible.no_lineFeed {s : Bytes} (h : Visible s) : Message.lineFeed ∉ s :=
  fun hmem => absurd (h _ hmem) (by decide)

theorem visible_hexDigit {n : Nat} (h : n < 16) : 0x20 ≤ hexDigit n := by
  have hall : ∀ n < 16, 0x20 ≤ hexDigit n := by decide
  exact hall n h

theorem visible_escapeByte (b : UInt8) : Visible (escapeByte b) := by
  have hshort {c : UInt8} (hc : 0x20 ≤ c) : Visible [escapeMark, c] :=
    visible_cons (by decide) (visible_cons hc visible_nil)
  have hlow : 0x20 ≤ hexDigit (b.toNat % 16) := visible_hexDigit (Nat.mod_lt _ (by decide))
  have hhigh : 0x20 ≤ hexDigit (b.toNat / 16) := visible_hexDigit (by
    have := b.toNat_lt
    omega)
  unfold escapeByte
  split
  · exact hshort (by decide)
  split
  · exact hshort (by decide)
  split
  · rename_i hb
    exact visible_cons hb visible_nil
  iterate 5
    split
    · exact hshort (by decide)
  exact visible_cons (by decide) (visible_cons (by decide) (visible_cons (by decide)
    (visible_cons (by decide) (visible_cons hhigh (visible_cons hlow visible_nil)))))

theorem visible_printString (s : String) : Visible (printString s) := by
  refine visible_cons (by decide) (visible_append ?_ (visible_cons (by decide) visible_nil))
  intro b hb
  obtain ⟨a, -, ha⟩ := List.mem_flatMap.1 hb
  exact visible_escapeByte a b ha

theorem visible_joinCommas {items : List Bytes} (h : ∀ s ∈ items, Visible s) :
    Visible (joinCommas items) := by
  induction items with
  | nil => exact visible_nil
  | cons s items ih =>
    have hs := h s (List.mem_cons_self ..)
    cases items with
    | nil => exact hs
    | cons s' items =>
      exact visible_append hs (visible_cons (by decide)
        (ih fun t ht => h t (List.mem_cons_of_mem _ ht)))

theorem visible_printArray {items : List Bytes} (h : ∀ s ∈ items, Visible s) :
    Visible (printArray items) :=
  visible_cons (by decide)
    (visible_append (visible_joinCommas h) (visible_cons (by decide) visible_nil))

theorem visible_printObject {members : List (String × Bytes)} (h : ∀ m ∈ members, Visible m.2) :
    Visible (printObject members) := by
  refine visible_cons (by decide)
    (visible_append (visible_joinCommas ?_) (visible_cons (by decide) visible_nil))
  intro s hs
  obtain ⟨m, hm, rfl⟩ := List.mem_map.1 hs
  exact visible_append (visible_printString m.1) (visible_cons (by decide) (h m hm))

theorem visible_digits (n : Nat) : Visible (printDigits (Nat.toDigits 10 n)) := by
  intro b hb
  obtain ⟨c, hc, rfl⟩ := List.mem_map.1 hb
  have hdigit := Nat.isDigit_of_mem_toDigits (by decide) (by decide) hc
  have h := (digit_byte hdigit).1
  rcases digit_cases h with h | h | h | h | h | h | h | h | h | h <;> rw [h] <;> decide

theorem visible_printWhole (n : Int) : Visible (printWhole n) := by
  unfold printWhole
  split
  · exact visible_cons (by decide) (visible_digits _)
  · exact visible_digits _

theorem mem_printItems {items : List Value} {s : Bytes} (h : s ∈ printItems items) :
    ∃ v ∈ items, s = v.print := by
  induction items with
  | nil => simp [printItems] at h
  | cons v items ih =>
    rcases List.mem_cons.1 h with rfl | h
    · exact ⟨v, List.mem_cons_self .., rfl⟩
    · obtain ⟨w, hw, hs⟩ := ih h
      exact ⟨w, List.mem_cons_of_mem _ hw, hs⟩

theorem mem_printMembers {members : List (String × Value)} {m : String × Bytes}
    (h : m ∈ printMembers members) : ∃ member ∈ members, m = (member.1, member.2.print) := by
  induction members with
  | nil => simp [printMembers] at h
  | cons v members ih =>
    rcases List.mem_cons.1 h with rfl | h
    · exact ⟨v, List.mem_cons_self .., rfl⟩
    · obtain ⟨w, hw, hs⟩ := ih h
      exact ⟨w, List.mem_cons_of_mem _ hw, hs⟩

theorem Value.Fits.visible {room : Nat} {v : Value} (h : v.Fits room) : Visible v.print := by
  induction h with
  | null =>
    rw [Value.print]
    exact visible_of_all rfl
  | bool b =>
    cases b with
    | true =>
      rw [Value.print]
      exact visible_of_all rfl
    | false =>
      rw [Value.print]
      exact visible_of_all rfl
  | @whole room n _ _ => exact visible_printWhole n
  | string s => exact visible_printString s
  | array _ ih =>
    refine visible_printArray ?_
    intro s hs
    obtain ⟨v, hv, rfl⟩ := mem_printItems hs
    exact ih v hv
  | object _ _ ih =>
    refine visible_printObject ?_
    intro m hm
    obtain ⟨member, hmember, rfl⟩ := mem_printMembers hm
    exact ih member hmember

end Json

/-! ## Records of texts -/

namespace Message

/-- The tree of an object with these members. -/
def record (members : List (String × Tree)) : Tree :=
  .object (members.map fun m => (quoted m.1, m.2))

/-- The tree of an object of texts. -/
def texts (fields : List (String × String)) : Tree :=
  record (fields.map fun f => (f.1, .string (quoted f.2)))

theorem fields?_record (names : List String) (members : List (String × Tree)) :
    (record members).fields? names = names.mapM (pickField? members) := by
  have hkeys : readKeys? (members.map fun m => (quoted m.1, m.2)) = some members := by
    induction members with
    | nil => rfl
    | cons m members ih => simp [readKeys?, ih]
  rw [record, Tree.fields?, hkeys, Option.bind_some]

theorem spells_texts (fields : List (String × String)) :
    Spells (printTexts fields) (texts fields) := by
  have h := @spells_object
    (fields.map fun f => ⟨f.1, printString f.2, .string (quoted f.2)⟩) fun m hm => by
      obtain ⟨f, -, rfl⟩ := List.mem_map.1 hm
      exact spells_string f.2
  rw [List.map_map, List.map_map] at h
  rw [texts, record, List.map_map]
  exact h

theorem header?_texts (h : Header) : header? (texts (headerFields h)) = some h := by
  rw [header?, texts, fields?_record]
  simp [headerFields, pickField?, required, orDefault, Tree.text?]

theorem parent?_texts (p : Parent) : parent? (texts (parentFields p)) = some p := by
  rw [parent?, texts, fields?_record]
  obtain ⟨_ | id, _ | kind⟩ := p <;>
    simp [parentFields, pickField?, optionalText, orDefault, Tree.textOrNull?, Tree.text?]

theorem membersWithin?_texts (room : Nat) (fields : List (String × String)) :
    membersWithin? room (fields.map fun f => (quoted f.1, .string (quoted f.2))) =
      some (fields.map fun f => (f.1, .string f.2)) := by
  induction fields with
  | nil => rfl
  | cons f fields ih => simp [membersWithin?, Tree.valueWithin?, ih]

theorem valueWithin?_texts (room : Nat) (fields : List (String × String)) :
    (texts fields).valueWithin? (room + 1) =
      some (.ofMembers (fields.map fun f => (f.1, .string f.2))) := by
  simp only [texts, record, List.map_map, Tree.valueWithin?]
  exact congrArg (Option.map Value.ofMembers) (membersWithin?_texts room fields)

/-- The tree for which a message with the content `t` is written. -/
def toTree (m : Message) (t : Tree) : Tree :=
  record [("header", texts (headerFields m.header)),
    ("parent_header", texts (parentFields m.parent)), ("content", t)]

theorem ofTree?_toTree {m : Message} {t : Tree}
    (hvalue : t.valueWithin? (maxDepth - 1) = some m.content) :
    ofTree? (m.toTree t) = some m := by
  rw [ofTree?, toTree, fields?_record]
  simp [pickField?, required, orDefault, header?_texts, parent?_texts, hvalue]

theorem valueWithin?_toTree {m : Message} {t : Tree} {room : Nat}
    (hvalue : t.valueWithin? (room + 1) = some m.content) :
    (m.toTree t).valueWithin? (room + 1 + 1) = some m.toValue := by
  simp [toTree, record, Tree.valueWithin?, membersWithin?, valueWithin?_texts, hvalue, toValue]

theorem spells_print {m : Message} {t : Tree} (h : Spells m.content.print t) :
    Spells m.print (m.toTree t) :=
  @spells_object
    [⟨"header", printTexts (headerFields m.header), texts (headerFields m.header)⟩,
      ⟨"parent_header", printTexts (parentFields m.parent), texts (parentFields m.parent)⟩,
      ⟨"content", m.content.print, t⟩]
    (by simp [spells_texts, h])

/-- **What is printed for a message writes a tree** that is read as that message and has the value
    of that message. -/
theorem exists_written {m : Message} (hfits : m.content.Fits (maxDepth - 1)) :
    ∃ t, Spells m.print t ∧ ofTree? t = some m ∧ t.value? = some m.toValue := by
  obtain ⟨t, hspells, hvalue⟩ := exists_tree hfits
  exact ⟨m.toTree t, spells_print hspells, ofTree?_toTree hvalue, valueWithin?_toTree hvalue⟩

/-- **What is printed for a message is read as that message.** -/
theorem decode?_print {m : Message} (hfits : m.content.Fits (maxDepth - 1)) :
    decode? m.print = some m := by
  obtain ⟨t, hspells, hread, -⟩ := exists_written hfits
  rw [decode?, hspells.writes.parse?, Option.bind_some, hread]

/-! ## The line of a message -/

theorem visible_print {m : Message} {room : Nat} (hfits : m.content.Fits room) :
    Visible m.print := by
  have htexts (fields : List (String × String)) : Visible (printTexts fields) := by
    refine visible_printObject ?_
    intro f hf
    obtain ⟨field, -, rfl⟩ := List.mem_map.1 hf
    exact visible_printString field.2
  refine visible_printObject ?_
  intro f hf
  simp only [List.mem_cons, List.not_mem_nil, or_false] at hf
  rcases hf with rfl | rfl | rfl
  · exact htexts _
  · exact htexts _
  · exact hfits.visible

end Message

namespace LineReader

theorem trim_of_ends {a b : UInt8} {s : Bytes} (ha : isBlank a = false) (hb : isBlank b = false) :
    trim (a :: (s ++ [b])) = a :: (s ++ [b]) := by
  have hrev : (a :: (s ++ [b])).reverse = b :: (s.reverse ++ [a]) := by simp
  rw [trim, List.dropWhile_cons_of_neg (by simp [ha]), hrev,
    List.dropWhile_cons_of_neg (by simp [hb])]
  simp

/-- **The text of a message, as a line, is that message.** -/
theorem judge_print {m : Message} (hfits : m.content.Fits (maxDepth - 1)) :
    judge m.print = .message m := by
  have htrim : trim m.print = m.print := trim_of_ends (by decide) (by decide)
  rw [judge, htrim]
  have hdecode := Message.decode?_print hfits
  split
  · rename_i hnil
    exact absurd hnil (List.cons_ne_nil _ _)
  · rw [hdecode]

end LineReader

/-! ## Format requests and replies -/

theorem fits_texts {room : Nat} (fields : List (String × String)) :
    (Value.ofMembers (fields.map fun f => (f.1, .string f.2))).Fits (room + 1) := by
  refine fits_ofMembers ?_
  intro m hm
  obtain ⟨f, -, rfl⟩ := List.mem_map.1 hm
  exact .string f.2

theorem FormatRequest.fits_payload (r : FormatRequest) : r.payload.Fits (maxDepth - 1) :=
  fits_texts [("code", r.code)]

theorem FormatReply.fits_toValue (r : FormatReply) : r.toValue.Fits (maxDepth - 1) :=
  fits_texts r.fields

theorem FormatRequest.code_payload (r : FormatRequest) :
    (r.payload.get? "code").bind Value.text? = some r.code := by
  rw [payload, get?_ofMembers]
  rfl

theorem FormatReply.classifyContent_toValue (r : FormatReply) :
    classifyContent r.toValue = r.outcome := by
  obtain ⟨status, code, name, text⟩ := r
  simp only [classifyContent, toValue, get?_ofMembers, outcome]
  cases code <;> cases name <;> cases text <;> cases hstatus : Status.ofText status <;>
    simp [fields, lookup_cons_eq, Value.text?, hstatus]

theorem classify_object {members content : List (String × Value)}
    (h : (Value.object members).get? "content" = some (.object content)) :
    classify (some (.object members)) = classifyContent (.object content) := by
  simp only [classify, h]

/-- **A reply made from a record is classified as the record says.** -/
theorem classify_replyTo (request : Message) (id : String) (r : FormatReply) :
    classify (some (request.replyTo id r.toValue).toValue) = r.outcome := by
  have hcontent : (request.replyTo id r.toValue).toValue.get? "content" = some r.toValue := by
    rw [Message.toValue, get?_ofMembers]
    rfl
  rw [← r.classifyContent_toValue]
  exact classify_object hcontent

end FormatBridge
