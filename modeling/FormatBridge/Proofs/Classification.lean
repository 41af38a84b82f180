import FormatBridge.Proofs.JsonValue
import FormatBridge.Reply
import Mathlib.Data.List.Forall2

set_option autoImplicit false

/-! # What classification looks at

A reply is any value, and `classify` is lenient: all that it looks at is the `Gist` of the value,
which is whether it is an object, whether its content is one, and the texts of four members of the
content (`classify_eq`). So nothing that leaves the gist as it is changes the result. The typed
record is read strictly, from a text or from a value; wherever it can be read, it says what
classification says (`FormatReply.classify_of_record`). -/

namespace FormatBridge

open Json

/-! ## The gist of a reply -/

namespace Json.Value

/-- The object that a reply has as its content. -/
def content? (v : Value) : Option Value :=
  match v.get? "content" with
  | some (.object members) => some (.object members)
  | _ => none

/-- The text of the member `key`. -/
def textAt? (v : Value) (key : String) : Option String := (v.get? key).bind text?

theorem content?_eq_some_iff {v content : Value} : v.content? = some content ↔
    ∃ members, content = .object members ∧ v.get? "content" = some (.object members) := by
  unfold content?
  constructor
  · intro h
    split at h
    · rename_i members hmembers
      exact ⟨members, (Option.some.inj h).symm, hmembers⟩
    · contradiction
  · rintro ⟨members, rfl, hmembers⟩
    rw [hmembers]

theorem textAt?_eq_some_iff {v : Value} {key s : String} :
    v.textAt? key = some s ↔ v.get? key = some (.string s) := by
  unfold textAt?
  cases v.get? key with
  | none => simp
  | some w => cases w <;> simp [text?]

end Json.Value

/-- All that classification looks at in a reply. -/
inductive Gist where
  | notAnObject
  | missingContent
  /-- The texts of four members of the content. -/
  | texts (status code errorName errorText : Option String)
  deriving DecidableEq, Repr

namespace Gist

/-- The gist of a reply. -/
def ofValue (v : Value) : Gist :=
  match v.members?, v.content? with
  | none, _ => .notAnObject
  | some _, none => .missingContent
  | some _, some content =>
    .texts (content.textAt? "status") (content.textAt? "code") (content.textAt? "ename")
      (content.textAt? "evalue")

/-- What a gist says. -/
def outcome : Gist → Except ReplyError String
  | .notAnObject => .error .notAnObject
  | .missingContent => .error .missingContent
  | .texts none _ _ _ => .error .missingStatus
  | .texts (some status) code errorName errorText =>
    if status = okText then code.elim (.error .missingCode) .ok
    else .error (.reported status errorName errorText)

theorem outcome_eq_ok_iff {g : Gist} {code : String} : g.outcome = .ok code ↔
    ∃ errorName errorText, g = .texts (some okText) (some code) errorName errorText := by
  cases g with
  | notAnObject => simp [outcome]
  | missingContent => simp [outcome]
  | texts status found errorName errorText =>
    cases status with
    | none => simp [outcome]
    | some status =>
      by_cases hok : status = okText
      · cases found <;> simp [outcome, hok]
      · simp [outcome, hok]

theorem ofValue_of_content {v content : Value} (h : v.content? = some content) :
    ofValue v = .texts (content.textAt? "status") (content.textAt? "code")
      (content.textAt? "ename") (content.textAt? "evalue") := by
  obtain ⟨members, -, hget⟩ := Value.content?_eq_some_iff.1 h
  have hobject : ∃ all, v.members? = some all := by
    cases hv : v.members? with
    | none => simp [Value.get?, hv] at hget
    | some all => exact ⟨all, rfl⟩
  obtain ⟨all, hall⟩ := hobject
  simp only [ofValue, hall, h]

end Gist

theorem classifyContent_eq (content : Value) : classifyContent content =
    (Gist.texts (content.textAt? "status") (content.textAt? "code") (content.textAt? "ename")
      (content.textAt? "evalue")).outcome := by
  have htext (key : String) : (content.get? key).bind Value.text? = content.textAt? key := rfl
  simp only [classifyContent, htext]
  cases content.textAt? "status" with
  | none => rfl
  | some status =>
    by_cases hok : status = okText
    · simp only [Status.ofText, hok, if_true, Gist.outcome]
      cases content.textAt? "code" <;> rfl
    · simp only [Status.ofText, hok, if_false, Gist.outcome]

/-- **Classification looks at nothing but the gist.** -/
theorem classify_eq (v : Value) : classify (some v) = (Gist.ofValue v).outcome := by
  cases hcontent : v.content? with
  | some content =>
    obtain ⟨members, rfl, hget⟩ := Value.content?_eq_some_iff.1 hcontent
    rw [Gist.ofValue_of_content hcontent, ← classifyContent_eq]
    cases v with
    | object all => simp only [classify, hget]
    | _ => simp [Value.get?, Value.members?] at hget
  | none =>
    cases v with
    | object all =>
      have hother : ∀ members, (Value.object all).get? "content" ≠ some (.object members) := by
        intro members hget
        rw [Value.content?_eq_some_iff.2 ⟨members, rfl, hget⟩] at hcontent
        contradiction
      simp only [classify, Gist.ofValue, Value.members?, hcontent, Gist.outcome]
    | _ => rfl

/-! ## Changing members -/

namespace Json

/-- Members with the one under `key` set, or taken out. -/
def putMember (key : String) (v : Option Value) (members : List (String × Value)) :
    List (String × Value) :=
  match v with
  | some v => insertMember key v members
  | none => members.filter (·.1 ≠ key)

theorem lookup_putMember (members : List (String × Value)) (k key : String) (v : Option Value) :
    (putMember k v members).lookup key = if key = k then v else members.lookup key := by
  cases v with
  | some v => exact lookup_insertMember members k key v
  | none => exact lookup_filter_ne members k key

namespace Value

/-- An object with a member set, or taken out; nothing else has members to change. -/
def put (v : Value) (key : String) (x : Option Value) : Value :=
  match v with
  | .object members => .object (putMember key x members)
  | v => v

theorem isSome_members?_put (v : Value) (key : String) (x : Option Value) :
    (v.put key x).members?.isSome = v.members?.isSome := by
  cases v <;> rfl

theorem get?_put_of_ne (v : Value) {k key : String} (hne : key ≠ k) (x : Option Value) :
    (v.put k x).get? key = v.get? key := by
  cases v with
  | object members => simp [put, get?, members?, lookup_putMember, hne]
  | _ => rfl

theorem get?_put_self {v : Value} (hobject : v.members?.isSome = true) (key : String)
    (x : Option Value) : (v.put key x).get? key = x := by
  cases v with
  | object members => simp [put, get?, members?, lookup_putMember]
  | _ => simp [members?] at hobject

end Value

end Json

namespace Gist

/-- The members of the content whose texts are looked at. -/
def keys : List String := ["status", "code", "ename", "evalue"]

theorem ofValue_congr {v w : Value} (hobject : v.members?.isSome = w.members?.isSome)
    (hcontent : v.content?.isSome = w.content?.isSome)
    (htexts : ∀ key ∈ keys, v.content?.bind (·.textAt? key) = w.content?.bind (·.textAt? key)) :
    ofValue v = ofValue w := by
  simp only [keys, List.forall_mem_cons, List.not_mem_nil, false_implies, implies_true,
    and_true] at htexts
  obtain ⟨hstatus, hcode, hname, htext⟩ := htexts
  unfold ofValue
  cases hv : v.members? <;> cases hw : w.members? <;> simp only [hv, hw] at hobject ⊢
  · simp at hobject
  · simp at hobject
  · cases hvc : v.content? <;> cases hwc : w.content? <;>
      simp only [hvc, hwc, Option.bind_some] at hcontent hstatus hcode hname htext ⊢
    · simp at hcontent
    · simp at hcontent
    · rw [hstatus, hcode, hname, htext]

/-- Other members of a reply do not count. -/
theorem ofValue_put (v : Value) {key : String} (hother : key ≠ "content") (x : Option Value) :
    ofValue (v.put key x) = ofValue v := by
  have hcontent : (v.put key x).content? = v.content? := by
    rw [Value.content?, Value.content?, v.get?_put_of_ne hother.symm]
  exact ofValue_congr (v.isSome_members?_put key x) (by rw [hcontent]) (by simp [hcontent])

/-- Other members of the content do not count, and neither does a value without a text under a key
    that has none. -/
theorem ofValue_put_content {v content : Value} (hcontent : v.content? = some content)
    {key : String} {x : Option Value}
    (hunseen : key ∈ keys → x.bind Value.text? = none ∧ content.textAt? key = none) :
    ofValue (v.put "content" (some (content.put key x))) = ofValue v := by
  obtain ⟨members, rfl, hget⟩ := Value.content?_eq_some_iff.1 hcontent
  have hobject : v.members?.isSome = true := by
    cases v with
    | object all => rfl
    | _ => simp [Value.get?, Value.members?] at hget
  have hput : (v.put "content" (some ((Value.object members).put key x))).content? =
      some ((Value.object members).put key x) :=
    Value.content?_eq_some_iff.2 ⟨putMember key x members, rfl, Value.get?_put_self hobject _ _⟩
  refine ofValue_congr (Value.isSome_members?_put ..) (by rw [hput, hcontent]; rfl) ?_
  intro k hk
  rw [hput, hcontent, Option.bind_some, Option.bind_some]
  by_cases hkey : k = key
  · subst hkey
    obtain ⟨hx, hnone⟩ := hunseen hk
    rw [hnone, Value.textAt?, Value.get?_put_self rfl, hx]
  · rw [Value.textAt?, Value.textAt?, Value.get?_put_of_ne _ hkey]

end Gist

/-! ## The typed record -/

namespace FormatReply

/-- A text that may be missing or null. -/
def optionalText? : Option Value → Option (Option String)
  | none | some .null => some none
  | some v => v.text?.map some

/-- The record that an object gives; all but the status may be missing or null, and other members
    are skipped. -/
def ofValue? (v : Value) : Option FormatReply := do
  let members ← v.members?
  let status ← (members.lookup "status").bind Value.text?
  let code ← optionalText? (members.lookup "code")
  let errorName ← optionalText? (members.lookup "ename")
  let errorText ← optionalText? (members.lookup "evalue")
  return ⟨status, code, errorName, errorText⟩

theorem textAt?_of_optionalText? {members : List (String × Value)} {key : String}
    {text : Option String} (h : optionalText? (members.lookup key) = some text) :
    (Value.object members).textAt? key = text := by
  have hget : (Value.object members).get? key = members.lookup key := rfl
  rw [Value.textAt?, hget]
  cases hv : members.lookup key with
  | none =>
    rw [hv] at h
    exact Option.some.inj h
  | some v =>
    rw [hv] at h
    cases v <;> simp_all [optionalText?, Value.text?]

/-- A record that can be read has all that classification looks at. -/
theorem gist_of_ofValue? {v content : Value} {r : FormatReply}
    (hcontent : v.content? = some content) (hrecord : ofValue? content = some r) :
    Gist.ofValue v = .texts (some r.status) r.code r.errorName r.errorText := by
  obtain ⟨members, rfl, -⟩ := Value.content?_eq_some_iff.1 hcontent
  simp only [ofValue?, Value.members?, Option.bind_eq_bind, Option.bind_some,
    Option.bind_eq_some_iff, Option.pure_def, Option.some.injEq] at hrecord
  obtain ⟨status, ⟨w, hw, hstatus⟩, code, hcode, name, hname, text, htext, rfl⟩ := hrecord
  have hstatus : (Value.object members).textAt? "status" = some status := by
    have hget : (Value.object members).get? "status" = members.lookup "status" := rfl
    rw [Value.textAt?, hget, hw, Option.bind_some, hstatus]
  rw [Gist.ofValue_of_content hcontent, hstatus, textAt?_of_optionalText? hcode,
    textAt?_of_optionalText? hname, textAt?_of_optionalText? htext]

theorem outcome_eq (r : FormatReply) :
    r.outcome = (Gist.texts (some r.status) r.code r.errorName r.errorText).outcome := by
  obtain ⟨status, code, name, text⟩ := r
  by_cases hok : status = okText
  · cases code <;> simp [outcome, Gist.outcome, Status.ofText, hok]
  · simp [outcome, Gist.outcome, Status.ofText, hok]

/-- **A record that can be read says what classification says.** -/
theorem classify_of_record {v content : Value} {r : FormatReply}
    (hcontent : v.content? = some content) (hrecord : ofValue? content = some r) :
    classify (some v) = r.outcome := by
  rw [classify_eq, gist_of_ofValue? hcontent hrecord, outcome_eq]

end FormatReply

/-! ## The record as it is written -/

namespace Json

/-- Whether a member as it is written has this key and this value. -/
def Means (room : Nat) (written : String × Tree) (m : String × Value) : Prop :=
  written.1 = m.1 ∧ written.2.valueWithin? room = some m.2

/-- Members that have values can be read one by one. -/
theorem exists_keyed {room : Nat} {written : List (Quoted × Tree)}
    {members : List (String × Value)} (h : membersWithin? room written = some members) :
    ∃ keyed, readKeys? written = some keyed ∧ List.Forall₂ (Means room) keyed members := by
  induction written generalizing members with
  | nil =>
    obtain rfl := Option.some.inj h
    exact ⟨[], rfl, .nil⟩
  | cons w written ih =>
    obtain ⟨k, t⟩ := w
    simp only [membersWithin?, Option.bind_eq_bind, Option.bind_eq_some_iff, Option.pure_def,
      Option.some.injEq] at h
    obtain ⟨key, hkey, v, hv, rest, hrest, rfl⟩ := h
    obtain ⟨keyed, hkeyed, hall⟩ := ih hrest
    exact ⟨(key, t) :: keyed, by simp [readKeys?, hkey, hkeyed], .cons ⟨rfl, hv⟩ hall⟩

/-- What is picked for a field has the value of the last member with its name, which is the only
    one. -/
theorem lookup_of_pickField? {room : Nat} {keyed : List (String × Tree)}
    {members : List (String × Value)} (hall : List.Forall₂ (Means room) keyed members)
    {name : String} {field : Option Tree} (hpick : pickField? keyed name = some field) :
    members.reverse.lookup name = field.bind (·.valueWithin? room) := by
  have hfilter : List.Forall₂ (Means room) (keyed.filter (·.1 = name))
      (members.filter (·.1 = name)) :=
    List.rel_filter (fun _ _ h => by simp [h.1]) hall
  rw [lookup_eq_head?_filter, List.filter_reverse]
  unfold pickField? at hpick
  split at hpick
  · rename_i hnone
    rw [hnone, List.forall₂_nil_left_iff] at hfilter
    obtain rfl := Option.some.inj hpick
    rw [hfilter]
    rfl
  · rename_i k t hone
    rw [hone, List.forall₂_cons_left_iff] at hfilter
    obtain ⟨m, rest, hmeans, hrest, heq⟩ := hfilter
    obtain rfl := List.forall₂_nil_left_iff.1 hrest
    obtain rfl := Option.some.inj hpick
    rw [heq, Option.bind_some, hmeans.2]
    rfl
  · contradiction

/-- A tree whose value is an object is an object, and its members have values. -/
theorem exists_written {room : Nat} {t : Tree} {members : List (String × Value)}
    (h : t.valueWithin? room = some (.object members)) : ∃ written values room',
      t = .object written ∧ membersWithin? room' written = some values ∧
      members = sortMembers values := by
  cases t with
  | object written =>
    cases room with
    | zero => contradiction
    | succ room =>
      obtain ⟨values, hvalues, heq⟩ := Option.map_eq_some_iff.1 h
      exact ⟨written, values, room, rfl, hvalues, (Value.object.inj heq).symm⟩
  | array items =>
    cases room with
    | zero => contradiction
    | succ room =>
      obtain ⟨_, -, heq⟩ := Option.map_eq_some_iff.1 h
      contradiction
  | number n =>
    obtain ⟨_, -, heq⟩ := Option.map_eq_some_iff.1 h
    contradiction
  | string q =>
    obtain ⟨_, -, heq⟩ := Option.map_eq_some_iff.1 h
    contradiction
  | null => cases Option.some.inj h
  | bool b => cases Option.some.inj h

theorem text?_of_required {room : Nat} {field : Option Tree} {s : String}
    (h : required Tree.text? field = some s) :
    (field.bind (·.valueWithin? room)).bind Value.text? = some s := by
  cases field with
  | none => contradiction
  | some t =>
    cases t with
    | string q =>
      have hq : Quoted.text? q = some s := h
      simp [Tree.valueWithin?, hq, Value.text?]
    | _ => contradiction

end Json

namespace FormatReply

theorem optionalText?_of_optionalText {room : Nat} {field : Option Tree} {text : Option String}
    (h : optionalText field = some text) :
    optionalText? (field.bind (·.valueWithin? room)) = some text := by
  cases field with
  | none => exact h
  | some t =>
    cases t with
    | null => exact h
    | string q =>
      obtain ⟨s, hs, rfl⟩ := Option.map_eq_some_iff.1 h
      have hq : Quoted.text? q = some s := hs
      simp [Tree.valueWithin?, hq, optionalText?, Value.text?]
    | _ => contradiction

/-- **A record that is read from a text is read from its value.** -/
theorem ofValue?_of_ofTree? {room : Nat} {t : Tree} {members : List (String × Value)}
    {r : FormatReply} (hvalue : t.valueWithin? room = some (.object members))
    (hrecord : ofTree? t = some r) : ofValue? (.object members) = some r := by
  obtain ⟨written, values, room, rfl, hvalues, rfl⟩ := exists_written hvalue
  obtain ⟨keyed, hkeyed, hall⟩ := exists_keyed hvalues
  have hlookup {key : String} {field : Option Tree} (hpick : pickField? keyed key = some field) :
      (sortMembers values).lookup key = field.bind (·.valueWithin? room) :=
    (get?_ofMembers values key).trans (lookup_of_pickField? hall hpick)
  simp only [ofTree?, Tree.fields?, hkeyed, Option.bind_eq_bind, Option.bind_some] at hrecord
  obtain ⟨fields, hfields, hread⟩ := Option.bind_eq_some_iff.1 hrecord
  simp only [List.mapM_cons, List.mapM_nil, Option.bind_eq_bind, Option.bind_eq_some_iff,
    Option.pure_def, Option.some.injEq] at hfields
  obtain ⟨status, hstatus, _, ⟨code, hcode, _, ⟨name, hname, _, ⟨text, htext, _, rfl, rfl⟩,
    rfl⟩, rfl⟩, rfl⟩ := hfields
  simp only [Option.bind_eq_some_iff, Option.pure_def, Option.some.injEq] at hread
  obtain ⟨s, hs, c, hc, n, hn, e, he, rfl⟩ := hread
  simp only [ofValue?, Value.members?, Option.bind_eq_bind, Option.bind_some, hlookup hstatus,
    hlookup hcode, hlookup hname, hlookup htext, text?_of_required hs,
    optionalText?_of_optionalText hc, optionalText?_of_optionalText hn,
    optionalText?_of_optionalText he, Option.pure_def]

end FormatReply

/-! ## Classification and the record -/

theorem classify_eq_ok_iff {v : Value} {code : String} : classify (some v) = .ok code ↔
    ∃ members content, v = .object members ∧
      members.lookup "content" = some (.object content) ∧
      content.lookup "status" = some (.string okText) ∧
      content.lookup "code" = some (.string code) := by
  rw [classify_eq, Gist.outcome_eq_ok_iff]
  constructor
  · rintro ⟨name, text, hgist⟩
    unfold Gist.ofValue at hgist
    split at hgist
    · contradiction
    · contradiction
    · rename_i members content hmembers hcontent
      obtain ⟨hstatus, hcode, -, -⟩ := Gist.texts.inj hgist
      obtain ⟨fields, rfl, hget⟩ := Value.content?_eq_some_iff.1 hcontent
      cases v with
      | object all =>
        exact ⟨all, fields, rfl, hget, Value.textAt?_eq_some_iff.1 hstatus,
          Value.textAt?_eq_some_iff.1 hcode⟩
      | _ => contradiction
  · rintro ⟨members, content, rfl, hget, hstatus, hcode⟩
    have hcontent : (Value.object members).content? = some (.object content) :=
      Value.content?_eq_some_iff.2 ⟨content, rfl, hget⟩
    have hstatus : (Value.object content).textAt? "status" = some okText :=
      Value.textAt?_eq_some_iff.2 hstatus
    have hcode : (Value.object content).textAt? "code" = some code :=
      Value.textAt?_eq_some_iff.2 hcode
    rw [Gist.ofValue_of_content hcontent, hstatus, hcode]
    exact ⟨_, _, rfl⟩

/-- **Lenient classification agrees with the typed record.** Code comes out just when the reply is
    an object whose content is an object with the status `ok` and a text as its code. Nothing else
    in the reply counts but the texts of its content's status, code, error name and error text: not
    its other members, not the other members of its content, and not what stands in place of one of
    these texts. A content that can be read as a record, from its value or from what was written for
    it, is classified as the record says. -/
theorem classification_agrees_with_record (v : Value) :
    (∀ code, classify (some v) = .ok code ↔ ∃ members content, v = .object members ∧
      members.lookup "content" = some (.object content) ∧
      content.lookup "status" = some (.string "ok") ∧
      content.lookup "code" = some (.string code)) ∧
    (∀ w : Value, v.members?.isSome = w.members?.isSome → v.content?.isSome = w.content?.isSome →
      (∀ key ∈ ["status", "code", "ename", "evalue"],
        v.content?.bind (·.textAt? key) = w.content?.bind (·.textAt? key)) →
      classify (some v) = classify (some w)) ∧
    (∀ key x, key ≠ "content" → classify (some (v.put key x)) = classify (some v)) ∧
    (∀ content key x, v.content? = some content →
      (key ∈ ["status", "code", "ename", "evalue"] →
        x.bind Value.text? = none ∧ content.textAt? key = none) →
      classify (some (v.put "content" (some (content.put key x)))) = classify (some v)) ∧
    ∀ content r, v.content? = some content →
      (FormatReply.ofValue? content = some r ∨
        ∃ t room, Tree.valueWithin? room t = some content ∧ FormatReply.ofTree? t = some r) →
      classify (some v) =
        if r.status = "ok" then r.code.elim (.error .missingCode) .ok
        else .error (.reported r.status r.errorName r.errorText) := by
  refine ⟨fun code => classify_eq_ok_iff, ?_, ?_, ?_, ?_⟩
  · intro w hobject hcontent htexts
    rw [classify_eq, classify_eq, Gist.ofValue_congr hobject hcontent htexts]
  · intro key x hother
    rw [classify_eq, classify_eq, Gist.ofValue_put v hother]
  · intro content key x hcontent hunseen
    rw [classify_eq, classify_eq, Gist.ofValue_put_content hcontent hunseen]
  · intro content r hcontent hread
    have hrecord : FormatReply.ofValue? content = some r := by
      rcases hread with hrecord | ⟨t, room, hvalue, hrecord⟩
      · exact hrecord
      · obtain ⟨members, rfl, -⟩ := Value.content?_eq_some_iff.1 hcontent
        exact FormatReply.ofValue?_of_ofTree? hvalue hrecord
    rw [FormatReply.classify_of_record hcontent hrecord, FormatReply.outcome_eq]
    rfl

end FormatBridge
