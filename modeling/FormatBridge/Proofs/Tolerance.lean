import FormatBridge.Proofs.Wire
import Mathlib.Data.List.Forall2

set_option autoImplicit false

/-! # Messages are read tolerantly

Peers write messages in their own way: the members of the three records in any order and with others
among them, white space everywhere, and fields left out that have their default. `Message.Loose` says
which texts write a message in this sense; all of them are read as the message
(`Message.read_tolerantly`). What a record gives for each of its fields depends only on what its
members give for each name (`Json.given`), so their order and all other members do not matter
(`Scattered.fields?`), and a record is refused when a name is given twice or a needed one not at
all. -/

namespace FormatBridge

open Json

namespace Json

/-! ## What members give for a name -/

/-- What members give for a name, in order. -/
def given (name : String) (members : List (Quoted × Tree)) : List Tree :=
  (members.filter fun m => Quoted.text? m.1 = some name).map (·.2)

theorem given_append (name : String) (members more : List (Quoted × Tree)) :
    given name (members ++ more) = given name members ++ given name more := by
  simp [given]

theorem given_perm {members others : List (Quoted × Tree)} (name : String)
    (h : members.Perm others) : (given name members).Perm (given name others) :=
  (h.filter _).map _

/-- The keys of members are read when all of them are texts; then a name is given what stands under
    it. -/
theorem readKeys?_eq_some {members : List (Quoted × Tree)} {keyed : List (String × Tree)}
    (h : readKeys? members = some keyed) : (∀ m ∈ members, (Quoted.text? m.1).isSome) ∧
      ∀ name, given name members = (keyed.filter (·.1 = name)).map (·.2) := by
  induction members generalizing keyed with
  | nil =>
    obtain rfl : [] = keyed := Option.some.inj h
    simp [given]
  | cons m members ih =>
    simp only [readKeys?, Option.bind_eq_bind, Option.bind_eq_some_iff, Option.pure_def,
      Option.some.injEq] at h
    obtain ⟨key, hkey, rest, hrest, rfl⟩ := h
    obtain ⟨htexts, hgiven⟩ := ih hrest
    refine ⟨List.forall_mem_cons.2 ⟨by simp [hkey], htexts⟩, fun name => ?_⟩
    have hcons : given name (m :: members) = given name [m] ++ given name members :=
      given_append name [m] members
    rw [hcons, hgiven name]
    by_cases hname : key = name <;> simp [given, hkey, hname]

theorem exists_readKeys? {members : List (Quoted × Tree)}
    (h : ∀ m ∈ members, (Quoted.text? m.1).isSome) : ∃ keyed, readKeys? members = some keyed := by
  induction members with
  | nil => exact ⟨[], rfl⟩
  | cons m members ih =>
    obtain ⟨hm, hmembers⟩ := List.forall_mem_cons.1 h
    obtain ⟨key, hkey⟩ := Option.isSome_iff_exists.1 hm
    obtain ⟨keyed, hkeyed⟩ := ih hmembers
    exact ⟨(key, m.2) :: keyed, by simp [readKeys?, hkey, hkeyed]⟩

theorem pickField?_eq_some_iff {keyed : List (String × Tree)} {name : String}
    {field : Option Tree} : pickField? keyed name = some field ↔
      (keyed.filter (·.1 = name)).map (·.2) = field.toList := by
  unfold pickField?
  split
  · rename_i hnone
    cases field <;> simp [hnone]
  · rename_i k t hone
    cases field <;> simp [hone]
  · rename_i hnil hmany
    cases field with
    | none => simpa using hnil
    | some t =>
      constructor
      · intro h
        contradiction
      · intro h
        obtain ⟨⟨k, _⟩, hone, -⟩ := List.map_eq_singleton_iff.1 h
        exact absurd hone (hmany k _)

theorem mapM_pickField?_eq_some_iff {keyed : List (String × Tree)} {names : List String}
    {fields : List (Option Tree)} : names.mapM (pickField? keyed) = some fields ↔
      List.Forall₂ (fun name field => pickField? keyed name = some field) names fields := by
  induction names generalizing fields with
  | nil => simp [eq_comm]
  | cons name names ih =>
    rw [List.mapM_cons, List.forall₂_cons_left_iff]
    simp only [Option.bind_eq_bind, Option.bind_eq_some_iff, Option.pure_def, Option.some.injEq, ih]
    constructor
    · rintro ⟨field, hfield, rest, hrest, rfl⟩
      exact ⟨field, rest, hfield, hrest, rfl⟩
    · rintro ⟨field, rest, hfield, hrest, rfl⟩
      exact ⟨field, hfield, rest, hrest, rfl⟩

/-- **What an object gives for the fields of a record:** all its keys have to be texts, and every
    field gets what its name is given, at most once. -/
theorem fields?_object_iff {names : List String} {members : List (Quoted × Tree)}
    {fields : List (Option Tree)} : (Tree.object members).fields? names = some fields ↔
      (∀ m ∈ members, (Quoted.text? m.1).isSome) ∧
        List.Forall₂ (fun name field => given name members = field.toList) names fields := by
  have hpick {keyed : List (String × Tree)} (hkeyed : readKeys? members = some keyed)
      (name : String) (field : Option Tree) :
      pickField? keyed name = some field ↔ given name members = field.toList := by
    rw [pickField?_eq_some_iff, (readKeys?_eq_some hkeyed).2 name]
  simp only [Tree.fields?, Option.bind_eq_some_iff, mapM_pickField?_eq_some_iff]
  constructor
  · rintro ⟨keyed, hkeyed, hfields⟩
    simp only [hpick hkeyed] at hfields
    exact ⟨(readKeys?_eq_some hkeyed).1, hfields⟩
  · rintro ⟨htexts, hfields⟩
    obtain ⟨keyed, hkeyed⟩ := exists_readKeys? htexts
    refine ⟨keyed, hkeyed, ?_⟩
    simpa only [hpick hkeyed] using hfields

/-- A field that is read is given at most once. -/
theorem given_of_fields? {names : List String} {members : List (Quoted × Tree)}
    {fields : List (Option Tree)} (h : (Tree.object members).fields? names = some fields)
    {name : String} (hname : name ∈ names) :
    ∃ field : Option Tree, given name members = field.toList := by
  have hfields := (fields?_object_iff.1 h).2
  clear h
  induction hfields with
  | nil => contradiction
  | cons hgiven _ ih =>
    rcases List.mem_cons.1 hname with rfl | hname
    · exact ⟨_, hgiven⟩
    · exact ih hname

theorem length_given_le {names : List String} {members : List (Quoted × Tree)}
    {fields : List (Option Tree)} (h : (Tree.object members).fields? names = some fields)
    {name : String} (hname : name ∈ names) : (given name members).length ≤ 1 := by
  obtain ⟨field, hgiven⟩ := given_of_fields? h hname
  rw [hgiven]
  cases field <;> simp

/-! ## Members in any order -/

/-- Fields in any order, with others among them whose keys are texts but none of `names`. -/
def Scattered (names : List String) (fields : List (String × Tree))
    (members : List (Quoted × Tree)) : Prop :=
  ∃ others : List (Quoted × Tree),
    (∀ m ∈ others, ∃ key, Quoted.text? m.1 = some key ∧ key ∉ names) ∧
      members.Perm (fields.map (fun f => (quoted f.1, f.2)) ++ others)

theorem given_fields {fields : List (String × Tree)} (hdistinct : (fields.map (·.1)).Nodup)
    (name : String) : given name (fields.map fun f => (quoted f.1, f.2)) =
      (fields.lookup name).toList := by
  induction fields with
  | nil => rfl
  | cons f fields ih =>
    obtain ⟨key, t⟩ := f
    obtain ⟨hkey, hrest⟩ := List.nodup_cons.1 hdistinct
    have hcons : given name (((key, t) :: fields).map fun f => (quoted f.1, f.2)) =
        given name [(quoted key, t)] ++ given name (fields.map fun f => (quoted f.1, f.2)) :=
      given_append name [(quoted key, t)] _
    rw [hcons, ih hrest, List.lookup_cons]
    by_cases hname : name = key
    · subst hname
      have hnone : fields.lookup name = none := by
        rw [List.lookup_eq_none_iff]
        intro p hp
        simpa using fun h : name = p.1 => hkey (List.mem_map.2 ⟨p, hp, h.symm⟩)
      simp [given, hnone]
    · have hne : (name == key) = false := beq_eq_false_iff_ne.2 hname
      simp [given, hne, Ne.symm hname]

/-- Fields in their order without other members are one case. -/
theorem scattered_fields (names : List String) (fields : List (String × Tree)) :
    Scattered names fields (fields.map fun f => (quoted f.1, f.2)) :=
  ⟨[], by simp, by simp⟩

/-- **Neither the order of the fields nor the other members matter.** -/
theorem Scattered.fields? {names : List String} {fields : List (String × Tree)}
    {members : List (Quoted × Tree)} (h : Scattered names fields members)
    (hdistinct : (fields.map (·.1)).Nodup) :
    (Tree.object members).fields? names = some (names.map fun name => fields.lookup name) := by
  obtain ⟨others, hothers, hperm⟩ := h
  rw [fields?_object_iff]
  constructor
  · intro m hm
    rcases List.mem_append.1 (hperm.mem_iff.1 hm) with hm | hm
    · obtain ⟨f, -, rfl⟩ := List.mem_map.1 hm
      simp
    · obtain ⟨key, hkey, -⟩ := hothers m hm
      simp [hkey]
  · rw [List.forall₂_map_right_iff, List.forall₂_same]
    intro name hname
    have hnone : given name others = [] := by
      rw [given, List.map_eq_nil_iff, List.filter_eq_nil_iff]
      intro m hm
      obtain ⟨key, hkey, hunknown⟩ := hothers m hm
      simpa [hkey] using fun h : key = name => hunknown (h ▸ hname)
    have hgiven := given_perm name hperm
    rw [given_append, hnone, List.append_nil, given_fields hdistinct] at hgiven
    cases hlookup : fields.lookup name with
    | none => simpa [hlookup] using hgiven
    | some t => simpa [hlookup] using hgiven

end Json

namespace Message

/-! ## Ways to write a message -/

/-- Ways to write a field that may be left out in some case. -/
inductive Omittable (name : String) (t : Tree) (omits : Prop) : List (String × Tree) → Prop
  | given : Omittable name t omits [(name, t)]
  | omitted (h : omits) : Omittable name t omits []

/-- Ways to write a text that may be absent. -/
inductive Nullable (name : String) : Option String → List (String × Tree) → Prop
  | text (s : String) : Nullable name (some s) [(name, .string (quoted s))]
  | omitted : Nullable name none []
  | null : Nullable name none [(name, .null)]

/-- Ways to write a header: the session may be left out when it is empty. -/
inductive LooseHeader (h : Header) : Tree → Prop
  | intro {session : List (String × Tree)} {members : List (Quoted × Tree)}
    (hsession : Omittable "session" (.string (quoted h.session)) (h.session = "") session)
    (hmembers : Scattered ["msg_id", "msg_type", "session"]
      (("msg_id", .string (quoted h.id)) :: ("msg_type", .string (quoted h.kind)) :: session)
      members) : LooseHeader h (.object members)

/-- Ways to write a parent: a field that is absent may be left out or null. -/
inductive LooseParent (p : Parent) : Tree → Prop
  | intro {id kind : List (String × Tree)} {members : List (Quoted × Tree)}
    (hid : Nullable "msg_id" p.id id) (hkind : Nullable "msg_type" p.kind kind)
    (hmembers : Scattered ["msg_id", "msg_type"] (id ++ kind) members) :
    LooseParent p (.object members)

/-- Ways to write a message: the parent may be left out when it is empty, and the content when it is
    null. -/
inductive LooseMessage (m : Message) : Tree → Prop
  | intro {header parent content : Tree} {parents contents : List (String × Tree)}
    {members : List (Quoted × Tree)} (hheader : LooseHeader m.header header)
    (hparent : LooseParent m.parent parent)
    (hparents : Omittable "parent_header" parent (m.parent = .empty) parents)
    (hcontent : Spells m.content.print content)
    (hcontents : Omittable "content" content (m.content = .null) contents)
    (hmembers : Scattered ["header", "parent_header", "content"]
      (("header", header) :: parents ++ contents) members) : LooseMessage m (.object members)

/-- Whether bytes write a message, be it in another way than it is printed. -/
def Loose (m : Message) (s : Bytes) : Prop := ∃ t, SpellsText s t ∧ LooseMessage m t

/-! ### The printed text is one of them -/

theorem looseHeader_texts (h : Header) : LooseHeader h (texts (headerFields h)) :=
  .intro .given (scattered_fields _ _)

theorem looseParent_texts (p : Parent) : LooseParent p (texts (parentFields p)) := by
  obtain ⟨_ | id, _ | kind⟩ := p
  · exact .intro .omitted .omitted (scattered_fields _ _)
  · exact .intro .omitted (.text kind) (scattered_fields _ _)
  · exact .intro (.text id) .omitted (scattered_fields _ _)
  · exact .intro (.text id) (.text kind) (scattered_fields _ _)

/-- **The text that is printed for a message writes it.** -/
theorem loose_print {m : Message} (hfits : m.content.Fits (maxDepth - 1)) : Loose m m.print := by
  obtain ⟨t, hspells, -⟩ := exists_tree hfits
  exact ⟨m.toTree t, ⟨[], m.print, [], blank_nil, blank_nil, spells_print hspells, by simp⟩,
    .intro (looseHeader_texts m.header) (looseParent_texts m.parent) .given hspells .given
      (scattered_fields _ _)⟩

/-! ## Reading them -/

/-- Whether there is at most one field, and that has this name. -/
def Single (name : String) (fields : List (String × Tree)) : Prop :=
  (fields.map (·.1)).Sublist [name]

theorem Single.lookup_ne {name other : String} {fields : List (String × Tree)}
    (h : Single name fields) (hne : other ≠ name) : fields.lookup other = none := by
  rw [List.lookup_eq_none_iff]
  intro p hp
  have hname : p.1 = name := List.mem_singleton.1 (h.subset (List.mem_map_of_mem hp))
  simpa [hname] using hne

theorem Omittable.single {name : String} {t : Tree} {omits : Prop} {fields : List (String × Tree)}
    (h : Omittable name t omits fields) : Single name fields := by
  cases h with
  | given => exact .refl _
  | omitted => exact List.nil_sublist _

/-- A field that may be left out is read, or it has its default. -/
theorem Omittable.read {α : Type} {name : String} {t : Tree} {omits : Prop}
    {fields : List (String × Tree)} {read : Tree → Option α} {default a : α}
    (h : Omittable name t omits fields) (hread : read t = some a) (hdefault : omits → a = default) :
    orDefault default read (fields.lookup name) = some a := by
  cases h with
  | given => simpa [orDefault] using hread
  | omitted homits => simp [orDefault, hdefault homits]

theorem Nullable.single {name : String} {value : Option String} {fields : List (String × Tree)}
    (h : Nullable name value fields) : Single name fields := by
  cases h with
  | text s => exact .refl _
  | omitted => exact List.nil_sublist _
  | null => exact .refl _

/-- A text that may be absent is read. -/
theorem Nullable.read {name : String} {value : Option String} {fields : List (String × Tree)}
    (h : Nullable name value fields) : optionalText (fields.lookup name) = some value := by
  cases h <;> simp [optionalText, orDefault, Tree.textOrNull?, Tree.text?]

theorem header?_loose {h : Header} {t : Tree} (hloose : LooseHeader h t) :
    header? t = some h := by
  obtain ⟨hsession, hmembers⟩ := hloose
  rename_i session members
  have hdistinct := ((hsession.single.cons_cons "msg_type").cons_cons "msg_id").nodup (by decide)
  have hread : orDefault "" Tree.text? (session.lookup "session") = some h.session :=
    hsession.read (text?_quoted h.session) fun hempty => hempty
  rw [header?, hmembers.fields? hdistinct]
  simp [lookup_cons_eq, required, Tree.text?, hread]

theorem parent?_loose {p : Parent} {t : Tree} (hloose : LooseParent p t) :
    parent? t = some p := by
  obtain ⟨hid, hkind, hmembers⟩ := hloose
  have hdistinct := (hid.single.append hkind.single).nodup (by decide)
  rw [← List.map_append] at hdistinct
  rw [parent?, hmembers.fields? hdistinct]
  simp [List.lookup_append, hkind.single.lookup_ne, hid.single.lookup_ne, hid.read, hkind.read]

/-- The content has one tree only: the one it is printed for. -/
theorem valueWithin?_of_spells {v : Value} {room : Nat} {t : Tree} (hfits : v.Fits room)
    (h : Spells v.print t) : t.valueWithin? room = some v := by
  obtain ⟨t', hspells, hvalue⟩ := exists_tree hfits
  have hsame : some t = some t' := h.writes.parse?.symm.trans hspells.writes.parse?
  rwa [Option.some.inj hsame]

theorem ofTree?_loose {m : Message} {t : Tree} (hfits : m.content.Fits (maxDepth - 1))
    (hloose : LooseMessage m t) : ofTree? t = some m := by
  obtain ⟨hheader, hparent, hparents, hcontent, hcontents, hmembers⟩ := hloose
  have hdistinct :=
    ((hparents.single.append hcontents.single).cons_cons "header").nodup (by decide)
  rw [← List.map_append] at hdistinct
  have hreadHeader := header?_loose hheader
  have hreadParent := hparents.read (parent?_loose hparent) fun hempty => hempty
  have hreadContent := hcontents.read (valueWithin?_of_spells hfits hcontent) fun hnull => hnull
  rw [ofTree?, hmembers.fields? hdistinct]
  simp [lookup_cons_eq, List.lookup_append, hparents.single.lookup_ne, hcontents.single.lookup_ne,
    required, hreadHeader, hreadParent, hreadContent]

/-- **Whatever way a message is written in, it is read.** -/
theorem decode?_loose {m : Message} {s : Bytes} (hfits : m.content.Fits (maxDepth - 1))
    (h : Loose m s) : decode? s = some m := by
  obtain ⟨t, hspells, hloose⟩ := h
  rw [decode?, hspells.parse?, Option.bind_some, ofTree?_loose hfits hloose]

/-! ## Texts that write no message -/

/-- Members of an object that cannot be a message: the header is missing, one of its needed fields
    is missing or no text, or a field of one of the records is given twice. -/
inductive Defective (members : List (Quoted × Tree)) : Prop
  | headerMissing (h : given "header" members = [])
  | textMissing {header : List (Quoted × Tree)} {name : String}
    (hheader : .object header ∈ given "header" members) (hname : name ∈ ["msg_id", "msg_type"])
    (h : ∀ t ∈ given name header, t.text? = none)
  | twice {name : String} (hname : name ∈ ["header", "parent_header", "content"])
    (h : 2 ≤ (given name members).length)
  | twiceInHeader {header : List (Quoted × Tree)} {name : String}
    (hheader : .object header ∈ given "header" members)
    (hname : name ∈ ["msg_id", "msg_type", "session"]) (h : 2 ≤ (given name header).length)
  | twiceInParent {parent : List (Quoted × Tree)} {name : String}
    (hparent : .object parent ∈ given "parent_header" members)
    (hname : name ∈ ["msg_id", "msg_type"]) (h : 2 ≤ (given name parent).length)

/-- A field that has to be given is given what its reader reads. -/
theorem mem_given_of_required {α : Type} {read : Tree → Option α} {field : Option Tree} {a : α}
    {members : List (Quoted × Tree)} {name : String} (hgiven : given name members = field.toList)
    (h : required read field = some a) : ∃ t, given name members = [t] ∧ read t = some a := by
  obtain ⟨t, rfl, ht⟩ := Option.bind_eq_some_iff.1 h
  exact ⟨t, hgiven, ht⟩

/-- What an object gives that is read as a header. -/
theorem header?_object {members : List (Quoted × Tree)} {h : Header}
    (hread : header? (.object members) = some h) :
    (∀ name ∈ ["msg_id", "msg_type"], ∃ t, given name members = [t] ∧ ∃ s, t.text? = some s) ∧
      ∀ name ∈ ["msg_id", "msg_type", "session"], (given name members).length ≤ 1 := by
  simp only [header?, Option.bind_eq_bind, Option.bind_eq_some_iff] at hread
  obtain ⟨fields, hfields, hread⟩ := hread
  refine ⟨?_, fun name => length_given_le hfields⟩
  have hgiven := (fields?_object_iff.1 hfields).2
  simp only [List.forall₂_cons_left_iff, List.forall₂_nil_left_iff] at hgiven
  obtain ⟨id, _, hid, ⟨kind, _, hkind, ⟨session, _, -, rfl, rfl⟩, rfl⟩, rfl⟩ := hgiven
  simp only [Option.bind_eq_some_iff] at hread
  obtain ⟨idText, hidText, kindText, hkindText, -⟩ := hread
  obtain ⟨idTree, hidTree, hidRead⟩ := mem_given_of_required hid hidText
  obtain ⟨kindTree, hkindTree, hkindRead⟩ := mem_given_of_required hkind hkindText
  intro name hname
  rcases List.mem_pair.1 hname with rfl | rfl
  · exact ⟨idTree, hidTree, idText, hidRead⟩
  · exact ⟨kindTree, hkindTree, kindText, hkindRead⟩

/-- What an object gives that is read as a parent. -/
theorem parent?_object {members : List (Quoted × Tree)} {p : Parent}
    (hread : parent? (.object members) = some p) :
    ∀ name ∈ ["msg_id", "msg_type"], (given name members).length ≤ 1 := by
  simp only [parent?, Option.bind_eq_bind, Option.bind_eq_some_iff] at hread
  obtain ⟨fields, hfields, -⟩ := hread
  exact fun name => length_given_le hfields

/-- What an object gives that is read as a message. -/
theorem ofTree?_object {members : List (Quoted × Tree)} {m : Message}
    (hread : ofTree? (.object members) = some m) :
    (∃ header, given "header" members = [header] ∧ header? header = some m.header) ∧
      (∀ parent ∈ given "parent_header" members, parent? parent = some m.parent) ∧
      ∀ name ∈ ["header", "parent_header", "content"], (given name members).length ≤ 1 := by
  simp only [ofTree?, Option.bind_eq_bind, Option.bind_eq_some_iff] at hread
  obtain ⟨fields, hfields, hread⟩ := hread
  have hgiven := (fields?_object_iff.1 hfields).2
  simp only [List.forall₂_cons_left_iff, List.forall₂_nil_left_iff] at hgiven
  obtain ⟨header, _, hheader, ⟨parent, _, hparent, ⟨content, _, -, rfl, rfl⟩, rfl⟩, rfl⟩ := hgiven
  simp only [Option.bind_eq_some_iff, Option.pure_def, Option.some.injEq] at hread
  obtain ⟨h, hreadHeader, p, hreadParent, v, -, rfl⟩ := hread
  refine ⟨mem_given_of_required hheader hreadHeader, ?_, fun name => length_given_le hfields⟩
  rw [hparent]
  cases parent with
  | none => simp
  | some t => simpa [orDefault] using hreadParent

/-- **A defective object is read as no message.** -/
theorem ofTree?_defective {members : List (Quoted × Tree)} (h : Defective members) :
    ofTree? (.object members) = none := by
  rw [Option.eq_none_iff_forall_ne_some]
  intro m hread
  obtain ⟨⟨header, hheader, hreadHeader⟩, hparents, honce⟩ := ofTree?_object hread
  cases h with
  | headerMissing h => simp [h] at hheader
  | textMissing hgiven hname h =>
    obtain rfl : _ = header := by simpa [hheader] using hgiven
    obtain ⟨t, ht, s, hs⟩ := (header?_object hreadHeader).1 _ hname
    have hnone := h t (by simp [ht])
    rw [hs] at hnone
    contradiction
  | twice hname h => exact absurd (honce _ hname) (by omega)
  | twiceInHeader hgiven hname h =>
    obtain rfl : _ = header := by simpa [hheader] using hgiven
    exact absurd ((header?_object hreadHeader).2 _ hname) (by omega)
  | twiceInParent hgiven hname h =>
    exact absurd (parent?_object (hparents _ hgiven) _ hname) (by omega)

/-- **Messages are read tolerantly, but not without their header.** Every text that writes a message
    in some way, with its members in any order and with others among them, with white space anywhere
    and with defaults left out, is read as that message. An object is never read as a message when
    the header or one of its needed texts is missing, or a field is given twice. -/
theorem read_tolerantly :
    (∀ {m : Message} {s : Bytes}, m.content.Fits (maxDepth - 1) → Loose m s →
      decode? s = some m) ∧
      ∀ {s : Bytes} {members : List (Quoted × Tree)}, SpellsText s (.object members) →
        Defective members → decode? s = none := by
  refine ⟨fun hfits h => decode?_loose hfits h, fun hspells h => ?_⟩
  rw [decode?, hspells.parse?, Option.bind_some, ofTree?_defective h]

/-- A request without a session and without content, with a member of its own. -/
def looseText : Bytes :=
  Utf8.encode "\x7b\"seq\" : [ ], \"header\":\x7b\"msg_type\":\"b\",\"msg_id\":\"a\"\x7d \x7d\n"

theorem loose_looseText : Loose (.request "a" "b" "" .null) looseText := by
  have hobject := @Spells.object
    [(⟨[], (Utf8.encode "seq").flatMap escapeByte, [0x20], quoted "seq"⟩,
        ⟨[0x20], [0x5B, 0x20, 0x5D], [], .array []⟩),
      (⟨[0x20], (Utf8.encode "header").flatMap escapeByte, [], quoted "header"⟩,
        ⟨[], printTexts [("msg_type", "b"), ("msg_id", "a")], [0x20],
          texts [("msg_type", "b"), ("msg_id", "a")]⟩)]
    (by simp)
    (by
      simp only [List.forall_mem_cons, List.not_mem_nil, false_imp_iff, implies_true, and_true]
      exact ⟨⟨by decide, spellsUnits_quoted _, by decide⟩,
        ⟨by decide, spellsUnits_quoted _, by decide⟩⟩)
    (by
      simp only [List.forall_mem_cons, List.not_mem_nil, false_imp_iff, implies_true, and_true]
      exact ⟨⟨by decide, by decide⟩, ⟨by decide, by decide⟩⟩)
    (by
      simp only [List.forall_mem_cons, List.not_mem_nil, false_imp_iff, implies_true, and_true]
      exact ⟨@Spells.emptyArray [0x20] (by decide), spells_texts _⟩)
  have hheader : LooseHeader ⟨"a", "b", ""⟩ (texts [("msg_type", "b"), ("msg_id", "a")]) :=
    .intro (.omitted rfl) ⟨[], by simp, List.Perm.swap ..⟩
  have hparent : LooseParent .empty (.object []) :=
    .intro .omitted .omitted ⟨[], by simp, List.Perm.refl _⟩
  refine ⟨_, ⟨[], _, [0x0A], blank_nil, by decide, hobject, by decide⟩,
    .intro hheader hparent (.omitted rfl) .null (.omitted rfl) ⟨[(quoted "seq", .array [])], ?_, ?_⟩⟩
  · simp
  · exact List.Perm.swap ..

/-- That text is read, and an object without a header is not. -/
theorem read_tolerantly_rearranged :
    decode? looseText = some (.request "a" "b" "" .null) ∧
      decode? (Utf8.encode "\x7b\x7d") = none :=
  ⟨read_tolerantly.1 .null loose_looseText,
    read_tolerantly.2 ⟨[], _, [], blank_nil, blank_nil, .emptyObject blank_nil, rfl⟩
      (.headerMissing rfl)⟩

end Message

end FormatBridge
