import FormatBridge.Proofs.JsonNumber

set_option autoImplicit false

/-! # The JSON grammar

`Spells s t` says that the bytes `s` are a way to write the tree `t`: any escapes in its strings, any
letter and sign in front of an exponent, and white space around every item, key and value. The parser
reads every such text as its tree (`Spells.writes`, `SpellsText.parse?`), at any depth. -/

namespace FormatBridge.Json

/-- An item of an array as it is written, with white space around it. -/
structure SpacedItem where
  before : Bytes
  bytes : Bytes
  after : Bytes
  tree : Tree

namespace SpacedItem

/-- The item with the white space. -/
def print (i : SpacedItem) : Bytes := i.before ++ i.bytes ++ i.after

/-- Whether there is nothing but white space around the item. -/
structure Spaced (i : SpacedItem) : Prop where
  before : Blank i.before
  after : Blank i.after

end SpacedItem

/-- A key of an object between its quotes, with white space around them. -/
structure SpacedKey where
  before : Bytes
  inner : Bytes
  after : Bytes
  key : Quoted

namespace SpacedKey

/-- The key with the white space. -/
def print (k : SpacedKey) : Bytes := k.before ++ quoteMark :: (k.inner ++ [quoteMark]) ++ k.after

/-- Whether the key is spelled, with nothing but white space around it. -/
structure Spelled (k : SpacedKey) : Prop where
  before : Blank k.before
  key : SpellsUnits k.inner k.key
  after : Blank k.after

end SpacedKey

/-- Whether bytes are a way to write a tree. -/
inductive Spells : Bytes → Tree → Prop
  | null : Spells [0x6E, 0x75, 0x6C, 0x6C] .null
  | true : Spells [0x74, 0x72, 0x75, 0x65] (.bool true)
  | false : Spells [0x66, 0x61, 0x6C, 0x73, 0x65] (.bool false)
  | number {s : Bytes} {n : NumberText} (h : SpellsNumber s n) : Spells s (.number n)
  | string {s : Bytes} {q : Quoted} (h : SpellsUnits s q) :
    Spells (quoteMark :: (s ++ [quoteMark])) (.string q)
  | emptyArray {s : Bytes} (h : Blank s) : Spells (0x5B :: (s ++ [0x5D])) (.array [])
  | array {items : List SpacedItem} (hne : items ≠ []) (hspaced : ∀ i ∈ items, i.Spaced)
    (hitems : ∀ i ∈ items, Spells i.bytes i.tree) :
    Spells (0x5B :: (joinCommas (items.map (·.print)) ++ [0x5D])) (.array (items.map (·.tree)))
  | emptyObject {s : Bytes} (h : Blank s) : Spells (0x7B :: (s ++ [0x7D])) (.object [])
  | object {members : List (SpacedKey × SpacedItem)} (hne : members ≠ [])
    (hkeys : ∀ m ∈ members, m.1.Spelled) (hspaced : ∀ m ∈ members, m.2.Spaced)
    (hvalues : ∀ m ∈ members, Spells m.2.bytes m.2.tree) :
    Spells (0x7B :: (joinCommas (members.map fun m => m.1.print ++ 0x3A :: m.2.print) ++ [0x7D]))
      (.object (members.map fun m => (m.1.key, m.2.tree)))

/-- A key is read, and the white space around it is not. -/
theorem SpacedKey.Spelled.tokens? {k : SpacedKey} (h : k.Spelled) (rest : Bytes) :
    tokens? (k.print ++ rest) = (tokens? rest).map (.string k.key :: ·) := by
  have hbytes : k.print ++ rest =
      k.before ++ (quoteMark :: (k.inner ++ [quoteMark]) ++ (k.after ++ rest)) := by
    simp [SpacedKey.print]
  rw [hbytes, h.before.tokens?, tokens?_string h.key, h.after.tokens?]

theorem SpacedItem.Spaced.writes {i : SpacedItem} (h : i.Spaced) (hwrites : Writes i.bytes i.tree) :
    Writes i.print i.tree := hwrites.padded h.before h.after

/-- **What the grammar admits is written.** -/
theorem Spells.writes {s : Bytes} {t : Tree} (h : Spells s t) : Writes s t := by
  induction h with
  | null => exact writes_null
  | true => exact writes_true
  | false => exact writes_false
  | number h => exact writes_number h
  | string h => exact writes_units h
  | emptyArray h => exact writes_emptyArray h
  | @array items _ hspaced _ ih =>
    have hwritten := @writes_array (items.map fun i => (i.print, i.tree)) fun p hp => by
      obtain ⟨i, hi, rfl⟩ := List.mem_map.1 hp
      exact (hspaced i hi).writes (ih i hi)
    rwa [List.map_map, List.map_map] at hwritten
  | emptyObject h => exact writes_emptyObject h
  | @object members _ hkeys hspaced _ ih =>
    have hwritten := @writes_entries
      (members.map fun m => ⟨m.1.print, m.1.key, m.2.print, m.2.tree⟩) fun e he => by
        obtain ⟨m, hm, rfl⟩ := List.mem_map.1 he
        exact ⟨(hkeys m hm).tokens?, (hspaced m hm).writes (ih m hm)⟩
    rwa [List.map_map, List.map_map] at hwritten

/-- Whether bytes are a text that writes a tree: with white space around it. -/
def SpellsText (s : Bytes) (t : Tree) : Prop :=
  ∃ before bytes after, Blank before ∧ Blank after ∧ Spells bytes t ∧ s = before ++ bytes ++ after

/-- **Every text that the grammar admits is parsed** as the tree that it writes. -/
theorem SpellsText.parse? {s : Bytes} {t : Tree} (h : SpellsText s t) :
    Json.parse? s = some t := by
  obtain ⟨before, bytes, after, hbefore, hafter, hspells, rfl⟩ := h
  exact (hspells.writes.padded hbefore hafter).parse?

/-! ## What is printed -/

/-- A printed string is a way to write its units. -/
theorem spells_string (s : String) : Spells (printString s) (.string (quoted s)) :=
  .string (spellsUnits_quoted s)

/-- **A printed whole number is written as its digits.** -/
theorem spells_whole (n : Int) : Spells (printWhole n) (.number (wholeText n)) :=
  .number (spellsNumber_printWhole n)

/-- A printed array of what is spelled is spelled. -/
theorem spells_array {items : List (Bytes × Tree)} (hitems : ∀ i ∈ items, Spells i.1 i.2) :
    Spells (printArray (items.map (·.1))) (.array (items.map (·.2))) := by
  cases items with
  | nil => exact .emptyArray blank_nil
  | cons item items =>
    have h := @Spells.array ((item :: items).map fun i => ⟨[], i.1, [], i.2⟩) (by simp)
      (fun i hi => by
        obtain ⟨_, -, rfl⟩ := List.mem_map.1 hi
        exact ⟨blank_nil, blank_nil⟩)
      (fun i hi => by
        obtain ⟨p, hp, rfl⟩ := List.mem_map.1 hi
        exact hitems p hp)
    rw [List.map_map, List.map_map] at h
    simpa [printArray, SpacedItem.print, Function.comp_def] using h

/-- A key with a value that is spelled for it. -/
structure Member where
  key : String
  bytes : Bytes
  tree : Tree

/-- A printed object of what is spelled is spelled. -/
theorem spells_object {members : List Member} (hmembers : ∀ m ∈ members, Spells m.bytes m.tree) :
    Spells (printObject (members.map fun m => (m.key, m.bytes)))
      (.object (members.map fun m => (quoted m.key, m.tree))) := by
  cases members with
  | nil => exact .emptyObject blank_nil
  | cons member members =>
    have h := @Spells.object ((member :: members).map fun m =>
        (⟨[], (Utf8.encode m.key).flatMap escapeByte, [], quoted m.key⟩, ⟨[], m.bytes, [], m.tree⟩))
      (by simp)
      (fun i hi => by
        obtain ⟨m, -, rfl⟩ := List.mem_map.1 hi
        exact ⟨blank_nil, spellsUnits_quoted m.key, blank_nil⟩)
      (fun i hi => by
        obtain ⟨_, -, rfl⟩ := List.mem_map.1 hi
        exact ⟨blank_nil, blank_nil⟩)
      (fun i hi => by
        obtain ⟨m, hm, rfl⟩ := List.mem_map.1 hi
        exact hmembers m hm)
    rw [List.map_map, List.map_map] at h
    simpa [printObject, printMember, printString, SpacedKey.print, SpacedItem.print,
      Function.comp_def] using h

end FormatBridge.Json
