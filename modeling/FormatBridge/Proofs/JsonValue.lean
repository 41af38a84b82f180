import FormatBridge.Proofs.JsonGrammar
import FormatBridge.Proofs.Lookup
import Mathlib.Data.String.Basic

set_option autoImplicit false

/-! # Printed values are read back

A value `Fits` when its numbers are whole ones of 64 bits, its containers have room, and the keys of
its objects are in order. What is printed for such a value writes a tree with that value
(`exists_tree`).
Objects that are made of any members are in order (`fits_ofMembers`), and looking a key up in them
gives the last member with that key (`get?_ofMembers`). -/

namespace FormatBridge.Json

/-! ## Sorted members -/

theorem mem_insertMember {key : String} {v : Value} {members : List (String × Value)}
    {p : String × Value} (hp : p ∈ insertMember key v members) : p = (key, v) ∨ p ∈ members := by
  induction members with
  | nil => simpa [insertMember] using hp
  | cons m members ih =>
    obtain ⟨k, w⟩ := m
    rw [insertMember] at hp
    split at hp
    · simpa using hp
    split at hp
    · rcases List.mem_cons.1 hp with rfl | hp
      · exact .inl rfl
      · exact .inr (List.mem_cons_of_mem _ hp)
    · rcases List.mem_cons.1 hp with rfl | hp
      · exact .inr (List.mem_cons_self ..)
      · rcases ih hp with rfl | hp
        · exact .inl rfl
        · exact .inr (List.mem_cons_of_mem _ hp)

/-- Whether members are in the order of their keys, each key once. -/
def Sorted (members : List (String × Value)) : Prop := members.Pairwise (·.1 < ·.1)

theorem sorted_insertMember {members : List (String × Value)} (h : Sorted members) (key : String)
    (v : Value) : Sorted (insertMember key v members) := by
  induction members with
  | nil => simp [insertMember, Sorted]
  | cons m members ih =>
    obtain ⟨k, w⟩ := m
    obtain ⟨hfirst, hrest⟩ := List.pairwise_cons.1 h
    rw [insertMember]
    split
    · rename_i hlt
      refine List.pairwise_cons.2 ⟨?_, h⟩
      intro p hp
      rcases List.mem_cons.1 hp with rfl | hp
      · exact hlt
      · exact lt_trans hlt (hfirst p hp)
    split
    · rename_i heq
      subst heq
      exact List.pairwise_cons.2 ⟨hfirst, hrest⟩
    · rename_i hlt hne
      refine List.pairwise_cons.2 ⟨?_, ih hrest⟩
      intro p hp
      rcases mem_insertMember hp with rfl | hp
      · exact lt_of_le_of_ne (not_lt.1 hlt) (Ne.symm hne)
      · exact hfirst p hp

theorem insertMember_last {members : List (String × Value)} {key : String} {v : Value}
    (h : ∀ p ∈ members, p.1 < key) : insertMember key v members = members ++ [(key, v)] := by
  induction members with
  | nil => rfl
  | cons m members ih =>
    obtain ⟨k, w⟩ := m
    have hlt : k < key := h (k, w) (List.mem_cons_self ..)
    rw [insertMember, if_neg (not_lt.2 (le_of_lt hlt)), if_neg (ne_of_gt hlt),
      ih fun p hp => h p (List.mem_cons_of_mem _ hp)]
    rfl

/-- Sets each of `members` in turn among sorted ones. -/
def insertMembers (sorted members : List (String × Value)) : List (String × Value) :=
  members.foldl (fun sorted m => insertMember m.1 m.2 sorted) sorted

theorem sortMembers_eq (members : List (String × Value)) :
    sortMembers members = insertMembers [] members := rfl

theorem insertMembers_cons (sorted : List (String × Value)) (m : String × Value)
    (members : List (String × Value)) :
    insertMembers sorted (m :: members) = insertMembers (insertMember m.1 m.2 sorted) members := rfl

theorem sorted_insertMembers {sorted : List (String × Value)} (h : Sorted sorted)
    (members : List (String × Value)) : Sorted (insertMembers sorted members) := by
  induction members generalizing sorted with
  | nil => exact h
  | cons m members ih => exact ih (sorted_insertMember h m.1 m.2)

theorem mem_insertMembers {sorted members : List (String × Value)} {p : String × Value}
    (hp : p ∈ insertMembers sorted members) : p ∈ sorted ∨ p ∈ members := by
  induction members generalizing sorted with
  | nil => exact .inl hp
  | cons m members ih =>
    rcases ih hp with hp | hp
    · rcases mem_insertMember hp with rfl | hp
      · exact .inr (List.mem_cons_self ..)
      · exact .inl hp
    · exact .inr (List.mem_cons_of_mem _ hp)

/-- Members in order are set behind those in front of them. -/
theorem insertMembers_of_sorted {sorted members : List (String × Value)}
    (h : Sorted (sorted ++ members)) : insertMembers sorted members = sorted ++ members := by
  induction members generalizing sorted with
  | nil => exact (List.append_nil sorted).symm
  | cons m members ih =>
    have hlast : ∀ p ∈ sorted, p.1 < m.1 := fun p hp =>
      (List.pairwise_append.1 h).2.2 p hp m (List.mem_cons_self ..)
    have hsplit : sorted ++ m :: members = (sorted ++ [m]) ++ members := by simp
    rw [insertMembers_cons, insertMember_last hlast, hsplit]
    exact ih (hsplit ▸ h)

theorem lookup_insertMember (members : List (String × Value)) (k key : String) (v : Value) :
    (insertMember k v members).lookup key =
      if key = k then some v else members.lookup key := by
  induction members with
  | nil => exact lookup_cons_eq [] k key v
  | cons m members ih =>
    obtain ⟨k', w⟩ := m
    rw [insertMember]
    split
    · exact lookup_cons_eq _ k key v
    split
    · rename_i heq
      subst heq
      rw [lookup_cons_eq, lookup_cons_eq]
      by_cases h : key = k
      · rw [if_pos h, if_pos h]
      · rw [if_neg h, if_neg h, if_neg h]
    · rename_i hne
      rw [lookup_cons_eq, lookup_cons_eq, ih]
      -- `k'` stays in front, and it is not the key that is set
      by_cases h' : key = k'
      · have hk : key ≠ k := fun hk => hne (hk.symm.trans h')
        rw [if_pos h', if_neg hk, if_pos h']
      · rw [if_neg h', if_neg h']

theorem lookup_insertMembers (sorted members : List (String × Value)) (key : String) :
    (insertMembers sorted members).lookup key =
      (members.reverse.lookup key).or (sorted.lookup key) := by
  induction members generalizing sorted with
  | nil => rfl
  | cons m members ih =>
    obtain ⟨k, v⟩ := m
    rw [insertMembers_cons, ih, lookup_insertMember, List.reverse_cons, List.lookup_append,
      lookup_cons_eq, Option.or_assoc]
    by_cases h : key = k
    · rw [if_pos h, if_pos h, Option.some_or]
    · rw [if_neg h, if_neg h, List.lookup_nil, Option.none_or]

/-- **Looking a key up gives the last member with it.** -/
theorem get?_ofMembers (members : List (String × Value)) (key : String) :
    (Value.ofMembers members).get? key = members.reverse.lookup key := by
  have h := lookup_insertMembers [] members key
  rw [List.lookup_nil, Option.or_none] at h
  exact h

/-! ## Values that are read back -/

/-- Whether a value is read back where containers may stand `room` deep. -/
inductive Value.Fits : Nat → Value → Prop
  | null {room : Nat} : Fits room .null
  | bool {room : Nat} (b : Bool) : Fits room (.bool b)
  | whole {room : Nat} {n : Int} (hmin : minWhole ≤ n) (hmax : n ≤ maxWhole) :
    Fits room (.number (.whole n))
  | string {room : Nat} (s : String) : Fits room (.string s)
  | array {room : Nat} {items : List Value} (hitems : ∀ v ∈ items, Fits room v) :
    Fits (room + 1) (.array items)
  | object {room : Nat} {members : List (String × Value)} (hsorted : Sorted members)
    (hmembers : ∀ m ∈ members, Fits room m.2) : Fits (room + 1) (.object members)

theorem fits_ofMembers {room : Nat} {members : List (String × Value)}
    (h : ∀ m ∈ members, m.2.Fits room) : (Value.ofMembers members).Fits (room + 1) :=
  .object (sorted_insertMembers List.Pairwise.nil members) fun _ hm =>
    h _ ((mem_insertMembers hm).resolve_left List.not_mem_nil)

theorem exists_items {room : Nat} {items : List Value}
    (h : ∀ v ∈ items, ∃ t, Spells v.print t ∧ t.valueWithin? room = some v) :
    ∃ written : List (Bytes × Tree), written.map (·.1) = printItems items ∧
      (∀ i ∈ written, Spells i.1 i.2) ∧ itemsWithin? room (written.map (·.2)) = some items := by
  induction items with
  | nil => exact ⟨[], rfl, by simp, rfl⟩
  | cons v items ih =>
    obtain ⟨t, hspells, hvalue⟩ := h v (List.mem_cons_self ..)
    obtain ⟨written, hbytes, hall, hvalues⟩ := ih fun w hw => h w (List.mem_cons_of_mem _ hw)
    refine ⟨(v.print, t) :: written, by rw [List.map_cons, hbytes]; rfl, ?_, ?_⟩
    · intro i hi
      rcases List.mem_cons.1 hi with rfl | hi
      · exact hspells
      · exact hall i hi
    · simp [itemsWithin?, hvalue, hvalues]

theorem exists_members {room : Nat} {members : List (String × Value)}
    (h : ∀ m ∈ members, ∃ t, Spells m.2.print t ∧ t.valueWithin? room = some m.2) :
    ∃ written : List Member, written.map (fun m => (m.key, m.bytes)) = printMembers members ∧
      (∀ m ∈ written, Spells m.bytes m.tree) ∧
      membersWithin? room (written.map fun m => (quoted m.key, m.tree)) = some members := by
  induction members with
  | nil => exact ⟨[], rfl, by simp, rfl⟩
  | cons m members ih =>
    obtain ⟨t, hspells, hvalue⟩ := h m (List.mem_cons_self ..)
    obtain ⟨written, hbytes, hall, hvalues⟩ := ih fun w hw => h w (List.mem_cons_of_mem _ hw)
    refine ⟨⟨m.1, m.2.print, t⟩ :: written, by rw [List.map_cons, hbytes]; rfl, ?_, ?_⟩
    · intro i hi
      rcases List.mem_cons.1 hi with rfl | hi
      · exact hspells
      · exact hall i hi
    · simp [membersWithin?, hvalue, hvalues]

/-- **What is printed for a value that fits writes a tree with that value.** -/
theorem exists_tree {room : Nat} {v : Value} (h : v.Fits room) :
    ∃ t, Spells v.print t ∧ t.valueWithin? room = some v := by
  induction h with
  | null => exact ⟨.null, Spells.null, rfl⟩
  | bool b =>
    refine ⟨.bool b, ?_, rfl⟩
    cases b with
    | true => exact Spells.true
    | false => exact Spells.false
  | @whole room n hmin hmax =>
    refine ⟨.number (wholeText n), spells_whole n, ?_⟩
    simp [Tree.valueWithin?, number?_wholeText hmin hmax]
  | string s =>
    refine ⟨.string (quoted s), spells_string s, ?_⟩
    simp [Tree.valueWithin?]
  | array hitems ih =>
    obtain ⟨written, hbytes, hall, hvalues⟩ := exists_items ih
    refine ⟨.array (written.map (·.2)), ?_, ?_⟩
    · rw [Value.print, ← hbytes]
      exact spells_array hall
    · simp [Tree.valueWithin?, hvalues]
  | object hsorted hmembers ih =>
    obtain ⟨written, hbytes, hall, hvalues⟩ := exists_members ih
    refine ⟨.object (written.map fun m => (quoted m.key, m.tree)), ?_, ?_⟩
    · rw [Value.print, ← hbytes]
      exact spells_object hall
    · simp [Tree.valueWithin?, hvalues, Value.ofMembers, sortMembers_eq,
        @insertMembers_of_sorted [] _ hsorted]

end FormatBridge.Json
