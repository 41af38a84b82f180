import FormatBridge.Proofs.JsonText

set_option autoImplicit false

/-! # Written JSON is parsed back

`Writes s t` says that the bytes `s` are read as the tree `t` wherever a value may stand, up to where
they end and whatever the containers around them. It holds of strings and literals, white space
around what is written changes nothing (`Writes.padded`), and an array or an object of what is
written is written itself (`writes_array`, `writes_entries`). -/

namespace FormatBridge.Json

/-! ## Tokens -/

/-- Whether a value may end in front of these bytes. -/
def Ends (rest : Bytes) : Prop :=
  ∀ b ∈ rest.head?, isSpace b = true ∨ b = 0x2C ∨ b = 0x5D ∨ b = 0x7D

theorem ends_nil : Ends [] := by simp [Ends]

theorem ends_comma (rest : Bytes) : Ends (0x2C :: rest) := by simp [Ends]

theorem ends_closeArray (rest : Bytes) : Ends (0x5D :: rest) := by simp [Ends]

theorem ends_closeObject (rest : Bytes) : Ends (0x7D :: rest) := by simp [Ends]

theorem tokens?_cons {a : UInt8} {s rest : Bytes} {t : Token} (hspace : isSpace a = false)
    (hread : readToken? a s = some (t, rest)) : tokens? (a :: s) = (tokens? rest).map (t :: ·) := by
  rw [tokens?]
  simp only [hspace, Bool.false_eq_true, if_false]
  split
  · rename_i t' rest' hread'
    rw [hread] at hread'
    obtain ⟨rfl, rfl⟩ := Prod.mk.inj (Option.some.inj hread')
    rfl
  · rename_i hnone
    rw [hread] at hnone
    contradiction

theorem tokens?_comma (rest : Bytes) :
    tokens? (0x2C :: rest) = (tokens? rest).map (.comma :: ·) :=
  tokens?_cons (by decide) rfl

theorem tokens?_colon (rest : Bytes) :
    tokens? (0x3A :: rest) = (tokens? rest).map (.colon :: ·) :=
  tokens?_cons (by decide) rfl

theorem tokens?_openArray (rest : Bytes) :
    tokens? (0x5B :: rest) = (tokens? rest).map (.openArray :: ·) :=
  tokens?_cons (by decide) rfl

theorem tokens?_closeArray (rest : Bytes) :
    tokens? (0x5D :: rest) = (tokens? rest).map (.closeArray :: ·) :=
  tokens?_cons (by decide) rfl

theorem tokens?_openObject (rest : Bytes) :
    tokens? (0x7B :: rest) = (tokens? rest).map (.openObject :: ·) :=
  tokens?_cons (by decide) rfl

theorem tokens?_closeObject (rest : Bytes) :
    tokens? (0x7D :: rest) = (tokens? rest).map (.closeObject :: ·) :=
  tokens?_cons (by decide) rfl

theorem tokens?_string {s : Bytes} {q : Quoted} (h : SpellsUnits s q) (rest : Bytes) :
    tokens? (quoteMark :: (s ++ [quoteMark]) ++ rest) = (tokens? rest).map (.string q :: ·) := by
  have hbytes : quoteMark :: (s ++ [quoteMark]) ++ rest =
      quoteMark :: (s ++ quoteMark :: rest) := by simp
  rw [hbytes]
  exact tokens?_cons (by decide) (h.readToken? rest)

/-! ### White space -/

/-- White space. -/
def Blank (s : Bytes) : Prop := ∀ b ∈ s, isSpace b = true

instance (s : Bytes) : Decidable (Blank s) :=
  decidable_of_iff (s.all isSpace = true) List.all_eq_true

theorem blank_nil : Blank [] := by decide

/-- White space gives no tokens. -/
theorem Blank.tokens? {s : Bytes} (h : Blank s) (rest : Bytes) :
    tokens? (s ++ rest) = tokens? rest := by
  induction s with
  | nil => rfl
  | cons b s ih =>
    obtain ⟨hb, hs⟩ := List.forall_mem_cons.1 h
    rw [List.cons_append, Json.tokens?]
    simp only [hb, if_true]
    exact ih hs

theorem Ends.behind_blank {s rest : Bytes} (hs : Blank s) (hrest : Ends rest) :
    Ends (s ++ rest) := by
  cases s with
  | nil => exact hrest
  | cons b s =>
    intro a ha
    obtain rfl : b = a := by simpa using ha
    exact .inl (hs b (List.mem_cons_self ..))

/-! ## What is written -/

/-- Whether bytes are read as a tree wherever a value may stand: they give a token that starts a
    value, and tokens behind which that value is finished. -/
def Writes (s : Bytes) (t : Tree) : Prop :=
  ∃ first tokens next, startValue? first = some next ∧
    (∀ rest, Ends rest → tokens? (s ++ rest) = (tokens? rest).map (first :: tokens ++ ·)) ∧
    ∀ stack more, parseTokens? stack next (tokens ++ more) = parseTokens? stack (.after t) more

/-- **What is written is parsed back**, also with white space behind it. -/
theorem Writes.parse?_append {s rest : Bytes} {t : Tree} (h : Writes s t) (hends : Ends rest)
    (hblank : tokens? rest = some []) : Json.parse? (s ++ rest) = some t := by
  obtain ⟨first, tokens, next, hstart, htokens, hparse⟩ := h
  rw [Json.parse?, htokens rest hends, hblank]
  simp only [Option.map_some, Option.bind_some, List.cons_append]
  rw [parseTokens?]
  simp only [advance?, hstart, Option.map_some]
  rw [hparse]
  rfl

theorem Writes.parse? {s : Bytes} {t : Tree} (h : Writes s t) : Json.parse? s = some t := by
  have hnil : tokens? [] = some [] := by rw [tokens?]
  simpa using h.parse?_append ends_nil hnil

theorem Writes.of_token {s : Bytes} {t : Tree} {token : Token}
    (hstart : startValue? token = some (.after t))
    (htokens : ∀ rest, Ends rest → tokens? (s ++ rest) = (tokens? rest).map (token :: ·)) :
    Writes s t :=
  ⟨token, [], .after t, hstart, htokens, fun _ _ => rfl⟩

/-- White space around what is written changes nothing. -/
theorem Writes.padded {s before after : Bytes} {t : Tree} (h : Writes s t) (hbefore : Blank before)
    (hafter : Blank after) : Writes (before ++ s ++ after) t := by
  obtain ⟨first, tokens, next, hstart, htokens, hparse⟩ := h
  refine ⟨first, tokens, next, hstart, fun rest hrest => ?_, hparse⟩
  rw [List.append_assoc, List.append_assoc, hbefore.tokens?, htokens _ (hrest.behind_blank hafter),
    hafter.tokens?]

theorem writes_units {s : Bytes} {q : Quoted} (h : SpellsUnits s q) :
    Writes (quoteMark :: (s ++ [quoteMark])) (.string q) :=
  .of_token rfl fun rest _ => tokens?_string h rest

theorem writes_null : Writes [0x6E, 0x75, 0x6C, 0x6C] .null :=
  .of_token rfl fun _ _ => tokens?_cons (by decide) rfl

theorem writes_true : Writes [0x74, 0x72, 0x75, 0x65] (.bool true) :=
  .of_token rfl fun _ _ => tokens?_cons (by decide) rfl

theorem writes_false : Writes [0x66, 0x61, 0x6C, 0x73, 0x65] (.bool false) :=
  .of_token rfl fun _ _ => tokens?_cons (by decide) rfl

/-! ## Containers -/

theorem joinCommas_cons (s : Bytes) (rest : List Bytes) :
    joinCommas (s :: rest) = s ++ rest.flatMap (0x2C :: ·) := by
  induction rest generalizing s with
  | nil => simp [joinCommas]
  | cons r rest ih => rw [joinCommas, ih, List.flatMap_cons, List.cons_append]; simp

theorem parse_value {first : Token} {next : Expect} (hstart : startValue? first = some next)
    (stack : List Frame) (more : List Token) :
    parseTokens? stack .value (first :: more) = parseTokens? stack next more := by
  rw [parseTokens?]
  simp only [advance?, hstart, Option.map_some]

/-- The items of an array behind one of them. -/
theorem items_behind {items : List (Bytes × Tree)} (hitems : ∀ i ∈ items, Writes i.1 i.2) :
    ∃ tokens,
      (∀ rest, Ends rest → tokens? (items.flatMap (0x2C :: ·.1) ++ rest) =
        (tokens? rest).map (tokens ++ ·)) ∧
      ∀ done v stack more,
        parseTokens? (.array done :: stack) (.after v) (tokens ++ .closeArray :: more) =
          parseTokens? stack (.after (.array ((v :: done).reverse ++ items.map (·.2)))) more := by
  induction items with
  | nil =>
    refine ⟨[], fun rest _ => by simp, ?_⟩
    intro done v stack more
    rw [List.nil_append, parseTokens?]
    simp [advance?]
  | cons item items ih =>
    obtain ⟨tokens, htokens, hparse⟩ := ih fun i hi => hitems i (List.mem_cons_of_mem _ hi)
    obtain ⟨first, inner, next, hstart, hinner, hfinish⟩ := hitems item (List.mem_cons_self ..)
    refine ⟨.comma :: first :: inner ++ tokens, ?_, ?_⟩
    · intro rest hrest
      have hends : Ends (items.flatMap (0x2C :: ·.1) ++ rest) := by
        cases items with
        | nil => exact hrest
        | cons _ _ => exact ends_comma _
      rw [List.flatMap_cons, List.append_assoc, List.cons_append, tokens?_comma, hinner _ hends,
        htokens rest hrest]
      simp only [Option.map_map]
      congr 1
      funext more
      simp
    · intro done v stack more
      have hcomma : parseTokens? (.array done :: stack) (.after v)
          (.comma :: first :: inner ++ tokens ++ .closeArray :: more) =
            parseTokens? (.array (v :: done) :: stack) .value
              (first :: (inner ++ (tokens ++ .closeArray :: more))) := by
        simp only [List.cons_append, List.append_assoc]
        rw [parseTokens?]
        rfl
      rw [hcomma, parse_value hstart, hfinish, hparse]
      simp

theorem parse_firstItem {first : Token} {next : Expect} (hstart : startValue? first = some next)
    (stack : List Frame) (more : List Token) :
    parseTokens? stack .firstItem (first :: more) = parseTokens? (.array [] :: stack) next more := by
  have hmove : advance? stack .firstItem first = some (.array [] :: stack, next) := by
    cases first <;> simp_all [advance?, startValue?]
  rw [parseTokens?]
  simp only [hmove]

theorem writes_emptyArray {s : Bytes} (h : Blank s) :
    Writes (0x5B :: (s ++ [0x5D])) (.array []) := by
  refine ⟨.openArray, [.closeArray], .firstItem, rfl, ?_, ?_⟩
  · intro rest _
    have hbytes : 0x5B :: (s ++ [0x5D]) ++ rest = 0x5B :: (s ++ 0x5D :: rest) := by simp
    rw [hbytes, tokens?_openArray, h.tokens?, tokens?_closeArray, Option.map_map]
    rfl
  · intro stack more
    rw [List.cons_append, parseTokens?]
    rfl

/-- **An array of what is written is written.** -/
theorem writes_array {items : List (Bytes × Tree)} (hitems : ∀ i ∈ items, Writes i.1 i.2) :
    Writes (printArray (items.map (·.1))) (.array (items.map (·.2))) := by
  cases items with
  | nil => exact writes_emptyArray blank_nil
  | cons item items =>
    obtain ⟨tokens, htokens, hparse⟩ :=
      items_behind fun i hi => hitems i (List.mem_cons_of_mem item hi)
    obtain ⟨first, inner, next, hstart, hinner, hfinish⟩ := hitems item (List.mem_cons_self ..)
    refine ⟨.openArray, first :: inner ++ (tokens ++ [.closeArray]), .firstItem, rfl, ?_, ?_⟩
    · intro rest _
      have hends : Ends (items.flatMap (0x2C :: ·.1) ++ 0x5D :: rest) := by
        cases items with
        | nil => exact ends_closeArray rest
        | cons _ _ => exact ends_comma _
      have hbytes : printArray ((item :: items).map (·.1)) ++ rest =
          0x5B :: (item.1 ++ (items.flatMap (0x2C :: ·.1) ++ 0x5D :: rest)) := by
        rw [List.map_cons, printArray, joinCommas_cons, List.flatMap_map]
        simp
      rw [hbytes, tokens?_openArray, hinner _ hends, htokens _ (ends_closeArray rest),
        tokens?_closeArray]
      simp only [Option.map_map]
      congr 1
      funext more
      simp
    · intro stack more
      have hshape : first :: inner ++ (tokens ++ [.closeArray]) ++ more =
          first :: (inner ++ (tokens ++ .closeArray :: more)) := by simp
      rw [hshape, parse_firstItem hstart, hfinish, hparse]
      simp

/-! ### Objects -/

/-- A key and a value as they are written, and as what they are read. -/
structure Entry where
  keyBytes : Bytes
  key : Quoted
  bytes : Bytes
  tree : Tree

namespace Entry

/-- The member as it is written. -/
def print (e : Entry) : Bytes := e.keyBytes ++ 0x3A :: e.bytes

/-- The member as it is read. -/
def member (e : Entry) : Quoted × Tree := (e.key, e.tree)

/-- Whether the member is written as what it is read. -/
structure Written (e : Entry) : Prop where
  key : ∀ rest, tokens? (e.keyBytes ++ rest) = (tokens? rest).map (.string e.key :: ·)
  value : Writes e.bytes e.tree

end Entry

/-- The members of an object behind one of them. -/
theorem members_behind {entries : List Entry} (hentries : ∀ e ∈ entries, e.Written) :
    ∃ tokens,
      (∀ rest, Ends rest → tokens? (entries.flatMap (0x2C :: ·.print) ++ rest) =
        (tokens? rest).map (tokens ++ ·)) ∧
      ∀ done k v stack more,
        parseTokens? (.object done k :: stack) (.after v) (tokens ++ .closeObject :: more) =
          parseTokens? stack
            (.after (.object (((k, v) :: done).reverse ++ entries.map (·.member)))) more := by
  induction entries with
  | nil =>
    refine ⟨[], fun rest _ => by simp, ?_⟩
    intro done k v stack more
    rw [List.nil_append, parseTokens?]
    simp [advance?]
  | cons e entries ih =>
    obtain ⟨tokens, htokens, hparse⟩ := ih fun i hi => hentries i (List.mem_cons_of_mem _ hi)
    obtain ⟨hkey, first, inner, next, hstart, hinner, hfinish⟩ :=
      hentries e (List.mem_cons_self ..)
    refine ⟨.comma :: .string e.key :: .colon :: first :: inner ++ tokens, ?_, ?_⟩
    · intro rest hrest
      have hends : Ends (entries.flatMap (0x2C :: ·.print) ++ rest) := by
        cases entries with
        | nil => exact hrest
        | cons _ _ => exact ends_comma _
      have hbytes : (e :: entries).flatMap (0x2C :: ·.print) ++ rest =
          0x2C :: (e.keyBytes ++ 0x3A :: (e.bytes ++
            (entries.flatMap (0x2C :: ·.print) ++ rest))) := by
        simp [Entry.print]
      rw [hbytes, tokens?_comma, hkey, tokens?_colon, hinner _ hends, htokens rest hrest]
      simp only [Option.map_map]
      congr 1
      funext more
      simp
    · intro done k v stack more
      have hcomma : parseTokens? (.object done k :: stack) (.after v)
          (.comma :: .string e.key :: .colon :: first :: inner ++ tokens ++
            .closeObject :: more) =
          parseTokens? (.object ((k, v) :: done) e.key :: stack) .value
            (first :: (inner ++ (tokens ++ .closeObject :: more))) := by
        simp only [List.cons_append, List.append_assoc]
        rw [parseTokens?]
        simp only [advance?]
        rw [parseTokens?]
        simp only [advance?]
        rw [parseTokens?]
        simp only [advance?]
      rw [hcomma, parse_value hstart, hfinish, hparse]
      simp [Entry.member]

theorem writes_emptyObject {s : Bytes} (h : Blank s) :
    Writes (0x7B :: (s ++ [0x7D])) (.object []) := by
  refine ⟨.openObject, [.closeObject], .firstKey, rfl, ?_, ?_⟩
  · intro rest _
    have hbytes : 0x7B :: (s ++ [0x7D]) ++ rest = 0x7B :: (s ++ 0x7D :: rest) := by simp
    rw [hbytes, tokens?_openObject, h.tokens?, tokens?_closeObject, Option.map_map]
    rfl
  · intro stack more
    rw [List.cons_append, parseTokens?]
    rfl

/-- **An object of what is written is written.** -/
theorem writes_entries {entries : List Entry} (hentries : ∀ e ∈ entries, e.Written) :
    Writes (0x7B :: (joinCommas (entries.map (·.print)) ++ [0x7D]))
      (.object (entries.map (·.member))) := by
  cases entries with
  | nil => exact writes_emptyObject blank_nil
  | cons e entries =>
    obtain ⟨tokens, htokens, hparse⟩ :=
      members_behind fun i hi => hentries i (List.mem_cons_of_mem e hi)
    obtain ⟨hkey, first, inner, next, hstart, hinner, hfinish⟩ :=
      hentries e (List.mem_cons_self ..)
    refine ⟨.openObject,
      .string e.key :: .colon :: first :: inner ++ (tokens ++ [.closeObject]), .firstKey,
      rfl, ?_, ?_⟩
    · intro rest _
      have hends : Ends (entries.flatMap (0x2C :: ·.print) ++ 0x7D :: rest) := by
        cases entries with
        | nil => exact ends_closeObject rest
        | cons _ _ => exact ends_comma _
      have hbytes : 0x7B :: (joinCommas ((e :: entries).map (·.print)) ++ [0x7D]) ++ rest =
          0x7B :: (e.keyBytes ++ 0x3A :: (e.bytes ++
            (entries.flatMap (0x2C :: ·.print) ++ 0x7D :: rest))) := by
        rw [List.map_cons, joinCommas_cons, List.flatMap_map]
        simp [Entry.print]
      rw [hbytes, tokens?_openObject, hkey, tokens?_colon, hinner _ hends,
        htokens _ (ends_closeObject rest), tokens?_closeObject]
      simp only [Option.map_map]
      congr 1
      funext more
      simp
    · intro stack more
      have hshape : .string e.key :: .colon :: first :: inner ++ (tokens ++ [.closeObject]) ++ more =
          .string e.key :: .colon :: first ::
            (inner ++ (tokens ++ .closeObject :: more)) := by simp
      have hfirst : parseTokens? stack .firstKey (.string e.key :: .colon :: first ::
            (inner ++ (tokens ++ .closeObject :: more))) =
          parseTokens? (.object [] e.key :: stack) .value
            (first :: (inner ++ (tokens ++ .closeObject :: more))) := by
        rw [parseTokens?]
        simp only [advance?]
        rw [parseTokens?]
        simp only [advance?]
      rw [hshape, hfirst, parse_value hstart, hfinish, hparse]
      simp [Entry.member]

end FormatBridge.Json
