import FormatBridge.Json.Value

set_option autoImplicit false

/-! # Records written as JSON

A record has named fields in a fixed order. It is written as an object, where fields may come in
any order and other members are skipped, or as an array of its fields in order, where fields may
be missing at the end. `Tree.fields?` brings both forms to one: a list with what was written for
each field, or nothing. What is skipped is not looked into, so its strings and numbers need not
have a meaning; keys are always read, because a key decides whether its member is skipped.

The readers `required`, `orDefault` and `optionalText` then say what each field has to be. -/

namespace FormatBridge.Json

/-- The members with their keys read. -/
def readKeys? : List (Quoted × Tree) → Option (List (String × Tree))
  | [] => some []
  | (k, t) :: rest => do
    let key ← Quoted.text? k
    let rest ← readKeys? rest
    return (key, t) :: rest

/-- What the members give for the field `name`: nothing or one tree; fails when it is given
    twice. -/
def pickField? (members : List (String × Tree)) (name : String) : Option (Option Tree) :=
  match members.filter (·.1 = name) with
  | [] => some none
  | [(_, t)] => some (some t)
  | _ => none

/-- What a tree gives for each field of a record with these field names. -/
def Tree.fields? (names : List String) : Tree → Option (List (Option Tree))
  | .object members => (readKeys? members).bind fun members => names.mapM (pickField? members)
  | .array items =>
    if items.length ≤ names.length then
      some (items.map some ++ List.replicate (names.length - items.length) none)
    else none
  | _ => none

/-- A field that has to be given. -/
def required {α : Type} (read : Tree → Option α) (field : Option Tree) : Option α :=
  field.bind read

/-- A field that has the value `default` when it is not given. -/
def orDefault {α : Type} (default : α) (read : Tree → Option α) : Option Tree → Option α
  | none => some default
  | some t => read t

/-- The text of a string. -/
def Tree.text? : Tree → Option String
  | .string s => Quoted.text? s
  | _ => none

/-- The text of a string, or none for null. -/
def Tree.textOrNull? : Tree → Option (Option String)
  | .null => some none
  | t => t.text?.map some

/-- A text that may be missing or null. -/
def optionalText (field : Option Tree) : Option (Option String) :=
  orDefault none Tree.textOrNull? field

end FormatBridge.Json
