set_option autoImplicit false

/-! # TOML values

What a TOML document gives to its keys. Numbers and moments of time are kept as they are written:
that they are well-formed is checked when they are read, and nothing here computes with them. -/

namespace FormatBridge.Toml

/-- A value. The members of a table have each key once, in the order of their first mention. -/
inductive Value where
  | string (s : String)
  | boolean (b : Bool)
  /-- A number, as it is written. -/
  | number (text : List Char)
  /-- A date, a time or both, as it is written. -/
  | moment (text : List Char)
  | array (items : List Value)
  | table (members : List (String × Value))
  deriving Repr, Inhabited

end FormatBridge.Toml
