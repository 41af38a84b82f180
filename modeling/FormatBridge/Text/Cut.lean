set_option autoImplicit false

/-! # Cutting a text at a character

`Text.cut` gives the pieces between the places where a character stands. -/

namespace FormatBridge.Text

/-- The pieces of `cs` between the characters `sep`; `piece` holds what was read of the piece that
    is going on (last first). -/
def cutFrom (sep : Char) (piece : List Char) : List Char → List String
  | [] => [String.ofList piece.reverse]
  | c :: rest =>
    if c = sep then String.ofList piece.reverse :: cutFrom sep [] rest
    else cutFrom sep (c :: piece) rest

/-- The pieces of a text between the characters `sep`. -/
def cut (sep : Char) (s : String) : List String := cutFrom sep [] s.toList

/-- The lines of a text without the characters that end them: a line feed, in front of which a
    carriage return may stand. The last line counts as ended too. -/
def lines (s : String) : List String :=
  (cut '\n' s).map fun line =>
    match line.toList.getLast? with
    | some '\r' => String.ofList line.toList.dropLast
    | _ => line

/-- Whether a text holds a NUL, which would cut it where texts end with one. -/
def hasNul (s : String) : Bool := s.toList.contains '\x00'

end FormatBridge.Text
