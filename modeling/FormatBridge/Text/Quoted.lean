import FormatBridge.Text.Shown

set_option autoImplicit false

/-! # Quoting a text so that all of it can be seen

A text is put in quotation marks; the backslash, the quotation mark and every character that does
not show on its own are written as an escape. Log entries show request ids this way, and so do
descriptions of values. -/

namespace FormatBridge.Text

/-- How one character is written between the quotation marks. -/
def showChar (c : Char) : List Char :=
  if c = '\x00' then ['\\', '0']
  else if c = '\t' then ['\\', 't']
  else if c = '\r' then ['\\', 'r']
  else if c = '\n' then ['\\', 'n']
  else if c = '"' then ['\\', '"']
  else if c = '\\' then ['\\', '\\']
  else if isShown c then [c]
  else ['\\', 'u', '\x7b'] ++ Nat.toDigits 16 c.toNat ++ ['\x7d']

/-- A text in quotation marks. -/
def quoted (s : String) : String :=
  String.ofList ('"' :: s.toList.flatMap showChar ++ ['"'])

/-- A list of texts, each in quotation marks. -/
def quotedList (items : List String) : String :=
  "[" ++ String.intercalate ", " (items.map quoted) ++ "]"

/-- A text that may be missing. -/
def quotedOption : Option String → String
  | none => "None"
  | some s => "Some(" ++ quoted s ++ ")"

end FormatBridge.Text
