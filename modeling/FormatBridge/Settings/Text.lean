import FormatBridge.Settings.Source
import FormatBridge.Toml.Document

set_option autoImplicit false

/-! # Settings as they are written

Settings are written in TOML, one table for each group of settings. -/

namespace FormatBridge

namespace Source

mutual

/-- A TOML value as structured data. -/
def ofToml : Toml.Value → Source
  | .string s => .text s
  | .array items => .list (ofTomlItems items)
  | .table members => .table (ofTomlMembers members)
  | .boolean _ | .number _ | .moment _ => .other

/-- The items of an array as structured data. -/
def ofTomlItems : List Toml.Value → List Source
  | [] => []
  | v :: rest => ofToml v :: ofTomlItems rest

/-- The members of a table as structured data. -/
def ofTomlMembers : List (String × Toml.Value) → List (String × Source)
  | [] => []
  | (k, v) :: rest => (k, ofToml v) :: ofTomlMembers rest

end

end Source

namespace Settings

/-- The settings that a TOML document gives, whether or not they can be used. -/
def ofToml? (text : String) : Option Settings := do
  let members ← Toml.parse? text
  (Source.ofToml (.table members)).settings? .ignored

/-- The settings that a text gives, if they can be used. -/
def parse (text : String) : Except SettingsError Settings :=
  match ofToml? text with
  | none => .error .malformed
  | some s => s.validate

end Settings

end FormatBridge
