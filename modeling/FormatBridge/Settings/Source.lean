import FormatBridge.Settings

set_option autoImplicit false

/-! # Settings from structured data

Settings are given as a table of named values. Whatever format they come from, only a few shapes
matter: texts, lists, tables, and everything else. A table may leave any setting out, which then
has its default, and may name no setting that does not exist. Instead of a table, a list may give
the values in their order. -/

namespace FormatBridge

/-- Structured data as far as settings look into it. -/
inductive Source where
  | text (s : String)
  | list (items : List Source)
  /-- Values by key, each key once. -/
  | table (members : List (String × Source))
  /-- An explicit absence. -/
  | null
  | other
  deriving Repr

namespace Source

/-- What to do with a list that has more values than there are settings. -/
inductive Surplus where
  /-- The values beyond the last setting are not looked at. -/
  | ignored
  | refused
  deriving DecidableEq, Repr

/-! ## Shapes -/

/-- What is given for each of the settings `names`. -/
def fields? (surplus : Surplus) (names : List String) : Source → Option (List (Option Source))
  | .table members =>
    if members.all fun (key, _) => names.contains key then
      some (names.map fun name => members.lookup name)
    else none
  | .list items =>
    if surplus = .refused && names.length < items.length then none
    else some (names.zipIdx.map fun (_, i) => items[i]?)
  | _ => none

/-- A setting that has a default. -/
def orDefault {α : Type} (default : α) (read : Source → Option α) : Option Source → Option α
  | none => some default
  | some source => read source

/-- A text. -/
def text? : Source → Option String
  | .text s => some s
  | _ => none

/-- A text or nothing. -/
def textOrNull? : Source → Option (Option String)
  | .text s => some (some s)
  | .null => some none
  | _ => none

/-- A list of texts. -/
def texts? : Source → Option (List String)
  | .list items => items.mapM text?
  | _ => none

/-! ## Settings -/

/-- Reads the settings of the channel. -/
def channel? (surplus : Surplus) (s : Source) : Option ChannelSettings := do
  match ← s.fields? surplus ["request_kind"] with
  | [kind] => return ⟨← orDefault ChannelSettings.default.requestKind text? kind⟩
  | _ => none

/-- Reads the settings of the action. -/
def action? (surplus : Surplus) (s : Source) : Option ActionSettings := do
  let default := ActionSettings.default
  match ← s.fields? surplus ["prefix", "name", "label", "icon"] with
  | [scope, name, label, icon] =>
    return ⟨← orDefault default.scope text? scope, ← orDefault default.name text? name,
      ← orDefault default.label text? label, ← orDefault default.icon text? icon⟩
  | _ => none

/-- Reads the settings of the backend. -/
def backend? (surplus : Surplus) (s : Source) : Option BackendSettings := do
  let default := BackendSettings.default
  match ← s.fields? surplus ["command", "args"] with
  | [command, args] =>
    return ⟨← orDefault default.command textOrNull? command, ← orDefault default.args texts? args⟩
  | _ => none

/-- Reads all settings. -/
def settings? (surplus : Surplus) (s : Source) : Option Settings := do
  let default := Settings.default
  match ← s.fields? surplus ["channel", "action", "backend"] with
  | [channel, action, backend] =>
    return ⟨← orDefault default.channel (channel? surplus) channel,
      ← orDefault default.action (action? surplus) action,
      ← orDefault default.backend (backend? surplus) backend⟩
  | _ => none

/-! ## JSON -/

open Json in
mutual

/-- A JSON value as structured data. -/
def ofJson : Value → Source
  | .null => .null
  | .string s => .text s
  | .array items => .list (ofItems items)
  | .object members => .table (ofMembers members)
  | .bool _ | .number _ => .other

/-- The items of an array as structured data. -/
def ofItems : List Value → List Source
  | [] => []
  | v :: rest => ofJson v :: ofItems rest

/-- The members of an object as structured data. -/
def ofMembers : List (String × Value) → List (String × Source)
  | [] => []
  | (k, v) :: rest => (k, ofJson v) :: ofMembers rest

end

end Source

/-- The settings in a JSON value. -/
def Settings.ofJson? (v : Json.Value) : Option Settings :=
  (Source.ofJson v).settings? .refused

/-- The action settings in a JSON value. -/
def ActionSettings.ofJson? (v : Json.Value) : Option ActionSettings :=
  (Source.ofJson v).action? .refused

end FormatBridge
