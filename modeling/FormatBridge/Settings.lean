import FormatBridge.Reply
import FormatBridge.Text.Blank

set_option autoImplicit false

/-! # Settings

What can be configured: the kind under which requests are sent, the format action as it is shown to
the user, and the backend's command. Every setting has a default. `Settings.fault?` says whether
settings can be used: it names the first rule that they break. -/

namespace FormatBridge

/-! ## The settings -/

/-- Settings of the request channel. -/
structure ChannelSettings where
  requestKind : String
  deriving DecidableEq, Repr, Inhabited

/-- Settings of the format action. -/
structure ActionSettings where
  /-- The namespace that the action is registered in. -/
  scope : String
  /-- The name of the action in it. -/
  name : String
  /-- How the action is called for the user. -/
  label : String
  icon : String
  deriving DecidableEq, Repr, Inhabited

/-- Settings of the backend. -/
structure BackendSettings where
  command : Option String
  args : List String
  deriving DecidableEq, Repr, Inhabited

/-- All settings. -/
structure Settings where
  channel : ChannelSettings
  action : ActionSettings
  backend : BackendSettings
  deriving DecidableEq, Repr, Inhabited

/-- The channel settings that hold unless others are given. -/
def ChannelSettings.default : ChannelSettings := ⟨defaultRequestKind⟩

/-- The action settings that hold unless others are given. -/
def ActionSettings.default : ActionSettings :=
  ⟨"lgo-kernel", "format-code", "Format Go", "fa-align-left"⟩

/-- Unless one is given there is no backend. -/
def BackendSettings.default : BackendSettings := ⟨none, []⟩

/-- The settings that hold unless others are given. -/
def Settings.default : Settings := ⟨.default, .default, .default⟩

/-- The full name of an action: its namespace, a colon and its name. -/
def actionName (scope name : String) : String := scope ++ ":" ++ name

/-- The full name of the configured action. -/
def ActionSettings.fullName (a : ActionSettings) : String := actionName a.scope a.name

/-! ## Rules -/

/-- A rule that settings break. -/
inductive Fault where
  | requestKindBlank
  | scopeEmpty
  | scopeHasColon
  | nameEmpty
  | commandBlank
  deriving DecidableEq, Repr

namespace Fault

/-- The setting that breaks the rule. -/
def field : Fault → String
  | requestKindBlank => "channel.request_kind"
  | scopeEmpty | scopeHasColon => "action.prefix"
  | nameEmpty => "action.name"
  | commandBlank => "backend.command"

/-- What is wrong with it. -/
def reason : Fault → String
  | scopeHasColon => "must not contain ':'"
  | requestKindBlank | scopeEmpty | nameEmpty | commandBlank => "must not be empty"

end Fault

/-- The first rule that settings break. -/
def Settings.fault? (s : Settings) : Option Fault :=
  if Text.isBlank s.channel.requestKind then some .requestKindBlank
  else if s.action.scope.isEmpty then some .scopeEmpty
  else if s.action.scope.toList.contains ':' then some .scopeHasColon
  else if s.action.name.isEmpty then some .nameEmpty
  else if s.backend.command.any Text.isBlank then some .commandBlank
  else none

/-! ## Errors -/

/-- Why there are no settings. -/
inductive SettingsError where
  /-- The text is not well-formed or has values of the wrong shape. -/
  | malformed
  | unreadable (path error : String)
  /-- A value cannot be used. -/
  | invalid (fault : Fault)
  deriving DecidableEq, Repr

/-- The wording of an error. -/
def SettingsError.message : SettingsError → String
  | .malformed => "TOML parse error"
  | .unreadable path error => "I/O error reading " ++ path ++ ": " ++ error
  | .invalid fault => "invalid value for " ++ fault.field ++ ": " ++ fault.reason

/-- The settings themselves when they break no rule. -/
def Settings.validate (s : Settings) : Except SettingsError Settings :=
  match s.fault? with
  | some fault => .error (.invalid fault)
  | none => .ok s

end FormatBridge
