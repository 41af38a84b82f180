import FormatBridge.Proofs.Lookup
import FormatBridge.Run
import Mathlib.Data.List.Basic

set_option autoImplicit false

/-! # Loaded settings

Settings are checked at several moments: a text's settings when they are parsed, the default ones
never, and those of a run once more after the backend of the command line was put in. Whichever way
they come, settings that are handed out can be used. `Settings.Usable` says what that means,
`Source.Gives` what settings have to do with the text they were read from, and `Loading` lists the
ways. -/

namespace FormatBridge

/-! ## Settings that can be used -/

/-- A text with something in it beside white space. -/
def Text.Visible (s : String) : Prop := ∃ c ∈ s.toList, Text.isBlankChar c = false

theorem Text.isBlank_eq_false_iff (s : String) : Text.isBlank s = false ↔ Text.Visible s := by
  simp [Text.isBlank, Text.Visible]

/-- What every part of settings has to satisfy so that they can be used. -/
structure Settings.Usable (s : Settings) : Prop where
  requestKind : Text.Visible s.channel.requestKind
  scope : s.action.scope ≠ ""
  scope_no_colon : ':' ∉ s.action.scope.toList
  name : s.action.name ≠ ""
  command : ∀ command, s.backend.command = some command → Text.Visible command

/-- Nothing is found when the first thing looked for is not there and nothing else is. -/
theorem ite_some_eq_none {α : Type} {c : Prop} [Decidable c] {a : α} {o : Option α} :
    (if c then some a else o) = none ↔ ¬ c ∧ o = none := by
  by_cases h : c <;> simp [h]

/-- Settings can be used exactly when they break no rule. -/
theorem Settings.fault?_eq_none_iff (s : Settings) : s.fault? = none ↔ s.Usable := by
  have command : (s.backend.command.any Text.isBlank = false) ↔
      ∀ command, s.backend.command = some command → Text.Visible command := by
    cases s.backend.command <;> simp [Text.isBlank_eq_false_iff]
  simp only [Settings.fault?, ite_some_eq_none, and_true, Bool.not_eq_true,
    Text.isBlank_eq_false_iff, command, String.isEmpty_eq_false_iff, List.contains_eq_mem,
    decide_eq_false_iff_not]
  constructor
  · rintro ⟨kind, scope, colon, name, command⟩
    exact ⟨kind, scope, colon, name, command⟩
  · rintro ⟨kind, scope, colon, name, command⟩
    exact ⟨kind, scope, colon, name, command⟩

/-- Checking hands out the settings themselves, and only if they can be used. -/
theorem Settings.validate_eq_ok {s t : Settings} (h : s.validate = .ok t) : t = s ∧ t.Usable := by
  unfold Settings.validate at h
  split at h
  · exact absurd h (by simp)
  · rename_i none
    obtain rfl : s = t := by simpa using h
    exact ⟨rfl, (Settings.fault?_eq_none_iff s).mp none⟩

/-- The default settings, which are never checked, can be used. -/
theorem Settings.usable_default : Settings.default.Usable :=
  (Settings.fault?_eq_none_iff _).mp (by decide)

/-- The scope of a full name is what stands before its first colon. -/
theorem takeWhile_actionName {scope : String} (h : ':' ∉ scope.toList) (name : String) :
    (actionName scope name).toList.takeWhile (· != ':') = scope.toList := by
  have before : ∀ c ∈ scope.toList, (c != ':') = true := by
    intro c hc
    simpa using fun same : c = ':' => h (same ▸ hc)
  simp [actionName, List.takeWhile_append_of_pos before]

/-- A full name has only one scope without a colon, and only one name to it. -/
theorem actionName_injective {scope scope' name name' : String} (h : ':' ∉ scope.toList)
    (h' : ':' ∉ scope'.toList) (same : actionName scope name = actionName scope' name') :
    scope = scope' ∧ name = name' := by
  have scopes : scope = scope' := by
    rw [← String.toList_inj, ← takeWhile_actionName h name, same, takeWhile_actionName h' name']
  subst scopes
  have texts := congrArg String.toList same
  simp only [actionName, String.toList_append, List.append_assoc, List.append_cancel_left_eq]
    at texts
  exact ⟨rfl, String.toList_inj.mp texts⟩

/-! ## What a text gives -/

namespace Source

/-- What a source gives for one of the settings `names`: a table by its name, a list by its place
    among them. -/
def setting? (names : List String) (name : String) : Source → Option Source
  | table members => members.lookup name
  | list items => items[names.idxOf name]?
  | _ => none

/-- What a group that may be left out gives for one of the settings `names`. -/
def given? (names : List String) (group : Option Source) (name : String) : Option Source :=
  group.bind (setting? names name)

/-- A setting has the text that is given for it, or its default when nothing is. -/
def Sets (given : Option Source) (default value : String) : Prop :=
  given = some (text value) ∨ given = none ∧ value = default

/-- Channel settings are those of a group, with the default where it gives none. -/
structure GivesChannel (group : Option Source) (c : ChannelSettings) : Prop where
  requestKind :
    Sets (given? ["request_kind"] group "request_kind") "gofmt_request" c.requestKind

/-- Action settings are those of a group, with the default of each one that it leaves out. -/
structure GivesAction (group : Option Source) (a : ActionSettings) : Prop where
  scope : Sets (given? ["prefix", "name", "label", "icon"] group "prefix") "lgo-kernel" a.scope
  name : Sets (given? ["prefix", "name", "label", "icon"] group "name") "format-code" a.name
  label : Sets (given? ["prefix", "name", "label", "icon"] group "label") "Format Go" a.label
  icon : Sets (given? ["prefix", "name", "label", "icon"] group "icon") "fa-align-left" a.icon

/-- A command is that of a group; without one there is no command. -/
def GivesCommand (group : Option Source) (command : Option String) : Prop :=
  given? ["command", "args"] group "command" = command.map text

/-- Arguments are those of a group; without them there are no arguments. -/
def GivesArgs (group : Option Source) (args : List String) : Prop :=
  given? ["command", "args"] group "args" = some (list (args.map text)) ∨
    given? ["command", "args"] group "args" = none ∧ args = []

/-- What a document gives for a group of settings. -/
def group? (document : Source) (name : String) : Option Source :=
  document.setting? ["channel", "action", "backend"] name

/-- Settings are those of a document. -/
structure Gives (document : Source) (s : Settings) : Prop where
  channel : GivesChannel (document.group? "channel") s.channel
  action : GivesAction (document.group? "action") s.action
  command : GivesCommand (document.group? "backend") s.backend.command
  args : GivesArgs (document.group? "backend") s.backend.args

/-! ### Reading -/

theorem text?_eq_some {s : Source} {value : String} (h : s.text? = some value) :
    s = text value := by
  cases s <;> simp_all [text?]

theorem mapM_text?_eq_some {items : List Source} {values : List String}
    (h : items.mapM text? = some values) : items = values.map text := by
  induction items generalizing values with
  | nil => obtain rfl : [] = values := by simpa using h
           rfl
  | cons item rest ih =>
    simp only [List.mapM_cons, Option.bind_eq_bind, Option.bind_eq_some_iff, Option.pure_def,
      Option.some.injEq] at h
    obtain ⟨value, hvalue, values', hvalues', rfl⟩ := h
    rw [text?_eq_some hvalue, ih hvalues', List.map_cons]

theorem texts?_eq_some {s : Source} {values : List String} (h : s.texts? = some values) :
    s = list (values.map text) := by
  cases s with
  | list items => rw [mapM_text?_eq_some h]
  | _ => exact absurd h (by simp [texts?])

/-- The fields of a source are what it gives for each of them. -/
theorem fields?_eq_some {surplus : Surplus} {names : List String} {s : Source}
    {fields : List (Option Source)} (distinct : names.Nodup)
    (h : s.fields? surplus names = some fields) :
    fields = names.map fun name => s.setting? names name := by
  unfold fields? at h
  split at h
  · split at h
    · exact (Option.some.inj h).symm
    · exact absurd h (by simp)
  · split at h
    · exact absurd h (by simp)
    · rename_i items _
      rw [← Option.some.inj h]
      refine List.ext_getElem (by simp) fun i hi hi' => ?_
      simp [setting?, distinct.idxOf_getElem]
  · exact absurd h (by simp)

/-- What is read for a setting with a default is what the setting is given or its default. -/
theorem orDefault_eq_some {α : Type} {default value : α} {read : Source → Option α}
    {given : Option Source} (h : orDefault default read given = some value) :
    (∃ s, given = some s ∧ read s = some value) ∨ given = none ∧ value = default := by
  cases given with
  | none => exact .inr ⟨rfl, (Option.some.inj h).symm⟩
  | some s => exact .inl ⟨s, rfl, h⟩

theorem sets_of_orDefault {default value : String} {given : Option Source}
    (h : orDefault default text? given = some value) : Sets given default value := by
  obtain ⟨s, rfl, hs⟩ | left := orDefault_eq_some h
  · exact .inl (by rw [text?_eq_some hs])
  · exact .inr left

theorem channel_of_orDefault {surplus : Surplus} {group : Option Source} {c : ChannelSettings}
    (h : orDefault .default (channel? surplus) group = some c) : GivesChannel group c := by
  obtain ⟨s, rfl, hs⟩ | ⟨rfl, rfl⟩ := orDefault_eq_some h
  · simp only [channel?, Option.bind_eq_bind, Option.bind_eq_some_iff] at hs
    obtain ⟨fields, hfields, hs⟩ := hs
    obtain rfl := fields?_eq_some (by decide) hfields
    simp only [List.map_cons, List.map_nil, Option.bind_eq_some_iff, Option.pure_def,
      Option.some.injEq] at hs
    obtain ⟨kind, hkind, rfl⟩ := hs
    exact ⟨sets_of_orDefault hkind⟩
  · exact ⟨.inr ⟨rfl, rfl⟩⟩

theorem action_of_orDefault {surplus : Surplus} {group : Option Source} {a : ActionSettings}
    (h : orDefault .default (action? surplus) group = some a) : GivesAction group a := by
  obtain ⟨s, rfl, hs⟩ | ⟨rfl, rfl⟩ := orDefault_eq_some h
  · simp only [action?, Option.bind_eq_bind, Option.bind_eq_some_iff] at hs
    obtain ⟨fields, hfields, hs⟩ := hs
    obtain rfl := fields?_eq_some (by decide) hfields
    simp only [List.map_cons, List.map_nil, Option.bind_eq_some_iff, Option.pure_def,
      Option.some.injEq] at hs
    obtain ⟨scope, hscope, name, hname, label, hlabel, icon, hicon, rfl⟩ := hs
    exact ⟨sets_of_orDefault hscope, sets_of_orDefault hname, sets_of_orDefault hlabel,
      sets_of_orDefault hicon⟩
  · exact ⟨.inr ⟨rfl, rfl⟩, .inr ⟨rfl, rfl⟩, .inr ⟨rfl, rfl⟩, .inr ⟨rfl, rfl⟩⟩

/-! ### Documents -/

theorem lookup_ofTomlMembers (members : List (String × Toml.Value)) (name : String) :
    (ofTomlMembers members).lookup name = (members.lookup name).map ofToml := by
  induction members with
  | nil => rfl
  | cons member rest ih =>
    obtain ⟨key, v⟩ := member
    rw [ofTomlMembers, lookup_cons_eq, lookup_cons_eq, ih, apply_ite (Option.map ofToml)]
    rfl

theorem getElem?_ofTomlItems (items : List Toml.Value) (i : Nat) :
    (ofTomlItems items)[i]? = items[i]?.map ofToml := by
  induction items generalizing i with
  | nil => rfl
  | cons v rest ih => cases i <;> simp [ofTomlItems, ih]

/-- What a TOML value gives is a TOML value. -/
theorem setting?_ofToml {names : List String} {name : String} {v : Toml.Value} {s : Source}
    (h : (ofToml v).setting? names name = some s) : ∃ w, s = ofToml w := by
  cases v with
  | table members =>
    rw [ofToml, setting?, lookup_ofTomlMembers, Option.map_eq_some_iff] at h
    obtain ⟨w, -, rfl⟩ := h
    exact ⟨w, rfl⟩
  | array items =>
    rw [ofToml, setting?, getElem?_ofTomlItems, Option.map_eq_some_iff] at h
    obtain ⟨w, -, rfl⟩ := h
    exact ⟨w, rfl⟩
  | _ => exact absurd h (by simp [ofToml, setting?])

/-- TOML has no way to write an explicit absence. -/
theorem ofToml_ne_null (v : Toml.Value) : ofToml v ≠ null := by cases v <;> simp [ofToml]

theorem command_of_orDefault {given : Option Source} {command : Option String}
    (written : ∀ s, given = some s → s ≠ null)
    (h : orDefault none textOrNull? given = some command) : given = command.map text := by
  obtain ⟨s, rfl, hs⟩ | ⟨rfl, rfl⟩ := orDefault_eq_some h
  · cases s with
    | text c => obtain rfl : some c = command := by simpa [textOrNull?] using hs
                rfl
    | null => exact absurd rfl (written _ rfl)
    | _ => exact absurd hs (by simp [textOrNull?])
  · rfl

theorem backend_of_orDefault {surplus : Surplus} {group : Option Source} {b : BackendSettings}
    (written : ∀ s, group = some s → ∃ v, s = ofToml v)
    (h : orDefault .default (backend? surplus) group = some b) :
    GivesCommand group b.command ∧ GivesArgs group b.args := by
  obtain ⟨s, rfl, hs⟩ | ⟨rfl, rfl⟩ := orDefault_eq_some h
  · obtain ⟨v, rfl⟩ := written s rfl
    simp only [backend?, Option.bind_eq_bind, Option.bind_eq_some_iff] at hs
    obtain ⟨fields, hfields, hs⟩ := hs
    obtain rfl := fields?_eq_some (by decide) hfields
    simp only [List.map_cons, List.map_nil, Option.bind_eq_some_iff, Option.pure_def,
      Option.some.injEq] at hs
    obtain ⟨command, hcommand, args, hargs, rfl⟩ := hs
    refine ⟨command_of_orDefault ?_ hcommand, ?_⟩
    · intro s hs
      obtain ⟨w, rfl⟩ := setting?_ofToml hs
      exact ofToml_ne_null w
    · obtain ⟨s, given, hs⟩ | left := orDefault_eq_some hargs
      · exact .inl (given.trans (by rw [texts?_eq_some hs]))
      · exact .inr left
  · exact ⟨rfl, .inr ⟨rfl, rfl⟩⟩

/-- Settings that are read from a document are those it gives. -/
theorem gives_of_settings? {surplus : Surplus} {v : Toml.Value} {s : Settings}
    (h : (ofToml v).settings? surplus = some s) : (ofToml v).Gives s := by
  simp only [settings?, Option.bind_eq_bind, Option.bind_eq_some_iff] at h
  obtain ⟨fields, hfields, h⟩ := h
  obtain rfl := fields?_eq_some (by decide) hfields
  simp only [List.map_cons, List.map_nil, Option.bind_eq_some_iff, Option.pure_def,
    Option.some.injEq] at h
  obtain ⟨channel, hchannel, action, haction, backend, hbackend, rfl⟩ := h
  obtain ⟨command, args⟩ := backend_of_orDefault (fun _ => setting?_ofToml) hbackend
  exact ⟨channel_of_orDefault hchannel, action_of_orDefault haction, command, args⟩

/-- The default settings are those of an empty document. -/
theorem gives_default : (table []).Gives .default :=
  { channel := ⟨.inr ⟨rfl, rfl⟩⟩
    action := ⟨.inr ⟨rfl, rfl⟩, .inr ⟨rfl, rfl⟩, .inr ⟨rfl, rfl⟩, .inr ⟨rfl, rfl⟩⟩
    command := rfl
    args := .inr ⟨rfl, rfl⟩ }

end Source

/-- The document that a text writes; without a text an empty one. -/
def Settings.document? : Option String → Option Source
  | some text => (Toml.parse? text).map fun members => .ofToml (.table members)
  | none => some (.table [])

/-! ## Ways to come by settings -/

/-- A way to come by settings. -/
inductive Loading where
  /-- From a text. -/
  | text (text : String)
  /-- From what is found at a path. -/
  | file (path : String) (found : Found)
  /-- From what is found at the default file's path. -/
  | defaultFile (path : String) (found : Found)
  /-- By a run with arguments. -/
  | run (a : Arguments) (around : Surroundings)

namespace Loading

/-- The settings that a way hands out. -/
def settings? : Loading → Option Settings
  | text t => (Settings.parse t).toOption
  | file path found => (Settings.load path found).toOption
  | defaultFile path found => (Settings.loadDefault path found).toOption
  | run a around => (a.settings around).toOption

/-- The text that there is to be read. -/
def text? : Loading → Option String
  | text t => some t
  | file _ found | defaultFile _ found => found.readText.toOption
  | run a around => (around.find (a.config.getD around.defaultPath)).readText.toOption

/-- The backend's command on the command line. -/
def command? : Loading → Option String
  | run a _ => a.backend
  | _ => none

/-- The backend's arguments on the command line. -/
def args : Loading → List String
  | run a _ => a.backendArgs
  | _ => []

/-- The document that is to be read. -/
def document? (l : Loading) : Option Source := Settings.document? l.text?

/-- Settings have the channel and the action of a document, and its backend as far as the command
    line says nothing else. -/
structure Honours (l : Loading) (document : Source) (s : Settings) : Prop where
  channel : Source.GivesChannel (document.group? "channel") s.channel
  action : Source.GivesAction (document.group? "action") s.action
  /-- A command on the command line brings its own arguments. -/
  replaced : ∀ command, l.command? = some command → s.backend = ⟨some command, l.args⟩
  command : l.command? = none → Source.GivesCommand (document.group? "backend") s.backend.command
  args : l.command? = none → l.args ≠ [] → s.backend.args = l.args
  kept : l.command? = none → l.args = [] →
    Source.GivesArgs (document.group? "backend") s.backend.args

end Loading

/-! ## Reading a file -/

/-- Settings can be used and are those of a text's document. -/
structure Settings.ReadFrom (text : Option String) (s : Settings) : Prop where
  usable : s.Usable
  gives : ∃ document, Settings.document? text = some document ∧ document.Gives s

namespace Settings.ReadFrom

theorem of_parse {text : String} {s : Settings} (h : Settings.parse text = .ok s) :
    ReadFrom (some text) s := by
  unfold Settings.parse at h
  split at h
  · exact absurd h (by simp)
  · rename_i t ht
    obtain ⟨rfl, usable⟩ := Settings.validate_eq_ok h
    obtain ⟨members, hmembers, hs⟩ := Option.bind_eq_some_iff.mp ht
    exact ⟨usable, .ofToml (.table members), by rw [document?, hmembers, Option.map_some],
      Source.gives_of_settings? hs⟩

theorem of_load {path : String} {found : Found} {s : Settings}
    (h : Settings.load path found = .ok s) : ReadFrom found.readText.toOption s := by
  unfold Settings.load at h
  split at h
  · exact absurd h (by simp)
  · rename_i text htext
    rw [htext]
    exact of_parse h

theorem of_loadDefault {path : String} {found : Found} {s : Settings}
    (h : Settings.loadDefault path found = .ok s) : ReadFrom found.readText.toOption s := by
  unfold Settings.loadDefault at h
  split at h
  · exact of_load h
  · rename_i missing
    obtain rfl : Settings.default = s := by simpa using h
    have nothing : found.readText.toOption = none := by
      cases found with
      | ok bytes => exact absurd rfl missing
      | error obstacle => rfl
    rw [nothing]
    exact ⟨Settings.usable_default, .table [], rfl, Source.gives_default⟩

end Settings.ReadFrom

/-! ## Every way -/

namespace Loading

/-- Settings that no command line has changed are those of the text alone. -/
theorem Honours.of_gives {l : Loading} {document : Source} {s : Settings}
    (command : l.command? = none) (args : l.args = []) (h : document.Gives s) :
    l.Honours document s :=
  { channel := h.channel
    action := h.action
    replaced := by simp [command]
    command := fun _ => h.command
    args := fun _ some => absurd args some
    kept := fun _ _ => h.args }

/-- The command line changes nothing but the backend. -/
theorem Honours.of_override {a : Arguments} {around : Surroundings} {document : Source}
    {s : Settings} (h : document.Gives s) : (run a around).Honours document (a.override s) := by
  unfold Arguments.override
  cases hcommand : a.backend with
  | some command =>
    exact
      { channel := h.channel
        action := h.action
        replaced := by rintro c hc; obtain rfl : command = c := by simpa [command?, hcommand] using hc
                       rfl
        command := by simp [command?, hcommand]
        args := by simp [command?, hcommand]
        kept := by simp [command?, hcommand] }
  | none =>
    cases hargs : a.backendArgs with
    | nil => exact .of_gives hcommand hargs h
    | cons arg rest =>
      exact
        { channel := h.channel
          action := h.action
          replaced := by simp [command?, hcommand]
          command := fun _ => h.command
          args := fun _ _ => hargs.symm
          kept := by simp [Loading.args, hargs] }

/-- Another wording of the error leaves what is handed out as it is. -/
theorem eq_ok_of_mapError {α ε ε' : Type} {f : ε → ε'} {x : Except ε α} {a : α}
    (h : x.mapError f = .ok a) : x = .ok a := by
  cases x with
  | error e => exact absurd h (by simp [Except.mapError])
  | ok b => simpa [Except.mapError] using h

/-- What a first step hands out goes into the second one. -/
theorem eq_ok_of_bind {α β ε : Type} {x : Except ε α} {f : α → Except ε β} {b : β}
    (h : x >>= f = .ok b) : ∃ a, x = .ok a ∧ f a = .ok b := by
  cases x with
  | error e => exact absurd h (by simp [bind, Except.bind])
  | ok a => exact ⟨a, rfl, h⟩

/-- A run reads its file's settings, puts the command line in and checks them once more. -/
theorem settings_eq (a : Arguments) (around : Surroundings) :
    a.settings around =
      (match a.config with
        | some path => (Settings.load path (around.find path)).mapError .settings
        | none =>
          (Settings.loadDefault around.defaultPath (around.find around.defaultPath)).mapError
            .defaultSettings) >>=
        fun configured => (a.override configured).validate.mapError RunError.settings := by
  unfold Arguments.settings
  cases a.config <;> rfl

/-- A run's settings can be used, and follow its file and its command line. -/
theorem of_run {a : Arguments} {around : Surroundings} {s : Settings}
    (h : a.settings around = .ok s) :
    s.Usable ∧ ∃ document, (run a around).document? = some document ∧
      (run a around).Honours document s := by
  rw [settings_eq] at h
  obtain ⟨configured, hload, hvalid⟩ := eq_ok_of_bind h
  have read : Settings.ReadFrom (run a around).text? configured := by
    rw [text?]
    cases hconfig : a.config with
    | some path =>
      rw [hconfig] at hload
      exact .of_load (eq_ok_of_mapError hload)
    | none =>
      rw [hconfig] at hload
      exact .of_loadDefault (eq_ok_of_mapError hload)
  obtain ⟨-, document, hdocument, gives⟩ := read
  obtain ⟨rfl, usable⟩ := Settings.validate_eq_ok (eq_ok_of_mapError hvalid)
  exact ⟨usable, document, hdocument, .of_override gives⟩

theorem of_toOption {ε α : Type} {x : Except ε α} {a : α} (h : x.toOption = some a) :
    x = .ok a := by
  cases x with
  | error e => exact absurd h (by simp [Except.toOption])
  | ok b => simpa [Except.toOption] using h

/-- Settings that a file alone gives can be used and follow it. -/
theorem of_readFrom {l : Loading} {s : Settings} (command : l.command? = none) (args : l.args = [])
    (h : Settings.ReadFrom l.text? s) :
    s.Usable ∧ ∃ document, l.document? = some document ∧ l.Honours document s := by
  obtain ⟨usable, document, hdocument, gives⟩ := h
  exact ⟨usable, document, hdocument, .of_gives command args gives⟩

/-- Whichever way settings come, they can be used and follow the file and the command line. -/
theorem usable_and_honoured {l : Loading} {s : Settings} (h : l.settings? = some s) :
    s.Usable ∧ ∃ document, l.document? = some document ∧ l.Honours document s := by
  cases l with
  | text t => exact of_readFrom rfl rfl (.of_parse (of_toOption h))
  | file path found => exact of_readFrom rfl rfl (.of_load (of_toOption h))
  | defaultFile path found => exact of_readFrom rfl rfl (.of_loadDefault (of_toOption h))
  | run a around => exact of_run (of_toOption h)

/-- **Settings that are handed out can be used.** Whichever way they come, and whatever file and
    command line there are, they break no rule; their channel and action are those of the file, with
    the default of what it leaves out, and so is the backend as far as the command line says nothing
    else; and no two of them share the full name of their actions unless they share its parts. -/
theorem handed_out_usable {l : Loading} {s : Settings} (h : l.settings? = some s) :
    s.Usable ∧ (∃ document, l.document? = some document ∧ l.Honours document s) ∧
      ∀ (l' : Loading) (s' : Settings), l'.settings? = some s' →
        s.action.fullName = s'.action.fullName →
          s.action.scope = s'.action.scope ∧ s.action.name = s'.action.name := by
  obtain ⟨usable, honoured⟩ := usable_and_honoured h
  refine ⟨usable, honoured, fun l' s' h' same => ?_⟩
  exact actionName_injective usable.scope_no_colon (usable_and_honoured h').1.scope_no_colon same

/-- A run whose file leaves the label and the icon out, and whose command line changes the
    backend's arguments. -/
def rearranged : Loading :=
  .run { Arguments.empty with config := some "c.toml", backendArgs := ["-l"] }
    { find := fun _ => .ok (Utf8.encode
        "[action]\nprefix = \"go\"\nname = \"tidy:up\"\n[backend]\ncommand = \"fmt\"\n"),
      start := fun _ => .ok (), defaultPath := "" }

/-- What that run is handed out, which is what it should be. -/
theorem handed_out_rearranged :
    let s : Settings :=
      ⟨.default, ⟨"go", "tidy:up", "Format Go", "fa-align-left"⟩, ⟨some "fmt", ["-l"]⟩⟩
    rearranged.settings? = some s ∧ s.Usable ∧
      (∃ document, rearranged.document? = some document ∧ rearranged.Honours document s) ∧
      ∀ (l' : Loading) (s' : Settings), l'.settings? = some s' →
        s.action.fullName = s'.action.fullName →
          s.action.scope = s'.action.scope ∧ s.action.name = s'.action.name := by
  have h : rearranged.settings? = some
      ⟨.default, ⟨"go", "tidy:up", "Format Go", "fa-align-left"⟩, ⟨some "fmt", ["-l"]⟩⟩ := by
    decide +kernel
  exact ⟨h, handed_out_usable h⟩

end Loading

end FormatBridge
