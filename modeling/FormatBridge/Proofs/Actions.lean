import FormatBridge.Proofs.Lookup
import FormatBridge.Proofs.OwnReplies

set_option autoImplicit false

/-! # Actions follow the plugins that were loaded

Several plugins share the table of a desk; they are loaded again and again, in any order, while
actions are invoked and buffers come and go. Only one thing of that history matters for the table:
which plugins were loaded, in the order in which each was loaded first (`Gesture.loaded`). A host is
`Equipped` with it when its table and its plugins are read off it. Sending requests and telling
replies change neither (`Host.SameActions`), so every gesture keeps the host equipped
(`Equipped.meet`). -/

namespace FormatBridge

/-! ## Registering -/

namespace ActionTable

variable {η : Type}

/-- A registered action replaces the one of the same full name, and no other. -/
theorem get?_register (t : ActionTable η) (action : Action η) (name scope other : String) :
    (t.register action name scope).2.get? other =
      if other = actionName scope name then some action else t.get? other := by
  simp only [register, get?, lookup_cons_eq, lookup_filter_ne]
  by_cases h : other = actionName scope name <;> simp [h]

end ActionTable

/-! ## What leaves the actions alone -/

namespace Host

/-- Two hosts have the same tables, plugins and dispatchers. -/
structure SameActions (g h : Host) : Prop where
  tables : g.tables = h.tables
  plugins : g.plugins = h.plugins
  dispatchers : g.dispatchers = h.dispatchers

namespace SameActions

theorem refl (h : Host) : SameActions h h := ⟨rfl, rfl, rfl⟩

theorem trans {f g h : Host} (hfg : SameActions f g) (hgh : SameActions g h) : SameActions f h :=
  ⟨hfg.tables.trans hgh.tables, hfg.plugins.trans hgh.plugins,
    hfg.dispatchers.trans hgh.dispatchers⟩

theorem deliver (h : Host) (replies : List (Waiter × Option Json.Value)) :
    SameActions (h.deliver replies) h := by
  rw [deliver_eq]
  exact ⟨rfl, rfl, rfl⟩

theorem tell (h : Host) (waiter : Waiter) (reply : Option Json.Value) :
    SameActions (h.tell waiter reply).2.2 h := deliver h [(waiter, reply)]

theorem performAll (h : Host) (effects : List (Effect Waiter)) :
    SameActions (h.performAll effects).2.2 h := by
  rw [performAll_host]
  exact deliver h _

theorem sendOver (h : Host) (channel : Channel) (kind : String) (payload : Json.Value)
    (waiter : Waiter) : SameActions (h.sendOver channel kind payload waiter).2.2 h := by
  unfold Host.sendOver
  split
  · exact (performAll _ _).trans ⟨rfl, rfl, rfl⟩
  · exact performAll h _
  · exact ⟨rfl, rfl, rfl⟩

theorem formatBuffer (h : Host) (d : Dispatcher) (i : Nat) :
    SameActions (h.formatBuffer d i).2.2 h := by
  unfold Host.formatBuffer
  split
  · exact refl h
  · exact sendOver h ..

theorem formatBuffers (h : Host) (d : Dispatcher) (indices : List Nat) :
    SameActions (h.formatBuffers d indices).2.2 h := by
  induction indices generalizing h with
  | nil => exact refl h
  | cons i rest ih => exact (ih _).trans (formatBuffer h d i)

theorem formatSelection (h : Host) (d : Dispatcher) :
    SameActions (h.formatSelection d).2.2 h := by
  unfold Host.formatSelection
  split
  · exact refl h
  · exact formatBuffers h d _

theorem takePosted {h g : Host} {i : Nat} {waiter : Waiter}
    (htake : h.takePosted i = .ok (waiter, g)) : SameActions g h := by
  unfold Host.takePosted at htake
  split at htake
  · contradiction
  · contradiction
  · obtain ⟨-, hg⟩ := Prod.mk.inj (Except.ok.inj htake)
    exact hg ▸ ⟨rfl, rfl, rfl⟩

/-- No deed touches the actions. -/
theorem obey_deed (h : Host) (deed : Deed) : SameActions (h.obey deed.command).2.2 h := by
  cases deed with
  | clear i => exact ⟨rfl, rfl, rfl⟩
  | select i buffers =>
    simp only [Deed.command, obey]
    split <;> exact ⟨rfl, rfl, rfl⟩
  | setText i text =>
    simp only [Deed.command, obey]
    split <;> exact ⟨rfl, rfl, rfl⟩
  | format i =>
    simp only [Deed.command, obey, withHeld]
    split
    · exact formatSelection h _
    · exact refl h
  | deliver request reply =>
    simp only [Deed.command, obey]
    split
    · exact refl h
    · rename_i waiter g htake
      exact (tell g waiter reply).trans (takePosted htake)

/-- An action that is invoked does not touch the actions. -/
theorem obey_invoke (h : Host) (name : String) : SameActions (h.obey (.invoke name)).2.2 h := by
  simp only [obey, invoke]
  cases h.table.get? name with
  | none => exact refl h
  | some action =>
    simp only [handle]
    split
    · exact refl h
    · split
      · exact formatSelection h _
      · exact refl h

end SameActions

end Host

/-! ## Plugins and what is done with them -/

/-- What a plugin is made of: its settings and one of `n` dispatchers. -/
structure Extension (n : Nat) where
  settings : ActionSettings
  dispatcher : Fin n

namespace Extension

variable {n : Nat}

/-- The full name of the plugin's action. -/
def fullName (e : Extension n) : String := e.settings.fullName

/-- The action itself: shown with the configured icon and label, it formats with the plugin's
    dispatcher. -/
def action (e : Extension n) : Action Handler :=
  ⟨e.settings.icon, e.settings.label, .format e.dispatcher⟩

/-- The plugin, whose action is registered or not. -/
def plugin (e : Extension n) (registered : Bool) : Slot Plugin :=
  ⟨⟨0, e.settings, e.dispatcher, if registered then some e.fullName else none⟩, true⟩

end Extension

/-- A host once the action of a plugin in its place is registered in the only table. -/
def Host.enrolled {n : Nat} (h : Host) (e : Extension n) (place : Nat) : Host :=
  { h with
    tables := [(h.table.register e.action e.settings.name e.settings.scope).2.addGroup [e.fullName]]
    plugins := h.plugins.modify place fun s => { s with value.actionName := some e.fullName } }

theorem Host.get?_enrolled {n : Nat} (h : Host) (e : Extension n) (place : Nat) (name : String) :
    (h.enrolled e place).table.get? name =
      if name = e.fullName then some e.action else h.table.get? name :=
  ActionTable.get?_register h.table ..

/-- What is done at a desk with `n` plugins. -/
inductive Gesture (n : Nat) where
  | load (plugin : Fin n)
  | actionName (plugin : Fin n)
  | invoke (name : String)
  | get (name : String)
  /-- Anything that is done with buffers, selections and requests. -/
  | deed (deed : Deed)

namespace Gesture

variable {n : Nat}

/-- A gesture as a command to the host. -/
def command : Gesture n → Command
  | load i => .load i
  | actionName i => .actionName i
  | invoke name => .invoke name
  | get name => .get name
  | deed d => d.command

/-- The plugin that a gesture loads. -/
def load? : Gesture n → Option (Fin n)
  | load i => some i
  | _ => none

/-- The plugins that were loaded, in the order in which each was loaded first. -/
def loaded (script : List (Gesture n)) : List (Fin n) := (script.filterMap load?).eraseDups

theorem loaded_append_singleton (script : List (Gesture n)) (g : Gesture n) :
    loaded (script ++ [g]) =
      match g.load? with
      | some i => if (loaded script).contains i then loaded script else loaded script ++ [i]
      | none => loaded script := by
  unfold loaded
  rw [List.filterMap_append, List.eraseDups_append]
  generalize script.filterMap load? = loads
  cases hg : g.load? with
  | none => simp [hg, List.removeAll]
  | some i =>
    by_cases hi : i ∈ loads
    · simp [hg, hi, List.mem_eraseDups, List.removeAll]
    · have once : [i].eraseDups = [i] := rfl
      simp [hg, hi, List.mem_eraseDups, List.removeAll, once]

end Gesture

section Equipped

variable {n k : Nat} (extensions : Fin k → Extension n)

/-- The plugin to which a full name belongs: of those with this name, the one that came last. -/
def holder? (loaded : List (Fin k)) (name : String) : Option (Fin k) :=
  loaded.reverse.find? fun i => (extensions i).fullName = name

theorem holder?_append_singleton (loaded : List (Fin k)) (i : Fin k) (name : String) :
    holder? extensions (loaded ++ [i]) name =
      if name = (extensions i).fullName then some i else holder? extensions loaded name := by
  unfold holder?
  rw [List.reverse_append, List.reverse_singleton, List.singleton_append, List.find?_cons]
  by_cases h : (extensions i).fullName = name
  · simp [h]
  · simp [h, Ne.symm h]

theorem isSome_holder? (loaded : List (Fin k)) (name : String) :
    (holder? extensions loaded name).isSome =
      loaded.any fun i => (extensions i).fullName = name := by
  simp [holder?, List.isSome_find?]

/-- A host with one table, whose plugins are `extensions` and whose table and plugins are what the
    plugins `loaded` make of them. -/
structure Equipped (dispatchers : List (Slot Dispatcher)) (loaded : List (Fin k))
    (h : Host) : Prop where
  tables : h.tables = [h.table]
  toolbar : h.table.toolbar = loaded.map fun i => [(extensions i).fullName]
  bound : ∀ name, h.table.get? name =
    (holder? extensions loaded name).map fun i => (extensions i).action
  plugins : ∀ i : Fin k, h.plugins[i.val]? = some ((extensions i).plugin (loaded.contains i))
  dispatchers : h.dispatchers = dispatchers

variable {extensions} {dispatchers : List (Slot Dispatcher)} {loaded : List (Fin k)} {g h : Host}

namespace Equipped

theorem of_same (he : Equipped extensions dispatchers loaded h) (same : g.SameActions h) :
    Equipped extensions dispatchers loaded g := by
  have htable : g.table = h.table := by rw [Host.table, same.tables, Host.table]
  exact
    { tables := by rw [htable, same.tables, ← he.tables]
      toolbar := by rw [htable, he.toolbar]
      bound := by simpa [htable] using he.bound
      plugins := by simpa [same.plugins] using he.plugins
      dispatchers := by rw [same.dispatchers, he.dispatchers] }

/-- Which selection the host has at hand does not matter. -/
theorem at_hand (he : Equipped extensions dispatchers loaded h) (selection : List Nat) :
    Equipped extensions dispatchers loaded { h with selection := selection } := { he with }

/-- A plugin that is asked for is there. -/
theorem held (he : Equipped extensions dispatchers loaded h) (i : Fin k) :
    Host.held? h.plugins i = some ((extensions i).plugin (loaded.contains i)).value := by
  rw [Host.held?, he.plugins i]
  rfl

/-! ### One gesture -/

/-- To load a plugin again only gives its name. -/
theorem load_again (he : Equipped extensions dispatchers loaded h) {i : Fin k}
    (hi : i ∈ loaded) : h.obey (.load i) = ([], .text (extensions i).fullName, h) := by
  simp only [Host.obey, Host.withHeld, he.held i, List.contains_iff_mem.2 hi, Extension.plugin,
    Host.load, if_true]

/-- To load a plugin for the first time registers its action and adds one group. -/
theorem load_first (he : Equipped extensions dispatchers loaded h) {i : Fin k} (hi : i ∉ loaded) :
    h.obey (.load i) = ([.log (.actionRegistered (extensions i).fullName)],
      .text (extensions i).fullName, h.enrolled (extensions i) i) := by
  have htable : h.tables.getD 0 .empty = h.table := by rw [he.tables]; rfl
  have hnew : ¬ loaded.contains i = true := fun hin => hi (List.contains_iff_mem.1 hin)
  simp only [Host.obey, Host.withHeld, he.held i, Extension.plugin, Host.load, if_neg hnew, htable,
    Host.setTable]
  rw [he.tables]
  rfl

/-- The table after the first load of a plugin is the one of one more plugin. -/
theorem enrolled (he : Equipped extensions dispatchers loaded h) (i : Fin k) :
    Equipped extensions dispatchers (loaded ++ [i]) (h.enrolled (extensions i) i) :=
  { tables := rfl
    toolbar := by
      rw [List.map_append, ← he.toolbar]
      rfl
    bound := by
      intro name
      rw [Host.get?_enrolled, he.bound, holder?_append_singleton, apply_ite (Option.map _)]
      rfl
    plugins := by
      intro j
      have hj := he.plugins j
      by_cases hij : i = j
      · subst hij
        simp [Host.enrolled, hj, Extension.plugin]
      · have hne : i.val ≠ j.val := fun h => hij (Fin.ext h)
        simp [Host.enrolled, hj, hne, Ne.symm hij]
    dispatchers := he.dispatchers }

/-- To ask a plugin for its name changes nothing. -/
theorem actionName (he : Equipped extensions dispatchers loaded h) (i : Fin k) :
    h.obey (.actionName i) =
      ([], .textOrNone (if loaded.contains i then some (extensions i).fullName else none), h) := by
  simp only [Host.obey, Host.withHeld, he.held i, Extension.plugin, Host.answer]

/-- To look an action up changes nothing. -/
theorem get (he : Equipped extensions dispatchers loaded h) (name : String) :
    h.obey (.get name) =
      ([], .action ((holder? extensions loaded name).map fun i => (extensions i).action), h) := by
  simp only [Host.obey, Host.answer, he.bound]

/-- To invoke a name that no loaded plugin has only leaves a note. -/
theorem invoke_unknown (he : Equipped extensions dispatchers loaded h) {name : String}
    (hname : holder? extensions loaded name = none) :
    h.obey (.invoke name) = ([.log (.actionUnknown name)], .truth false, h) := by
  simp only [Host.obey, Host.invoke, he.bound, hname, Option.map_none]

/-- To invoke a name formats the selection with the dispatcher of the plugin to which it
    belongs. -/
theorem invoke_known (he : Equipped extensions dispatchers loaded h) {name : String} {i : Fin k}
    (hname : holder? extensions loaded name = some i) {slot : Slot Dispatcher}
    (hslot : dispatchers[(extensions i).dispatcher.val]? = some slot) :
    h.obey (.invoke name) =
      let sent := h.formatSelection slot.value
      (sent.1, .truth true, sent.2.2) := by
  simp only [Host.obey, Host.invoke, he.bound, hname, Option.map_some, Extension.action,
    Host.handle, he.dispatchers, hslot]

/-- **Every gesture keeps the host equipped.** -/
theorem obey (he : Equipped extensions dispatchers loaded h) {script : List (Gesture k)}
    (hloaded : loaded = Gesture.loaded script) (gesture : Gesture k) :
    Equipped extensions dispatchers (Gesture.loaded (script ++ [gesture]))
      (h.obey gesture.command).2.2 := by
  rw [Gesture.loaded_append_singleton, ← hloaded]
  cases gesture with
  | load i =>
    by_cases hi : i ∈ loaded
    · rw [Gesture.command, he.load_again hi]
      simpa [Gesture.load?, hi] using he
    · rw [Gesture.command, he.load_first hi]
      simpa [Gesture.load?, hi] using he.enrolled i
  | actionName i => simpa only [Gesture.load?, Gesture.command, he.actionName i] using he
  | get name => simpa only [Gesture.load?, Gesture.command, he.get name] using he
  | deed deed => exact he.of_same (.obey_deed h deed)
  | invoke name => exact he.of_same (.obey_invoke h name)

end Equipped

end Equipped

namespace Desk

/-- A desk that is given one new table and plugins for it. -/
def equip {k : Nat} (d : Desk) (extensions : Fin k → Extension d.host.dispatchers.length) : Desk :=
  { d with host := { d.host with
      tables := [.empty]
      plugins := List.ofFn fun i => (extensions i).plugin false } }

/-- The selection that an action of the current table looks at when it is invoked; for other names
    any will do. -/
def invoked (follows : Nat → Nat) (d : Desk) (name : String) : Nat :=
  match d.host.table.get? name with
  | some ⟨_, _, .format dispatcher⟩ => follows dispatcher
  | _ => 0

/-- The selection that is at hand for a gesture. -/
def atHand {k : Nat} (follows : Nat → Nat) (d : Desk) : Gesture k → Nat
  | .invoke name => d.invoked follows name
  | .deed deed => deed.selection follows
  | .load _ | .actionName _ | .get _ => 0

/-- A desk after many gestures. Which selection a dispatcher follows is given. -/
def gestures {k : Nat} (follows : Nat → Nat) (d : Desk) (script : List (Gesture k)) : Desk :=
  script.foldl (fun d g => (d.obey (d.atHand follows g) g.command).2) d

theorem gestures_append_singleton {k : Nat} (follows : Nat → Nat) (d : Desk)
    (script : List (Gesture k)) (g : Gesture k) :
    d.gestures follows (script ++ [g]) =
      let now := d.gestures follows script
      (now.obey (now.atHand follows g) g.command).2 := by
  simp [gestures]

/-- **A host stays equipped with the plugins that were loaded.** -/
theorem equipped {k : Nat} (follows : Nat → Nat) (d : Desk)
    (extensions : Fin k → Extension d.host.dispatchers.length) (script : List (Gesture k)) :
    Equipped extensions d.host.dispatchers (Gesture.loaded script)
      ((d.equip extensions).gestures follows script).host := by
  induction script using List.reverseRecOn with
  | nil =>
    exact
      { tables := rfl
        toolbar := rfl
        bound := fun _ => rfl
        plugins := by simp [gestures, equip, Gesture.loaded, Extension.plugin]
        dispatchers := rfl }
  | append_singleton script g ih =>
    rw [gestures_append_singleton]
    exact (ih.at_hand _).obey rfl g

/-- **Actions follow the plugins that were loaded.** After any gestures with plugins that share a
    table, the toolbar has one group for each plugin that was loaded, in the order of the first
    loads, and a name is bound to the action of the plugin with this name that was loaded last. To
    load a plugin gives its full name, and changes something only the first time. To invoke a name
    is to format once with the dispatcher of the plugin to which it belongs, on the selection that
    this one follows, and leaves all actions as they are. -/
theorem actions_follow_loads {k : Nat} (follows : Nat → Nat) (d : Desk)
    (extensions : Fin k → Extension d.host.dispatchers.length) (script : List (Gesture k)) :
    let now := (d.equip extensions).gestures follows script
    let h := now.host
    let loaded := Gesture.loaded script
    h.table.toolbar = loaded.map (fun i => [(extensions i).fullName]) ∧
      (∀ name, h.obey (.get name) =
        ([], .action ((holder? extensions loaded name).map fun i => (extensions i).action), h)) ∧
      (∀ i : Fin k, h.obey (.actionName i) =
        ([], .textOrNone (if loaded.contains i then some (extensions i).fullName else none), h)) ∧
      (∀ i : Fin k, let (_, answer, after) := h.obey (.load i)
        answer = .text (extensions i).fullName ∧ (i ∈ loaded → after = h) ∧
          (i ∉ loaded → after.table.toolbar = h.table.toolbar ++ [[(extensions i).fullName]] ∧
            ∀ name, after.table.get? name =
              if name = (extensions i).fullName then some (extensions i).action
              else h.table.get? name)) ∧
      ∀ name,
        let atHand := { h with selection := now.selections (now.invoked follows name) }
        let (seen, answer, after) := atHand.obey (.invoke name)
        answer = .truth (loaded.any fun i => (extensions i).fullName = name) ∧
          after.SameActions h ∧
          match holder? extensions loaded name with
          | none => (seen, after) = ([.log (.actionUnknown name)], atHand)
          | some i =>
            let dispatcher := (extensions i).dispatcher
            let sent := atHand.formatSelection (d.host.dispatchers.get dispatcher).value
            now.invoked follows name = follows dispatcher ∧ (seen, after) = (sent.1, sent.2.2) := by
  intro now h loaded
  have he : Equipped extensions d.host.dispatchers loaded h := d.equipped follows extensions script
  refine ⟨he.toolbar, he.get, he.actionName, ?_, ?_⟩
  · intro i
    by_cases hi : i ∈ loaded
    · rw [he.load_again hi]
      exact ⟨rfl, fun _ => rfl, fun hnot => absurd hi hnot⟩
    · rw [he.load_first hi]
      exact ⟨rfl, fun hin => absurd hin hi, fun _ => ⟨rfl, h.get?_enrolled (extensions i) i⟩⟩
  · intro name atHand
    have hhand : Equipped extensions d.host.dispatchers loaded atHand := he.at_hand _
    have hknown := isSome_holder? extensions loaded name
    have hsame : (atHand.obey (.invoke name)).2.2.SameActions h :=
      (Host.SameActions.obey_invoke atHand name).trans ⟨rfl, rfl, rfl⟩
    cases hname : holder? extensions loaded name with
    | none =>
      rw [hname] at hknown
      rw [hhand.invoke_unknown hname] at hsame ⊢
      exact ⟨congrArg Answer.truth hknown, hsame, rfl⟩
    | some i =>
      rw [hname] at hknown
      rw [hhand.invoke_known hname (List.getElem?_eq_getElem (extensions i).dispatcher.isLt)]
        at hsame ⊢
      have hfollows : now.invoked follows name = follows (extensions i).dispatcher := by
        rw [invoked, he.bound, hname]
        rfl
      exact ⟨congrArg Answer.truth hknown, hsame, hfollows, rfl⟩

end Desk

end FormatBridge
