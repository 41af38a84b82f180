import FormatBridge.Action
import FormatBridge.Buffer
import FormatBridge.Connection

set_option autoImplicit false

/-! # A host: buffers, actions, and one connection

A host owns what an editor owns: buffers, a selection of them, a queue of failures to be shown, a
table of actions, and a connection to a backend. A dispatcher sends the selected buffers to be
formatted, over the connection or into an outbox; a plugin binds a dispatcher to an action and a
toolbar button.

The connection ends when nothing is left that could send a request, so the host keeps account of
what holds what: a plugin holds its dispatcher and its table, a table holds the dispatchers of its
actions, and a dispatcher holds a handle on the connection. -/

namespace FormatBridge

open Json (Value)

/-! ## What a host owns -/

/-- Who waits for a reply. -/
inductive Waiter where
  /-- A caller, known by a number. -/
  | caller (tag : Nat)
  /-- A buffer, and whether its failures are reported. -/
  | buffer (index : Nat) (reports : Bool)
  deriving DecidableEq, Repr

/-- Something that is known by its place in a list and may be let go of. -/
structure Slot (α : Type) where
  value : α
  /-- Whether the host still holds it. -/
  held : Bool
  deriving Repr

/-- What a handle leads to. -/
inductive Handle where
  | connection
  /-- A connection that was over from the start. -/
  | closed
  deriving DecidableEq, Repr

/-- Where a dispatcher sends its requests. -/
inductive Channel where
  | handle (h : Handle)
  /-- Into the outbox, where they wait for the host to answer them. -/
  | outbox
  deriving DecidableEq, Repr

/-- What sends selected buffers to be formatted. -/
structure Dispatcher where
  /-- Where it sends them. -/
  channel : Channel
  kind : String
  /-- Whether failures go to the host's queue. -/
  reports : Bool
  deriving DecidableEq, Repr

/-- A description of a dispatcher. -/
def Dispatcher.describe (d : Dispatcher) : String :=
  "FormatDispatcher \x7b request_kind: " ++ Text.quoted d.kind ++ ", .. \x7d"

/-- A request in the outbox. -/
structure Posted where
  kind : String
  payload : Value
  /-- Who waits for its reply; none once it was answered or forgotten. -/
  waiter : Option Waiter

/-- What an action does. -/
inductive Handler where
  | note (text : String)
  /-- It formats the selection with a dispatcher. -/
  | format (dispatcher : Nat)
  deriving DecidableEq, Repr

/-- What binds a dispatcher to an action. -/
structure Plugin where
  /-- The table in which the action is registered. -/
  table : Nat
  /-- How the action is called and shown. -/
  settings : ActionSettings
  dispatcher : Nat
  /-- The full name of the action once it is registered. -/
  actionName : Option String
  deriving DecidableEq, Repr

/-- A description of a plugin. -/
def Plugin.describe (p : Plugin) : String :=
  "FormatExtension \x7b config: ActionConfig \x7b prefix: " ++ Text.quoted p.settings.scope ++
    ", name: " ++ Text.quoted p.settings.name ++ ", label: " ++ Text.quoted p.settings.label ++
    ", icon: " ++ Text.quoted p.settings.icon ++ " \x7d, action_name: " ++
    Text.quotedOption p.actionName ++ ", .. \x7d"

/-- A host. -/
structure Host where
  connection : Connection Waiter
  /-- The handles that were made. -/
  handles : List (Slot Handle)
  buffers : List Buffer
  /-- The places of the selected buffers, in the order of selection. -/
  selection : List Nat
  /-- The failures that were reported and not shown, oldest first. -/
  failures : List Failure
  /-- The requests that were ever put into the outbox. -/
  outbox : List Posted
  /-- The dispatchers that were made. -/
  dispatchers : List (Slot Dispatcher)
  /-- The plugins that were made. -/
  plugins : List (Slot Plugin)
  /-- The tables that were made; the last is the current one. -/
  tables : List (ActionTable Handler)
  /-- The number of the next caller. -/
  nextTag : Nat

/-- What can be seen of a host's doings. -/
inductive Happening where
  | log (event : LogEvent)
  | wrote (bytes : Bytes)
  | shutDown
  /-- A caller is told the reply, or that there is none. -/
  | told (tag : Nat) (reply : Option Value)
  | forgotten (tag : Nat)
  | posted (kind : String) (payload : Value)
  | noted (text : String)

/-- What is seen of a step, what it gives, and the host behind it. -/
abbrev Did (α : Type) := List Happening × α × Host

namespace Host

/-- A host with a new connection, one handle on it, and all or none of its buffers selected. -/
def start (session : String) (outlet : Outlet) (buffers : List Buffer) (selectAll : Bool) :
    Host where
  connection := .start session outlet
  handles := [⟨.connection, true⟩]
  buffers := buffers
  selection := if selectAll then List.range buffers.length else []
  failures := []
  outbox := []
  dispatchers := []
  plugins := []
  tables := [.empty]
  nextTag := 0

/-! ## Looking things up -/

/-- The value of a slot that is still held. -/
def held? {α : Type} (slots : List (Slot α)) (i : Nat) : Option α :=
  match slots[i]? with
  | some ⟨value, true⟩ => some value
  | _ => none

/-- Lets go of a slot. -/
def release {α : Type} (slots : List (Slot α)) (i : Nat) : List (Slot α) :=
  slots.modify i fun slot => { slot with held := false }

/-- The place of the current table. -/
def currentTable (h : Host) : Nat := h.tables.length - 1

/-- The current table. -/
def table (h : Host) : ActionTable Handler := h.tables.getLastD .empty

/-- Replaces a table. -/
def setTable (h : Host) (i : Nat) (t : ActionTable Handler) : Host :=
  { h with tables := h.tables.set i t }

/-! ## What holds the connection open -/

/-- Whether a table can still be used: it is the current one or a plugin's. -/
def tableAlive (h : Host) (i : Nat) : Bool :=
  i = h.currentTable || h.plugins.any fun p => p.held && p.value.table = i

/-- Whether a dispatcher can still be used: by the host, by a plugin or by an action. -/
def dispatcherAlive (h : Host) (i : Nat) : Bool :=
  (held? h.dispatchers i).isSome
    || (h.plugins.any fun p => p.held && p.value.dispatcher = i)
    || h.tables.zipIdx.any fun (t, j) => h.tableAlive j && t.handlers.contains (.format i)

/-- Whether anything is left that could send a request over the connection. -/
def holdsConnection (h : Host) : Bool :=
  (h.handles.any fun s => s.held && s.value = .connection)
    || h.dispatchers.zipIdx.any fun (d, i) =>
      d.value.channel = .handle .connection && h.dispatcherAlive i

/-- Disconnects when nothing is left that could send a request. -/
def updateConnected (h : Host) : Host :=
  if h.holdsConnection then h else { h with connection := h.connection.disconnect }

/-! ## Replies -/

/-- Gives a reply, or none, to a buffer: its text is set, or a failure is reported. -/
def applyReply (h : Host) (index : Nat) (reports : Bool) (reply : Option Value) : Did Unit :=
  match h.buffers[index]? with
  | none => ([], (), h)
  | some buffer =>
    let application := buffer.applicationOf reply
    let h :=
      match application with
      | .formatted code => { h with buffers := h.buffers.set index (buffer.setText code) }
      | .failed failure =>
        if reports then { h with failures := h.failures ++ [failure] } else h
    ([.log (application.event buffer.label)], (), h)

/-- Gives a reply, or none, to whoever waits for it. -/
def tell (h : Host) (waiter : Waiter) (reply : Option Value) : Did Unit :=
  match waiter with
  | .caller tag => ([.told tag reply], (), h)
  | .buffer index reports => h.applyReply index reports reply

/-- Lets one effect of the connection happen. -/
def perform (h : Host) : Effect Waiter → Did Unit
  | .log event => ([.log event], (), h)
  | .wrote bytes => ([.wrote bytes], (), h)
  | .shutDown => ([.shutDown], (), h)
  | .reply waiter reply => h.tell waiter reply
  | .dropped (.caller tag) => ([.forgotten tag], (), h)
  | .dropped (.buffer ..) => ([], (), h)

/-- Lets effects of the connection happen in order. -/
def performAll (h : Host) : List (Effect Waiter) → Did Unit
  | [] => ([], (), h)
  | effect :: effects =>
    let (seen, (), h) := h.perform effect
    let (later, (), h) := h.performAll effects
    (seen ++ later, (), h)

/-- Takes over a connection that has moved, and lets its effects happen. -/
def moved (h : Host) (m : Moved Waiter) : Did Unit :=
  { h with connection := m.2 }.performAll m.1

/-- Lets the connection go on until it has to wait. -/
def settle (h : Host) : Did Unit := h.moved h.connection.settle

/-! ## Formatting -/

/-- Sends a request over a channel. A closed handle refuses it. -/
def sendOver (h : Host) (channel : Channel) (kind : String) (payload : Value) (waiter : Waiter) :
    Did Unit :=
  match channel with
  | .handle .connection => h.moved (h.connection.send kind payload waiter)
  | .handle .closed =>
    h.performAll [.dropped waiter, .log (.requestDropped kind .stopped)]
  | .outbox =>
    ([.posted kind payload], (), { h with outbox := h.outbox ++ [⟨kind, payload, some waiter⟩] })

/-- Sends a buffer to be formatted. -/
def formatBuffer (h : Host) (d : Dispatcher) (index : Nat) : Did Unit :=
  match h.buffers[index]? with
  | none => ([], (), h)
  | some buffer =>
    let request := buffer.request
    let sent := LogEvent.requestSent buffer.label request.code.utf8ByteSize d.kind
    let (seen, (), h) :=
      h.sendOver d.channel d.kind request.payload (.buffer index d.reports)
    (.log sent :: seen, (), h)

/-- Sends buffers to be formatted, one request each, in order. -/
def formatBuffers (h : Host) (d : Dispatcher) : List Nat → Did Unit
  | [] => ([], (), h)
  | index :: rest =>
    let (seen, (), h) := h.formatBuffer d index
    let (later, (), h) := h.formatBuffers d rest
    (seen ++ later, (), h)

/-- Sends the selected buffers to be formatted; gives their number. -/
def formatSelection (h : Host) (d : Dispatcher) : Did Nat :=
  if h.selection.isEmpty then ([.log .selectionEmpty], 0, h)
  else
    let (seen, (), h') := h.formatBuffers d h.selection
    (seen, h.selection.length, h')

/-! ## Actions -/

/-- Does what an action does. -/
def handle (h : Host) : Handler → Did Unit
  | .note text => ([.noted text], (), h)
  | .format i =>
    match h.dispatchers[i]? with
    | some slot =>
      let (seen, _, h) := h.formatSelection slot.value
      (seen, (), h)
    | none => ([], (), h)

/-- Invokes an action of the current table by its full name; gives whether there is one. -/
def invoke (h : Host) (name : String) : Did Bool :=
  match h.table.get? name with
  | some action =>
    let (seen, (), h) := h.handle action.handler
    (seen, true, h)
  | none => ([.log (.actionUnknown name)], false, h)

/-- Registers a plugin's action and its toolbar group, the first time; gives its full name. -/
def load (h : Host) (i : Nat) (p : Plugin) : Did String :=
  match p.actionName with
  | some name => ([], name, h)
  | none =>
    let action : Action Handler := ⟨p.settings.icon, p.settings.label, .format p.dispatcher⟩
    let t := h.tables.getD p.table .empty
    let (name, t) := t.register action p.settings.name p.settings.scope
    let t := t.addGroup [name]
    let h := h.setTable p.table t
    let plugins := h.plugins.modify i fun s => { s with value.actionName := some name }
    ([.log (.actionRegistered name)], name, { h with plugins := plugins })

/-! ## Selection and failures -/

/-- The selected buffers. -/
def selected (h : Host) : List Buffer := h.selection.filterMap fun i => h.buffers[i]?

/-- A description of the selection. -/
def describeSelection (h : Host) : String :=
  "Selection \x7b buffers: " ++ Text.quotedList (h.selected.map (·.label)) ++ " \x7d"

/-- Takes all queued failures, oldest first. -/
def takeFailures (h : Host) : List Failure × Host := (h.failures, { h with failures := [] })

/-- All queued failures are taken and none is left. -/
theorem takeFailures_all (h : Host) :
    h.takeFailures.1 = h.failures ∧ h.takeFailures.2.failures = [] := ⟨rfl, rfl⟩

end Host

end FormatBridge
