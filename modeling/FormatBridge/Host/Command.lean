import FormatBridge.Host
import FormatBridge.Settings.Source
import FormatBridge.Text.Runs

set_option autoImplicit false

/-! # Commands to a host

Everything that can be asked of a host is a `Command`; `Host.obey` does it and gives an `Answer`.
`Host.step` lets the connection go on afterwards, unless it is told to hold, and reports what was
seen. Things are named by the order in which they were made. -/

namespace FormatBridge

open Json (Value)

/-! ## Commands and answers -/

/-- Where a new dispatcher sends its requests. -/
inductive Destination where
  /-- Over a handle of the host, by its place. -/
  | handle (i : Nat)
  | closed
  | outbox
  deriving DecidableEq, Repr

/-- What a host can be asked to do. A payload or a reply is missing when its text is no JSON, and
    so are settings that have no meaning. -/
inductive Command where
  -- handles and requests
  | request (handle : Nat) (kind : String) (payload : Option Value)
  | send (handle : Nat) (kind : String) (payload : Option Value)
  | clone (handle : Nat)
  | newClosed
  | drop (handle : Nat)
  | isClosed (handle : Nat)
  -- the backend's side of the connection
  | feed (bytes : Bytes)
  | endInput
  | failInput (error : String)
  | widen (n : Option Nat)
  | breakOutput
  | failShutdown
  | abort
  | poll
  -- buffers and the selection
  | select (buffers : List Nat)
  | clear
  | selected
  | setText (buffer : Nat) (text : String)
  | label (buffer : Nat)
  -- dispatchers
  | dispatcher (destination : Destination) (kind : Option String) (silent : Bool)
  | format (dispatcher : Nat)
  | requestKind (dispatcher : Nat)
  | dropDispatcher (dispatcher : Nat)
  -- the outbox and the failures
  | reply (index : Nat) (reply : Option (Option Value))
  | forget (index : Nat)
  | failures
  -- actions and plugins
  | register (name scope : String) (action : Action Handler)
  | invoke (name : String)
  | get (name : String)
  | addGroup (names : List String)
  | toolbar
  | dropTable
  | plugin (dispatcher : Nat) (settings : Option ActionSettings)
  | load (plugin : Nat)
  | actionName (plugin : Nat)
  | dropPlugin (plugin : Nat)
  -- descriptions
  | describeSelection
  | describeDispatcher (dispatcher : Nat)
  | describePlugin (plugin : Nat)
  | describeRequest (kind : String)
  | describeConnection
  | unknown

/-- Why a host cannot do what it is asked. -/
inductive Refusal where
  | noHandle
  | noDispatcher
  | noPlugin
  | noBuffer
  | noRequest
  | alreadyAnswered
  | malformed
  | unknownCommand
  deriving DecidableEq, Repr

/-- What a host answers. -/
inductive Answer where
  | nothing
  | refused (reason : Refusal)
  | queued
  | stopped (error : TransportError)
  | truth (b : Bool)
  | number (n : Nat)
  | text (s : String)
  | textOrNone (s : Option String)
  | selection (size : Nat) (empty : Bool)
  | failures (wasEmpty : Bool) (taken : List Failure)
  | action (a : Option (Action Handler))
  | groups (toolbar : List (List String))
  | connection (description : String) (pending : Nat)

/-- A description of a request on its way to the connection. -/
def describeRequest (kind : String) : String :=
  "Request \x7b kind: " ++ Text.quoted kind ++ ", .. \x7d"

/-- A description of a connection. -/
def Connection.describe {κ : Type} (c : Connection κ) : String :=
  "MainLoop \x7b pending: " ++ toString c.pending ++ ", .. \x7d"

/-! ## Doing it -/

/-- Failures in the order in which they are shown: those of a connection that was given up, which
    all come at once, by label. -/
def presentFailures (failures : List Failure) : List Failure :=
  Text.sortRuns (fun f => f.error = .absent) (·.buffer) failures

namespace Host

/-- An answer without any change. -/
def answer (h : Host) (a : Answer) : Did Answer := ([], a, h)

/-- A refusal. -/
def refuse (h : Host) (reason : Refusal) : Did Answer := h.answer (.refused reason)

/-- Submits a request of a caller. -/
def submit (h : Host) (handle : Handle) (kind : String) (payload : Value) : Did Answer :=
  let waiter := Waiter.caller h.nextTag
  let h := { h with nextTag := h.nextTag + 1 }
  match handle with
  | .connection =>
    let (result, m) := h.connection.submit kind payload waiter
    let (seen, (), h) := h.moved m
    (seen, match result with | .ok () => .queued | .error error => .stopped error, h)
  | .closed =>
    let (seen, (), h) := h.perform (.dropped waiter)
    (seen, .stopped .stopped, h)

/-- Sends a request of a caller. -/
def send (h : Host) (handle : Handle) (kind : String) (payload : Value) : Did Answer :=
  let waiter := Waiter.caller h.nextTag
  let h := { h with nextTag := h.nextTag + 1 }
  let (seen, (), h) := h.sendOver (.handle handle) kind payload waiter
  (seen, .nothing, h)

/-- Takes the waiter of a request out of the outbox. -/
def takePosted (h : Host) (index : Nat) : Except Refusal (Waiter × Host) :=
  match h.outbox[index]? with
  | none => .error .noRequest
  | some ⟨_, _, none⟩ => .error .alreadyAnswered
  | some ⟨_, _, some waiter⟩ =>
    .ok (waiter, { h with outbox := h.outbox.modify index fun p => { p with waiter := none } })

/-- Changes the connection from outside. -/
def outside (h : Host) (change : Connection Waiter → Connection Waiter) : Did Answer :=
  answer { h with connection := change h.connection } .nothing

/-- Makes a dispatcher. -/
def addDispatcher (h : Host) (channel : Channel) (kind : Option String) (silent : Bool) :
    Did Answer :=
  let d : Dispatcher := ⟨channel, kind.getD defaultRequestKind, !silent⟩
  answer { h with dispatchers := h.dispatchers ++ [⟨d, true⟩] } (.number h.dispatchers.length)

/-- Does with a held thing what can be done with it, or refuses when there is none. -/
def withHeld {α : Type} (h : Host) (slots : List (Slot α)) (i : Nat) (reason : Refusal)
    (act : α → Did Answer) : Did Answer :=
  match held? slots i with
  | some value => act value
  | none => h.refuse reason

/-- Does what is asked. -/
def obey (h : Host) : Command → Did Answer
  | .request i kind payload =>
    h.withHeld h.handles i .noHandle fun handle =>
      match payload with
      | some payload => h.submit handle kind payload
      | none => h.refuse .malformed
  | .send i kind payload =>
    h.withHeld h.handles i .noHandle fun handle =>
      match payload with
      | some payload => h.send handle kind payload
      | none => h.refuse .malformed
  | .clone i =>
    h.withHeld h.handles i .noHandle fun handle =>
      answer { h with handles := h.handles ++ [⟨handle, true⟩] } (.number h.handles.length)
  | .newClosed =>
    answer { h with handles := h.handles ++ [⟨.closed, true⟩] } (.number h.handles.length)
  | .drop i =>
    h.withHeld h.handles i .noHandle fun _ =>
      answer { h with handles := release h.handles i } .nothing
  | .isClosed i =>
    h.withHeld h.handles i .noHandle fun handle =>
      h.answer (.truth (handle = .closed || h.connection.isClosed))
  | .feed bytes => h.outside (·.feed bytes)
  | .endInput => h.outside (·.endInput)
  | .failInput error => h.outside (·.failInput error)
  | .widen n => h.outside (·.widen n)
  | .breakOutput => h.outside (·.breakOutput)
  | .failShutdown => h.outside (·.failShutdown)
  | .abort =>
    let (seen, (), h) := h.moved h.connection.abort
    (seen, .nothing, h)
  | .poll => h.answer .nothing
  | .select buffers =>
    if buffers.all (· < h.buffers.length) then answer { h with selection := buffers } .nothing
    else h.refuse .noBuffer
  | .clear => answer { h with selection := [] } .nothing
  | .selected => h.answer (.selection h.selection.length h.selection.isEmpty)
  | .setText i text =>
    match h.buffers[i]? with
    | some buffer => answer { h with buffers := h.buffers.set i (buffer.setText text) } .nothing
    | none => h.refuse .noBuffer
  | .label i =>
    match h.buffers[i]? with
    | some buffer => h.answer (.text buffer.label)
    | none => h.refuse .noBuffer
  | .dispatcher destination kind silent =>
    match destination with
    | .handle i =>
      h.withHeld h.handles i .noHandle fun handle => h.addDispatcher (.handle handle) kind silent
    | .closed => h.addDispatcher (.handle .closed) kind silent
    | .outbox => h.addDispatcher .outbox kind silent
  | .format i =>
    h.withHeld h.dispatchers i .noDispatcher fun d =>
      let (seen, n, h) := h.formatSelection d
      (seen, .number n, h)
  | .requestKind i =>
    h.withHeld h.dispatchers i .noDispatcher fun d => h.answer (.text d.kind)
  | .dropDispatcher i =>
    h.withHeld h.dispatchers i .noDispatcher fun _ =>
      answer { h with dispatchers := release h.dispatchers i } .nothing
  | .reply i reply =>
    match reply with
    | none => h.refuse .malformed
    | some reply =>
      match h.takePosted i with
      | .error reason => h.refuse reason
      | .ok (waiter, h) =>
        let (seen, (), h) := h.tell waiter reply
        (seen, .nothing, h)
  | .forget i =>
    match h.takePosted i with
    | .error reason => h.refuse reason
    | .ok (waiter, h) =>
      let (seen, (), h) := h.perform (.dropped waiter)
      (seen, .nothing, h)
  | .failures =>
    let (taken, h') := h.takeFailures
    h'.answer (.failures h.failures.isEmpty (presentFailures taken))
  | .register name scope action =>
    let (full, t) := h.table.register action name scope
    (h.setTable h.currentTable t).answer (.text full)
  | .invoke name =>
    let (seen, found, h) := h.invoke name
    (seen, .truth found, h)
  | .get name => h.answer (.action (h.table.get? name))
  | .addGroup names => (h.setTable h.currentTable (h.table.addGroup names)).answer .nothing
  | .toolbar => h.answer (.groups h.table.toolbar)
  | .dropTable => answer { h with tables := h.tables ++ [.empty] } .nothing
  | .plugin i settings =>
    match settings with
    | none => h.refuse .malformed
    | some settings =>
      h.withHeld h.dispatchers i .noDispatcher fun _ =>
        let p : Plugin := ⟨h.currentTable, settings, i, none⟩
        answer { h with plugins := h.plugins ++ [⟨p, true⟩] } (.number h.plugins.length)
  | .load i =>
    h.withHeld h.plugins i .noPlugin fun p =>
      let (seen, name, h) := h.load i p
      (seen, .text name, h)
  | .actionName i =>
    h.withHeld h.plugins i .noPlugin fun p => h.answer (.textOrNone p.actionName)
  | .dropPlugin i =>
    h.withHeld h.plugins i .noPlugin fun _ =>
      answer { h with plugins := release h.plugins i } .nothing
  | .describeSelection => h.answer (.text h.describeSelection)
  | .describeDispatcher i =>
    h.withHeld h.dispatchers i .noDispatcher fun d => h.answer (.text d.describe)
  | .describePlugin i =>
    h.withHeld h.plugins i .noPlugin fun p => h.answer (.text p.describe)
  | .describeRequest kind => h.answer (.text (describeRequest kind))
  | .describeConnection =>
    let fresh : Connection Waiter := .start "" .unlimited
    h.answer (.connection fresh.describe fresh.pending)
  | .unknown => h.refuse .unknownCommand

/-- Does one thing after the other without letting the connection go on. -/
def obeyAll (h : Host) : List Command → Did Unit
  | [] => ([], (), h)
  | command :: rest =>
    let (seen, _, h) := h.obey command
    let (later, (), h) := h.obeyAll rest
    (seen ++ later, (), h)

/-- Does what is asked and then, unless told to hold, lets the connection go on until it has to
    wait. -/
def step (h : Host) (command : Command) (hold : Bool) : Did Answer :=
  let (seen, answer, h) := h.obey command
  let h := h.updateConnected
  if hold then (seen, answer, h)
  else
    let (later, (), h) := h.settle
    (seen ++ later, answer, h)

/-! ## What was seen -/

/-- The places of the buffers that differ between two states of a host. -/
def changedBuffers (before after : Host) : List (Nat × Buffer) :=
  (after.buffers.zipIdx.filter fun (b, i) => before.buffers[i]? ≠ some b).map fun (b, i) => (i, b)

end Host

/-! ## The log as it is shown -/

/-- The buffer of an event that says that a buffer got no reply. -/
def LogEvent.abandonedBuffer? : LogEvent → Option String
  | .replyFailed buffer .absent => some buffer
  | _ => none

/-- Events in the order in which they are shown: buffers that got no reply all at once are listed
    by label. -/
def presentLog (events : List LogEvent) : List LogEvent :=
  Text.sortRuns (fun e => e.abandonedBuffer?.isSome) (fun e => e.abandonedBuffer?.getD "") events

end FormatBridge
