import FormatBridge.Connection

set_option autoImplicit false

/-! # Runs of a connection

A run is a sequence of events in any order: requests are submitted over the handles that are left,
handles are cloned and dropped, the peer does something, or the connection makes its next move. Next
to the connection stands its `History`: what it has accepted, taken up, read and done so far. -/

namespace FormatBridge

variable {κ : Type}

/-! ## What a connection chooses -/

namespace Connection

/-- The move that a connection makes next, with what it has seen before it chose it. -/
inductive Chosen (c : Connection κ) : Move κ → Prop where
  | stop (running : c.phase = .running) (sealed : c.accepting = false) (quiet : c.inFlight = []) :
      Chosen c .stop
  | take {s : Submission κ} {rest : List (Submission κ)} (running : c.phase = .running)
      (accepting : c.accepting = true) (queue : c.queue = s :: rest) : Chosen c (.take s rest)
  | close (running : c.phase = .running) (accepting : c.accepting = true) (queue : c.queue = [])
      (alone : c.connected = false) : Chosen c .seal
  | write {step : Writer.Step} {writer : Writer} {outlet : Outlet} (running : c.phase = .running)
      (busy : c.isDone = false) (settled : c.accept? = none) (writing : c.writing = true)
      (step_eq : c.writer.step c.outlet = some (step, writer, outlet)) :
      Chosen c (.write step writer outlet)
  | read {reading : LineReader.Reading} {reader : LineReader} (running : c.phase = .running)
      (busy : c.isDone = false) (settled : c.accept? = none) (idle : c.write? = none)
      (step_eq : c.reader.step = some (reading, reader)) : Chosen c (.read reading reader)
  | drain {step : Writer.Step} {writer : Writer} {outlet : Outlet} (draining : c.phase = .draining)
      (step_eq : c.writer.step c.outlet = some (step, writer, outlet)) :
      Chosen c (.drain step writer outlet)

theorem isDone_iff {c : Connection κ} :
    c.isDone = true ↔ c.accepting = false ∧ c.inFlight = [] := by
  simp [isDone]

/-- Nothing is to be accepted: nothing more can come, or all that has come is taken up. -/
theorem accept?_eq_none_iff {c : Connection κ} :
    c.accept? = none ↔ c.accepting = true → c.queue = [] ∧ c.connected = true := by
  unfold accept?
  constructor
  · intro h hacc
    rw [if_pos hacc] at h
    split at h
    · simp at h
    · rename_i hq
      split at h
      · rename_i hc
        exact ⟨hq, hc⟩
      · simp at h
  · intro h
    split
    · rename_i hacc
      obtain ⟨hq, hc⟩ := h hacc
      simp [hq, hc]
    · rfl

theorem chosen_of_accept {c : Connection κ} {m : Move κ} (hp : c.phase = .running)
    (h : c.accept? = some m) : c.Chosen m := by
  unfold accept? at h
  split at h
  · rename_i hacc
    split at h
    · rename_i s rest hq
      obtain rfl := Option.some.inj h
      exact .take hp hacc hq
    · rename_i hq
      split at h
      · simp at h
      · rename_i hc
        obtain rfl := Option.some.inj h
        exact .close hp hacc hq (by simpa using hc)
  · simp at h

theorem chosen_of_next {c : Connection κ} {m : Move κ} (h : c.next? = some m) : c.Chosen m := by
  unfold next? at h
  split at h
  · rename_i hp
    split at h
    · rename_i hdone
      obtain rfl := Option.some.inj h
      obtain ⟨hacc, hquiet⟩ := isDone_iff.1 hdone
      exact .stop hp hacc hquiet
    rename_i hdone
    have hbusy : c.isDone = false := by simpa using hdone
    split at h
    · rename_i ha
      exact chosen_of_accept hp (ha.trans h)
    rename_i hsettled
    split at h
    · rename_i hw
      obtain rfl := Option.some.inj h
      unfold write? at hw
      split at hw
      · rename_i hwriting
        simp only [Option.map_eq_some_iff, Prod.exists] at hw
        obtain ⟨step, writer, outlet, hs, rfl⟩ := hw
        exact .write hp hbusy hsettled hwriting hs
      · simp at hw
    · rename_i hidle
      simp only [read?, Option.map_eq_some_iff, Prod.exists] at h
      obtain ⟨reading, reader, hs, rfl⟩ := h
      exact .read hp hbusy hsettled hidle hs
  · rename_i hp
    simp only [drain?, Option.map_eq_some_iff, Prod.exists] at h
    obtain ⟨step, writer, outlet, hs, rfl⟩ := h
    exact .drain hp hs
  · simp at h
  · simp at h

/-- A running connection waits only when it can do nothing at all. -/
theorem waits_of_running {c : Connection κ} (hp : c.phase = .running) (h : c.next? = none) :
    c.isDone = false ∧ c.accept? = none ∧ c.write? = none ∧ c.read? = none := by
  unfold next? at h
  simp only [hp] at h
  split at h
  · simp at h
  rename_i hdone
  split at h
  · simp at h
  rename_i hsettled
  split at h
  · simp at h
  · rename_i hidle
    exact ⟨by simpa using hdone, hsettled, hidle, h⟩

end Connection

/-! ## What has happened -/

/-- A request that was taken up. -/
structure Taken (κ : Type) where
  id : String
  request : Submission κ
  /-- How many messages had been read then. -/
  since : Nat

/-- Who is told what, in order. -/
def Effect.replies (effects : List (Effect κ)) : List (κ × Option Json.Value) :=
  effects.filterMap fun
    | .reply waiter told => some (waiter, told)
    | _ => none

theorem Effect.replies_append (a b : List (Effect κ)) :
    Effect.replies (a ++ b) = Effect.replies a ++ Effect.replies b := List.filterMap_append

/-- What has happened on a connection. -/
structure History (κ : Type) where
  /-- The requests that were accepted, in order. -/
  accepted : List (Submission κ)
  /-- The requests that were taken up, in order. -/
  taken : List (Taken κ)
  /-- The messages that were read, in order. -/
  messages : List Message
  /-- What the connection has done, in order. -/
  effects : List (Effect κ)

namespace History

/-- Nothing has happened. -/
def empty : History κ := ⟨[], [], [], []⟩

/-- The first message read after a request was taken up that names its id. -/
def answer? (h : History κ) (r : Taken κ) : Option Message :=
  (h.messages.drop r.since).find? fun m => m.answers? = some r.id

/-- Who was told what, in order. -/
def replies (h : History κ) : List (κ × Option Json.Value) := Effect.replies h.effects

/-- What a waiter was told, in order. -/
def told [DecidableEq κ] (h : History κ) (waiter : κ) : List (Option Json.Value) :=
  (h.replies.filter (·.1 = waiter)).map (·.2)

/-- The connection has done something. -/
def did (h : History κ) (effects : List (Effect κ)) : History κ :=
  { h with effects := h.effects ++ effects }

/-- What has happened once the connection `c` has made a move. -/
def after (h : History κ) (c : Connection κ) (m : Move κ) : History κ :=
  match m with
  | .take s _ => { h.did (c.make m).1 with
      taken := h.taken ++ [⟨c.ids.take.1, s, h.messages.length⟩] }
  | .read (.message message) _ => { h.did (c.make m).1 with
      messages := h.messages ++ [message] }
  | _ => h.did (c.make m).1

@[simp]
theorem replies_did (h : History κ) (effects : List (Effect κ)) :
    (h.did effects).replies = h.replies ++ Effect.replies effects :=
  Effect.replies_append h.effects effects

@[simp]
theorem effects_after (h : History κ) (c : Connection κ) (m : Move κ) :
    (h.after c m).effects = h.effects ++ (c.make m).1 := by
  unfold after
  split <;> rfl

@[simp]
theorem accepted_after (h : History κ) (c : Connection κ) (m : Move κ) :
    (h.after c m).accepted = h.accepted := by
  unfold after
  split <;> rfl

theorem replies_after (h : History κ) (c : Connection κ) (m : Move κ) :
    (h.after c m).replies = h.replies ++ Effect.replies (c.make m).1 := by
  rw [replies, effects_after, Effect.replies_append]
  rfl

end History

/-! ## Events -/

/-- What the peer does. -/
inductive PeerEvent where
  | feed (bytes : Bytes)
  | endInput
  /-- Its output fails once. -/
  | failInput (error : String)
  /-- It takes more bytes, or any number from now on. -/
  | widen (n : Option Nat)
  /-- Its input fails from now on. -/
  | breakOutput
  /-- Its input will fail to be shut down. -/
  | failShutdown
  deriving DecidableEq, Repr

/-- The connection after the peer has done something. -/
def Connection.meet (c : Connection κ) : PeerEvent → Connection κ
  | .feed bytes => c.feed bytes
  | .endInput => c.endInput
  | .failInput error => c.failInput error
  | .widen n => c.widen n
  | .breakOutput => c.breakOutput
  | .failShutdown => c.failShutdown

/-- What happens in a run. -/
inductive Event (κ : Type) where
  /-- A request is submitted over one of the handles. -/
  | submit (request : Submission κ)
  | clone
  | drop
  | peer (event : PeerEvent)
  /-- The connection makes its next move. -/
  | turn

/-- A connection in a run. -/
structure Traffic (κ : Type) where
  connection : Connection κ
  handles : Nat
  history : History κ

namespace Traffic

/-- A new connection with one handle. -/
def start (session : String) (outlet : Outlet) : Traffic κ :=
  ⟨.start session outlet, 1, .empty⟩

/-- A request is submitted. -/
def submit (t : Traffic κ) (s : Submission κ) : Traffic κ :=
  match t.connection.submit s.kind s.payload s.waiter with
  | (.ok (), effects, c) => { t with
      connection := c
      history := { t.history.did effects with accepted := t.history.accepted ++ [s] } }
  | (.error _, effects, c) => { t with connection := c, history := t.history.did effects }

/-- The connection makes its next move, if it has one. -/
def turn (t : Traffic κ) : Traffic κ :=
  match t.connection.next? with
  | none => t
  | some m => { t with
      connection := (t.connection.make m).2
      history := t.history.after t.connection m }

/-- A run after another event. Nothing can be done with a handle when none is left. -/
def meet (t : Traffic κ) : Event κ → Traffic κ
  | .submit s => if t.handles = 0 then t else t.submit s
  | .clone => if t.handles = 0 then t else { t with handles := t.handles + 1 }
  | .drop =>
    match t.handles with
    | 0 => t
    | 1 => { t with handles := 0, connection := t.connection.disconnect }
    | n + 2 => { t with handles := n + 1 }
  | .peer e => { t with connection := t.connection.meet e }
  | .turn => t.turn

/-- A whole run. -/
def run (session : String) (outlet : Outlet) (script : List (Event κ)) : Traffic κ :=
  script.foldl meet (start session outlet)

/-- The waiters of the requests that a script submits. -/
def waiters (script : List (Event κ)) : List κ :=
  script.filterMap fun
    | .submit s => some s.waiter
    | _ => none

end Traffic

end FormatBridge
