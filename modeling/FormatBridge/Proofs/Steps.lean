import FormatBridge.Proofs.Routing

set_option autoImplicit false

/-! # One step of a run

What a connection does when it makes a move is said once: `Advance` gives for each kind of move what
was seen before it, the connection behind it and what is added to the history. All that happens
outside leaves the work of the connection as it is (`Aside`). So a property of connections and
histories that holds at the start and that both keep holds in every state of every run
(`Kept.run`). -/

namespace FormatBridge

variable {κ : Type}

deriving instance DecidableEq for Phase

/-! ## What a connection does -/

/-- The message that asks for the request with a given number. -/
def Submission.message (session : String) (number : Nat) (s : Submission κ) : Message :=
  .request (requestId session number) s.kind session s.payload

namespace Connection

/-- Whether a move ends a connection well, and its reader then. -/
inductive Finishes (c : Connection κ) : Move κ → LineReader → Prop where
  | stop (done : c.accepting = false) : Finishes c .stop c.reader
  | ended {reader : LineReader} (step_eq : c.reader.step = some (.ended, reader)) :
    Finishes c (.read .ended reader) reader

/-- Whether a move ends a connection with an error, and its reader then. -/
inductive Fails (c : Connection κ) : Move κ → TransportError → LineReader → Prop where
  | write {text : String} {writer : Writer} {outlet : Outlet}
    (step_eq : c.writer.step c.outlet = some (.failed text, writer, outlet)) :
    Fails c (.write (.failed text) writer outlet) (.io text) c.reader
  | read {text : String} {reader : LineReader}
    (step_eq : c.reader.step = some (.failed text, reader)) :
    Fails c (.read (.failed text) reader) (.io text) reader
  | ended {reader : LineReader} (step_eq : c.reader.step = some (.ended, reader))
    (waiting : c.inFlight ≠ []) : Fails c (.read .ended reader) (.inputEnded c.pending) reader

/-- What is told and forgotten when a connection fails. -/
def farewell (c : Connection κ) : List (Effect κ) :=
  (if c.inFlight.isEmpty then []
    else .log (.requestsAbandoned c.pending) :: c.inFlight.map fun p => .reply p.2 none) ++
    c.queue.map fun s => .dropped s.waiter

theorem mem_farewell {c : Connection κ} {e : Effect κ} (h : e ∈ c.farewell) :
    e = .log (.requestsAbandoned c.pending) ∨ (∃ waiter, e = .reply waiter none) ∨
      ∃ waiter, e = .dropped waiter := by
  rcases List.mem_append.1 h with h | h
  · split at h
    · exact absurd h List.not_mem_nil
    · rcases List.mem_cons.1 h with rfl | h
      · exact .inl rfl
      · obtain ⟨p, -, rfl⟩ := List.mem_map.1 h
        exact .inr (.inl ⟨p.2, rfl⟩)
  · obtain ⟨s, -, rfl⟩ := List.mem_map.1 h
    exact .inr (.inr ⟨s.waiter, rfl⟩)

theorem leave_ok {c : Connection κ} (hquiet : c.inFlight = []) (hwriting : c.writing = true) :
    c.leave (.ok ()) =
      ([], { c with writer := { c.writer with closed := true }, phase := .draining }) := by
  simp [leave, abandon, hquiet, hwriting]

theorem leave_error (c : Connection κ) (error : TransportError) :
    c.leave (.error error) = (c.farewell, { c with
      queue := []
      inFlight := []
      writer := { c.writer with closed := true }
      phase := .ended (.error error) }) := by
  cases hflight : c.inFlight <;> simp [leave, farewell, abandon, conclude, hflight]

end Connection

/-- What is logged for a message that nobody waits for. -/
def Message.unclaimed (m : Message) : LogEvent :=
  match m.answers? with
  | none => .messageIgnored
  | some id => .replyUnmatched id

theorem Message.unclaimed_cases (m : Message) :
    m.unclaimed = .messageIgnored ∨ ∃ id, m.unclaimed = .replyUnmatched id := by
  unfold unclaimed
  split
  · exact .inl rfl
  · exact .inr ⟨_, rfl⟩

open Connection in
/-- A connection of a session and its history, before and behind a move. -/
inductive Advance (session : String) (c : Connection κ) (h : History κ) :
    Move κ → Connection κ → History κ → Prop where
  /-- The next request is taken up. -/
  | take {s : Submission κ} {rest : List (Submission κ)} (running : c.phase = .running)
    (accepting : c.accepting = true) (queue : c.queue = s :: rest) (ids : IdSource) :
    Advance session c h (.take s rest)
      { c with
        ids := ids
        queue := rest
        writer := c.writer.push (s.message session h.taken.length).line
        inFlight := c.inFlight ++ [(requestId session h.taken.length, s.waiter)] }
      { h.did [.log (.requestQueued (requestId session h.taken.length) s.kind)] with
        taken := h.taken ++ [⟨requestId session h.taken.length, s, h.messages.length⟩] }
  /-- No request can come any more. -/
  | close (running : c.phase = .running) (queue : c.queue = []) (alone : c.connected = false) :
    Advance session c h .seal { c with accepting := false }
      (h.did [.log (.handlesClosed c.pending)])
  | write {bytes : Bytes} {writer : Writer} {outlet : Outlet} (running : c.phase = .running)
    (step_eq : c.writer.step c.outlet = some (.wrote bytes, writer, outlet)) :
    Advance session c h (.write (.wrote bytes) writer outlet)
      { c with writer := writer, outlet := outlet } (h.did [.wrote bytes])
  /-- A part of a line or a blank one is read. -/
  | pass {reader : LineReader} (running : c.phase = .running)
    (step_eq : c.reader.step = some (.nothing, reader)) :
    Advance session c h (.read .nothing reader) { c with reader := reader } (h.did [])
  /-- A line is read that is no message. -/
  | skip {reader : LineReader} (running : c.phase = .running)
    (step_eq : c.reader.step = some (.undecodable, reader)) :
    Advance session c h (.read .undecodable reader) { c with reader := reader }
      (h.did [.log .messageUndecodable])
  /-- A message is read that nobody waits for. -/
  | ignore {m : Message} {reader : LineReader} (running : c.phase = .running)
    (step_eq : c.reader.step = some (.message m, reader))
    (unknown : ∀ id, m.answers? = some id → c.inFlight.lookup id = none) :
    Advance session c h (.read (.message m) reader) { c with reader := reader }
      { h.did [.log m.unclaimed] with messages := h.messages ++ [m] }
  /-- A message is read and given to whoever waits for it. -/
  | answer {m : Message} {reader : LineReader} {id : String} {waiter : κ}
    (running : c.phase = .running) (step_eq : c.reader.step = some (.message m, reader))
    (names : m.answers? = some id) (waits : c.inFlight.lookup id = some waiter) :
    Advance session c h (.read (.message m) reader)
      { c with reader := reader, inFlight := c.inFlight.filter (·.1 ≠ id) }
      { h.did [.log (.replyReceived id), .reply waiter (some m.toValue)] with
        messages := h.messages ++ [m] }
  /-- The connection ends well, and its writer goes on. -/
  | finish {m : Move κ} {reader : LineReader} (running : c.phase = .running)
    (quiet : c.inFlight = []) (finishes : c.Finishes m reader) :
    Advance session c h m
      { c with
        reader := reader
        writer := { c.writer with closed := true }
        phase := .draining }
      (h.did [])
  | fail {m : Move κ} {error : TransportError} {reader : LineReader} (running : c.phase = .running)
    (fails : c.Fails m error reader) (writing : Bool) :
    Advance session c h m
      { c with
        queue := []
        inFlight := []
        reader := reader
        writer := { c.writer with closed := true }
        writing := writing
        phase := .ended (.error error) }
      (h.did c.farewell)
  /-- The writer goes on behind the end. -/
  | flush {bytes : Bytes} {writer : Writer} {outlet : Outlet} (draining : c.phase = .draining)
    (step_eq : c.writer.step c.outlet = some (.wrote bytes, writer, outlet)) :
    Advance session c h (.drain (.wrote bytes) writer outlet)
      { c with writer := writer, outlet := outlet } (h.did [.wrote bytes])
  | shutDown (draining : c.phase = .draining)
    (step_eq : c.writer.step c.outlet = some (.finished, c.writer, c.outlet)) :
    Advance session c h (.drain .finished c.writer c.outlet)
      { c with queue := [], writing := false, phase := .ended (.ok ()) }
      (h.did (.shutDown :: c.queue.map fun s => .dropped s.waiter))
  /-- The writer fails behind the end. -/
  | giveUp {text : String} (draining : c.phase = .draining)
    (step_eq : c.writer.step c.outlet = some (.failed text, c.writer, c.outlet)) :
    Advance session c h (.drain (.failed text) c.writer c.outlet)
      { c with queue := [], writing := false, phase := .ended (.ok ()) }
      (h.did (.log (.shutdownFailed text) :: c.queue.map fun s => .dropped s.waiter))

namespace Advance

variable {session : String} {c : Connection κ} {h : History κ}

/-- A step that writes nothing changes nothing. -/
theorem writer_eq {w w' : Writer} {o o' : Outlet} {s : Writer.Step}
    (h : w.step o = some (s, w', o')) (hs : ∀ bytes, s ≠ .wrote bytes) : w' = w ∧ o' = o := by
  rcases Writer.step_cases h with ⟨-, -, rfl, rfl, -⟩ | ⟨-, -, rfl, rfl, -⟩ |
      ⟨-, -, n, -, -, -, -, rfl⟩
  · exact ⟨rfl, rfl⟩
  · exact ⟨rfl, rfl⟩
  · exact absurd rfl (hs _)

theorem of_write (hl : Ledger session c h) (hrun : c.phase = .running) {step : Writer.Step}
    {writer : Writer} {outlet : Outlet}
    (hstep : c.writer.step c.outlet = some (step, writer, outlet)) :
    Advance session c h (.write step writer outlet) (c.make (.write step writer outlet)).2
      (h.after c (.write step writer outlet)) := by
  cases step with
  | wrote bytes => exact .write hrun hstep
  | finished =>
    -- the writer cannot end while more may be handed to it
    have hopen := (hl.writing (Connection.isRunning_iff.2 hrun)).2
    exact absurd (Writer.closed_of_finished hstep).1 (by simp [hopen])
  | failed text =>
    obtain ⟨rfl, rfl⟩ := writer_eq hstep (by simp)
    have hmade : c.make (.write (.failed text) c.writer c.outlet) = _ :=
      Connection.leave_error { c with writing := false } (.io text)
    have hafter : h.after c (.write (.failed text) c.writer c.outlet) = h.did (c.make _).1 := rfl
    rw [hafter, hmade]
    exact .fail hrun (.write hstep) false

theorem of_read (hl : Ledger session c h) (hrun : c.phase = .running)
    {reading : LineReader.Reading} {reader : LineReader}
    (hstep : c.reader.step = some (reading, reader)) :
    Advance session c h (.read reading reader) (c.make (.read reading reader)).2
      (h.after c (.read reading reader)) := by
  cases reading with
  | nothing => exact .pass hrun hstep
  | undecodable => exact .skip hrun hstep
  | message m =>
    cases hm : m.answers? with
    | none =>
      have hmade : c.make (.read (.message m) reader) =
          ([.log m.unclaimed], { c with reader := reader }) := by
        simp [Connection.make, Connection.afterRead, Connection.route, Message.unclaimed, hm]
      rw [History.after, hmade]
      exact .ignore hrun hstep (by simp [hm])
    | some id =>
      cases hlookup : c.inFlight.lookup id with
      | none =>
        have hmade : c.make (.read (.message m) reader) =
            ([.log m.unclaimed], { c with reader := reader }) := by
          simp [Connection.make, Connection.afterRead, Connection.route, Message.unclaimed, hm,
            hlookup]
        rw [History.after, hmade]
        refine .ignore hrun hstep ?_
        intro id' hid'
        rw [hm] at hid'
        rw [← Option.some.inj hid', hlookup]
      | some waiter =>
        have hmade : c.make (.read (.message m) reader) =
            ([.log (.replyReceived id), .reply waiter (some m.toValue)],
              { c with reader := reader, inFlight := c.inFlight.filter (·.1 ≠ id) }) := by
          simp [Connection.make, Connection.afterRead, Connection.route, hm, hlookup]
        rw [History.after, hmade]
        exact .answer hrun hstep hm hlookup
  | failed text =>
    have hmade : c.make (.read (.failed text) reader) = _ :=
      Connection.leave_error { c with reader := reader } (.io text)
    have hafter : h.after c (.read (.failed text) reader) = h.did (c.make _).1 := rfl
    rw [hafter, hmade]
    exact .fail hrun (.read hstep) c.writing
  | ended =>
    have hafter : h.after c (.read .ended reader) = h.did (c.make _).1 := rfl
    by_cases hquiet : c.inFlight = []
    · have hwriting := (hl.writing (Connection.isRunning_iff.2 hrun)).1
      have hmade : c.make (.read .ended reader) = _ :=
        (congrArg _ (if_pos (List.isEmpty_iff.2 hquiet))).trans
          (Connection.leave_ok (c := { c with reader := reader }) hquiet hwriting)
      rw [hafter, hmade]
      exact .finish hrun hquiet (.ended hstep)
    · have hmade : c.make (.read .ended reader) = _ :=
        (congrArg _ (if_neg (fun h => hquiet (List.isEmpty_iff.1 h)))).trans
          (Connection.leave_error { c with reader := reader } (.inputEnded c.pending))
      rw [hafter, hmade]
      exact .fail hrun (.ended hstep hquiet) c.writing

theorem of_drain (hdrain : c.phase = .draining) {step : Writer.Step} {writer : Writer}
    {outlet : Outlet} (hstep : c.writer.step c.outlet = some (step, writer, outlet)) :
    Advance session c h (.drain step writer outlet) (c.make (.drain step writer outlet)).2
      (h.after c (.drain step writer outlet)) := by
  cases step with
  | wrote bytes => exact .flush hdrain hstep
  | finished =>
    obtain ⟨rfl, rfl⟩ := writer_eq hstep (by simp)
    exact .shutDown hdrain hstep
  | failed text =>
    obtain ⟨rfl, rfl⟩ := writer_eq hstep (by simp)
    exact .giveUp hdrain hstep

/-- **Every move is one of these.** -/
theorem of_next (hl : Ledger session c h) {m : Move κ} (hm : c.next? = some m) :
    Advance session c h m (c.make m).2 (h.after c m) := by
  cases Connection.chosen_of_next hm with
  | stop hrun hsealed hquiet =>
    have hwriting := (hl.writing (Connection.isRunning_iff.2 hrun)).1
    have hmade : c.make .stop = _ := Connection.leave_ok hquiet hwriting
    have hafter : h.after c .stop = h.did (c.make .stop).1 := rfl
    rw [hafter, hmade]
    exact .finish hrun hquiet (.stop hsealed)
  | @take s rest hrun haccepting hqueue =>
    have hid : c.ids.take.1 = requestId session h.taken.length := by rw [hl.source]; rfl
    have hmade : c.make (.take s rest) = _ := hl.take_eq hrun s rest
    rw [History.after, hmade, hid]
    exact .take hrun haccepting hqueue _
  | close hrun haccepting hqueue halone => exact .close hrun hqueue halone
  | write hrun hbusy hsettled hwriting hstep => exact of_write hl hrun hstep
  | read hrun hbusy hsettled hidle hstep => exact of_read hl hrun hstep
  | drain hdrain hstep => exact of_drain hdrain hstep

/-- A connection that has ended makes no move. -/
theorem phase_ne {c' : Connection κ} {h' : History κ} {m : Move κ}
    (ha : Advance session c h m c' h') (result : Except TransportError Unit) :
    c.phase ≠ .ended result := by
  cases ha <;> simp [*]

end Advance

/-! ## What happens outside -/

/-- A connection and its history, before and behind something that happens outside. What the
    connection has to do and has done stays as it is. -/
structure Aside (c : Connection κ) (h : History κ) (c' : Connection κ) (h' : History κ) : Prop where
  phase : c'.phase = c.phase
  inFlight : c'.inFlight = c.inFlight
  writer : c'.writer = c.writer
  taken : h'.taken = h.taken
  messages : h'.messages = h.messages
  /-- Only requests that are refused are forgotten. -/
  effects : ∃ waiters : List κ, h'.effects = h.effects ++ waiters.map .dropped

namespace Aside

variable {c c' : Connection κ} {h h' : History κ}

theorem of_quiet (hphase : c'.phase = c.phase) (hinFlight : c'.inFlight = c.inFlight)
    (hwriter : c'.writer = c.writer) : Aside c h c' h :=
  ⟨hphase, hinFlight, hwriter, rfl, rfl, [], (List.append_nil _).symm⟩

theorem replies (ha : Aside c h c' h') : h'.replies = h.replies := by
  obtain ⟨waiters, heffects⟩ := ha.effects
  rw [History.replies, heffects, Effect.replies_append]
  simp [Effect.replies, History.replies]

theorem answer? (ha : Aside c h c' h') (r : Taken κ) : h'.answer? r = h.answer? r := by
  rw [History.answer?, History.answer?, ha.messages]

end Aside

namespace Traffic

theorem aside_submit (t : Traffic κ) (s : Submission κ) :
    Aside t.connection t.history (t.submit s).connection (t.submit s).history := by
  unfold submit Connection.submit
  by_cases hc : t.connection.isClosed = true
  · simp only [hc, if_true]
    exact ⟨rfl, rfl, rfl, rfl, rfl, [s.waiter], rfl⟩
  · rw [if_neg hc]
    exact ⟨rfl, rfl, rfl, rfl, rfl, [], rfl⟩

/-- A request that is submitted to an open connection is queued, and one to a connection that is over
    is refused. -/
theorem connection_submit (t : Traffic κ) (s : Submission κ) : (t.submit s).connection =
    if t.connection.isClosed then t.connection
    else { t.connection with queue := t.connection.queue ++ [s] } := by
  unfold submit Connection.submit
  by_cases hc : t.connection.isClosed = true
  · simp only [hc, if_true]
  · rw [if_neg hc, if_neg hc]

/-- Of the connection, a submission changes nothing but the queue. -/
theorem submit_eq (t : Traffic κ) (s : Submission κ) : ∃ queue history,
    t.submit s = { t with
      connection := { t.connection with queue := queue }
      history := history } := by
  unfold submit Connection.submit
  by_cases hc : t.connection.isClosed = true
  · simp only [hc, if_true]
    exact ⟨t.connection.queue, _, rfl⟩
  · rw [if_neg hc]
    exact ⟨_, _, rfl⟩

/-- Of the connection, what is done with handles changes nothing but the queue and whether a handle is
    left. -/
theorem connection_meet (t : Traffic κ) {e : Event κ} (hpeer : ∀ p, e ≠ .peer p)
    (hturn : e ≠ .turn) : ∃ queue connected,
      (t.meet e).connection = { t.connection with queue := queue, connected := connected } := by
  cases e with
  | submit s =>
    simp only [meet]
    split
    · exact ⟨_, _, rfl⟩
    · obtain ⟨queue, history, heq⟩ := t.submit_eq s
      exact ⟨queue, t.connection.connected, congrArg connection heq⟩
  | clone =>
    simp only [meet]
    split <;> exact ⟨_, _, rfl⟩
  | drop =>
    simp only [meet]
    split <;> exact ⟨_, _, rfl⟩
  | peer p => exact absurd rfl (hpeer p)
  | turn => exact absurd rfl hturn

/-- **What happens outside changes nothing that a connection has to do or has done.** -/
theorem aside_meet (t : Traffic κ) {e : Event κ} (he : e ≠ .turn) :
    Aside t.connection t.history (t.meet e).connection (t.meet e).history := by
  cases e with
  | submit s =>
    simp only [meet]
    split
    · exact .of_quiet rfl rfl rfl
    · exact t.aside_submit s
  | clone =>
    simp only [meet]
    split <;> exact .of_quiet rfl rfl rfl
  | drop =>
    simp only [meet]
    split <;> exact .of_quiet rfl rfl rfl
  | peer e => cases e <;> exact .of_quiet rfl rfl rfl
  | turn => exact absurd rfl he

/-- What one event does: something outside, a turn that comes to nothing, or a move. -/
theorem meet_cases {session : String} {t : Traffic κ}
    (hl : Ledger session t.connection t.history) (e : Event κ) :
    Aside t.connection t.history (t.meet e).connection (t.meet e).history ∨
      ∃ m, e = .turn ∧ t.connection.next? = some m ∧ Advance session t.connection t.history m
        (t.meet e).connection (t.meet e).history := by
  by_cases he : e = .turn
  · subst he
    cases hm : t.connection.next? with
    | none =>
      left
      simp only [meet, turn, hm]
      exact .of_quiet rfl rfl rfl
    | some m =>
      refine .inr ⟨m, rfl, rfl, ?_⟩
      simp only [meet, turn, hm]
      exact .of_next hl hm
  · exact .inl (t.aside_meet he)

end Traffic

/-! ## Whole runs -/

/-- Whether a property of connections and their histories holds at the start and is kept. -/
structure Kept (session : String) (I : Connection κ → History κ → Prop) : Prop where
  start : ∀ outlet, I (.start session outlet) .empty
  aside : ∀ {c h c' h'}, I c h → Aside c h c' h' → I c' h'
  advance : ∀ {c h m c' h'}, Ledger session c h → I c h → Advance session c h m c' h' → I c' h'

/-- **What holds at the start and is kept holds all along.** -/
theorem Kept.run {session : String} {I : Connection κ → History κ → Prop} (hk : Kept session I)
    (outlet : Outlet) {script : List (Event κ)}
    (hfew : (Traffic.waiters script).length < Counter.size) :
    I (Traffic.run session outlet script).connection
      (Traffic.run session outlet script).history := by
  induction script using List.reverseRecOn with
  | nil => exact hk.start outlet
  | append_singleton script e ih =>
    rw [Traffic.waiters_append, List.length_append] at hfew
    have hl := @Traffic.ledger_run κ session outlet script (by omega)
    have hi := ih (by omega)
    rw [Traffic.run_append]
    rcases Traffic.meet_cases hl e with haside | ⟨m, -, -, hadvance⟩
    · exact hk.aside hi haside
    · exact hk.advance hl hi hadvance

namespace Traffic

/-- The moves that a connection makes in what happens next, in order. -/
def moves (t : Traffic κ) : List (Event κ) → List (Move κ)
  | [] => []
  | .turn :: script => t.connection.next?.toList ++ (t.meet .turn).moves script
  | e :: script => (t.meet e).moves script

theorem moves_append (t : Traffic κ) (script more : List (Event κ)) :
    t.moves (script ++ more) = t.moves script ++ (script.foldl meet t).moves more := by
  induction script generalizing t with
  | nil => rfl
  | cons e script ih => cases e <;> simp [moves, ih]

/-- Whether the connection makes a move of some kind in a run. -/
def Made (session : String) (outlet : Outlet) (script : List (Event κ))
    (kind : Move κ → Bool) : Prop :=
  ∃ m ∈ (start session outlet).moves script, kind m = true

variable {session : String} {outlet : Outlet} {script : List (Event κ)} {kind : Move κ → Bool}

instance : Decidable (Made session outlet script kind) :=
  inferInstanceAs (Decidable (∃ m ∈ _, _))

theorem Made.append (h : Made session outlet script kind) (more : List (Event κ)) :
    Made session outlet (script ++ more) kind := by
  obtain ⟨m, hm, hkind⟩ := h
  refine ⟨m, ?_, hkind⟩
  rw [moves_append]
  exact List.mem_append_left _ hm

theorem Made.turn {m : Move κ} (hm : (run session outlet script).connection.next? = some m)
    (hkind : kind m = true) : Made session outlet (script ++ [.turn]) kind := by
  refine ⟨m, ?_, hkind⟩
  rw [moves_append]
  exact List.mem_append_right _ (by simp only [moves]; rw [← run, hm]; simp)

end Traffic

end FormatBridge
