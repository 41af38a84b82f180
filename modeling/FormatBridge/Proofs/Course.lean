import FormatBridge.Proofs.Delivery
import FormatBridge.Proofs.Routing

set_option autoImplicit false

/-! # A host that is left to its backend

Once no handle is left, a connection takes up all requests before it writes or reads anything, so
every message is read after every request was taken up; and it fails only while some request waits
(`Alone`). A `Course` is a host in this state from then on: the peer does anything in any order, and
the connection makes its moves. -/

namespace FormatBridge

variable {κ : Type}

/-! ## A connection without handles -/

/-- What holds of a connection without handles and its history. -/
structure Alone (c : Connection κ) (h : History κ) : Prop where
  disconnected : c.connected = false
  first : c.accepting = true → c.phase = .running ∧ h.messages = []
  all : c.accepting = false → h.taken.map (·.request) = h.accepted
  since : ∀ r ∈ h.taken, r.since = 0
  failed : ∀ e, c.phase = .ended (.error e) → ∃ r ∈ h.taken, h.answer? r = none

namespace Alone

variable {session : String} {c c' : Connection κ} {h h' : History κ}

theorem of_same (ha : Alone c h) (htaken : h'.taken = h.taken) (hmessages : h'.messages = h.messages)
    (haccepted : h'.accepted = h.accepted) (hconnected : c'.connected = c.connected)
    (haccepting : c'.accepting = c.accepting)
    (hrunning : c'.accepting = true → c'.phase = .running)
    (hfailed : ∀ e, c'.phase = .ended (.error e) → ∃ r ∈ h.taken, h.answer? r = none) :
    Alone c' h' := by
  have hanswer : h'.answer? = h.answer? := by
    funext r
    rw [History.answer?, History.answer?, hmessages]
  exact
    { disconnected := by rw [hconnected]; exact ha.disconnected
      first := by
        intro hc
        refine ⟨hrunning hc, ?_⟩
        rw [hmessages]
        exact (ha.first (haccepting ▸ hc)).2
      all := by
        intro hc
        rw [htaken, haccepted]
        exact ha.all (haccepting ▸ hc)
      since := by rw [htaken]; exact ha.since
      failed := by rw [htaken, hanswer]; exact hfailed }

/-- Nothing is written or read before all requests are taken up. -/
theorem not_accepting (ha : Alone c h) (hsettled : c.accept? = none) : c.accepting = false := by
  cases hacc : c.accepting with
  | false => rfl
  | true =>
    obtain ⟨-, hconnected⟩ := Connection.accept?_eq_none_iff.1 hsettled hacc
    rw [ha.disconnected] at hconnected
    contradiction

/-- While the connection still has something to do, some request waits. -/
theorem exists_waiting (hl : Ledger session c h) (hbusy : c.isDone = false)
    (hacc : c.accepting = false) : ∃ r ∈ h.taken, h.answer? r = none := by
  have hne : c.inFlight ≠ [] := by
    intro hnil
    rw [Connection.isDone_iff.2 ⟨hacc, hnil⟩] at hbusy
    contradiction
  obtain ⟨p, hp⟩ := List.exists_mem_of_ne_nil _ hne
  rw [hl.inFlight] at hp
  obtain ⟨r, hr, -⟩ := List.mem_map.1 hp
  obtain ⟨htaken, hawaits⟩ := List.mem_filter.1 hr
  refine ⟨r, htaken, ?_⟩
  simp only [Connection.awaits, Bool.and_eq_true, Option.isNone_iff_eq_none] at hawaits
  exact hawaits.2

theorem leave_frame (c : Connection κ) (result : Except TransportError Unit) :
    (c.leave result).2.connected = c.connected ∧ (c.leave result).2.accepting = c.accepting ∧
      ∀ e, (c.leave result).2.phase = .ended (.error e) → result = .error e := by
  have habandon : c.abandon.2 = { c with inFlight := c.abandon.2.inFlight } := by
    unfold Connection.abandon
    split <;> rfl
  unfold Connection.leave
  simp only
  rw [habandon]
  cases result with
  | ok u =>
    dsimp only
    split <;> simp [Connection.conclude]
  | error error => simp [Connection.conclude]

theorem leave (ha : Alone c h) (hacc : c.accepting = false) (d : Connection κ)
    (result : Except TransportError Unit) (hconnected : d.connected = c.connected)
    (haccepting : d.accepting = c.accepting)
    (hfailed : ∀ e, result = .error e → ∃ r ∈ h.taken, h.answer? r = none) :
    Alone (d.leave result).2 (h.did (d.leave result).1) := by
  obtain ⟨hlconnected, hlaccepting, hlphase⟩ := leave_frame d result
  refine ha.of_same rfl rfl rfl (hlconnected.trans hconnected) (hlaccepting.trans haccepting) ?_ ?_
  · intro hc
    rw [hlaccepting, haccepting, hacc] at hc
    contradiction
  · intro e he
    exact hfailed e (hlphase e he)

theorem take (ha : Alone c h) (hl : Ledger session c h) (hrun : c.phase = .running)
    (haccepting : c.accepting = true) (s : Submission κ) (rest : List (Submission κ)) :
    Alone (c.make (.take s rest)).2 (h.after c (.take s rest)) := by
  have hempty := (ha.first haccepting).2
  have hmade : (c.make (.take s rest)).2 = (c.take s rest).2 := rfl
  rw [hl.take_eq hrun s rest] at hmade
  rw [hmade]
  exact
    { disconnected := ha.disconnected
      first := fun _ => ⟨hrun, hempty⟩
      all := by
        intro hc
        simp only [haccepting] at hc
        contradiction
      since := by
        -- nothing was read before the last request is taken up
        intro r hr
        rcases List.mem_append.1 hr with hr | hr
        · exact ha.since r hr
        · rw [List.mem_singleton.1 hr]
          simp [hempty]
      failed := by
        intro e he
        simp only [hrun] at he
        contradiction }

theorem close (ha : Alone c h) (hl : Ledger session c h) (hrun : c.phase = .running)
    (hqueue : c.queue = []) : Alone (c.make .seal).2 (h.after c .seal) := by
  have hqueued := hl.queued (Connection.isClosed_of_running hrun)
  rw [hqueue, List.append_nil] at hqueued
  exact
    { disconnected := ha.disconnected
      first := fun hc => by simp [Connection.make] at hc
      all := fun _ => hqueued
      since := ha.since
      failed := by
        intro e he
        simp only [Connection.make, hrun] at he
        contradiction }

theorem write (ha : Alone c h) (hl : Ledger session c h) (hrun : c.phase = .running)
    (hbusy : c.isDone = false) (hacc : c.accepting = false) (step : Writer.Step) (writer : Writer)
    (outlet : Outlet) :
    Alone (c.make (.write step writer outlet)).2 (h.after c (.write step writer outlet)) := by
  cases step with
  | wrote bytes =>
    refine ha.of_same rfl rfl rfl rfl rfl (fun _ => hrun) ?_
    intro e he
    simp only [Connection.make, Connection.afterWrite, hrun] at he
    contradiction
  | finished =>
    refine ha.of_same rfl rfl rfl rfl rfl (fun _ => hrun) ?_
    intro e he
    simp only [Connection.make, Connection.afterWrite, hrun] at he
    contradiction
  | failed error =>
    -- some request waits, since the connection would have stopped otherwise
    exact ha.leave hacc { c with writer := writer, outlet := outlet, writing := false } _ rfl rfl
      fun _ _ => exists_waiting hl hbusy hacc

theorem read_message (ha : Alone c h) (hrun : c.phase = .running) (hacc : c.accepting = false)
    (m : Message) (reader : LineReader) :
    Alone (c.make (.read (.message m) reader)).2 (h.after c (.read (.message m) reader)) := by
  have hmade : (c.make (.read (.message m) reader)).2 = { c with
      reader := reader
      inFlight := (c.make (.read (.message m) reader)).2.inFlight } := by
    simp only [Connection.make, Connection.afterRead, Connection.route]
    repeat' split
    all_goals rfl
  rw [hmade]
  exact
    { disconnected := ha.disconnected
      first := by
        intro hc
        simp only [hacc] at hc
        contradiction
      all := fun _ => ha.all hacc
      since := ha.since
      failed := by
        intro e he
        simp only [hrun] at he
        contradiction }

theorem read (ha : Alone c h) (hl : Ledger session c h) (hrun : c.phase = .running)
    (hbusy : c.isDone = false) (hacc : c.accepting = false) (reading : LineReader.Reading)
    (reader : LineReader) :
    Alone (c.make (.read reading reader)).2 (h.after c (.read reading reader)) := by
  cases reading with
  | message m => exact ha.read_message hrun hacc m reader
  | failed error =>
    exact ha.leave hacc { c with reader := reader } _ rfl rfl
      fun _ _ => exists_waiting hl hbusy hacc
  | ended =>
    exact ha.leave hacc { c with reader := reader } _ rfl rfl
      fun _ _ => exists_waiting hl hbusy hacc
  | _ =>
    refine ha.of_same rfl rfl rfl rfl rfl (fun _ => hrun) ?_
    intro e he
    simp only [Connection.make, Connection.afterRead, hrun] at he
    contradiction

theorem drain (ha : Alone c h) (hdrain : c.phase = .draining) (step : Writer.Step)
    (writer : Writer) (outlet : Outlet) :
    Alone (c.make (.drain step writer outlet)).2 (h.after c (.drain step writer outlet)) := by
  -- a connection that drains has left the running phase, and so has taken up everything
  have hacc : c.accepting = false := by
    cases hacc : c.accepting with
    | false => rfl
    | true =>
      have hrun := (ha.first hacc).1
      rw [hdrain] at hrun
      contradiction
  have hframe : (c.make (.drain step writer outlet)).2.accepting = c.accepting := by
    cases step <;> rfl
  refine ha.of_same rfl rfl rfl (by cases step <;> rfl) hframe ?_ ?_
  · intro hc
    rw [hframe, hacc] at hc
    contradiction
  · intro e he
    cases step <;>
      simp [Connection.make, Connection.afterDrain, Connection.conclude, hdrain] at he

/-- **Every move keeps it.** -/
theorem make (ha : Alone c h) (hl : Ledger session c h) {m : Move κ} (hm : c.next? = some m) :
    Alone (c.make m).2 (h.after c m) := by
  cases Connection.chosen_of_next hm with
  | stop hrun hsealed hquiet => exact ha.leave hsealed c _ rfl rfl (by simp)
  | take hrun haccepting hqueue => exact ha.take hl hrun haccepting _ _
  | close hrun haccepting hqueue halone => exact ha.close hl hrun hqueue
  | write hrun hbusy hsettled hwriting hstep =>
    exact ha.write hl hrun hbusy (ha.not_accepting hsettled) _ _ _
  | read hrun hbusy hsettled hidle hstep =>
    exact ha.read hl hrun hbusy (ha.not_accepting hsettled) _ _
  | drain hdrain hstep => exact ha.drain hdrain _ _ _

theorem peer (ha : Alone c h) (e : PeerEvent) : Alone (c.meet e) h := by
  cases e <;>
    exact ha.of_same rfl rfl rfl rfl rfl (fun hc => (ha.first hc).1) ha.failed

end Alone

/-! ## The course of a host -/

/-- What happens to a host that is left to its backend. -/
inductive Beat where
  | peer (event : PeerEvent)
  /-- The connection makes its next move. -/
  | turn
  deriving DecidableEq, Repr

/-- A host that is left to its backend. -/
structure Course where
  host : Host
  /-- What has happened on its connection. -/
  history : History Waiter

/-- What the peer does, as a command to the host. -/
def PeerEvent.command : PeerEvent → Command
  | .feed bytes => .feed bytes
  | .endInput => .endInput
  | .failInput error => .failInput error
  | .widen n => .widen n
  | .breakOutput => .breakOutput
  | .failShutdown => .failShutdown

namespace Course

/-- The course of a host from now on: what is queued was accepted, and nothing else has happened. -/
def start (h : Host) : Course := ⟨h, { History.empty with accepted := h.connection.queue }⟩

/-- A course after something has happened. -/
def meet (c : Course) : Beat → Course
  | .peer e => { c with host := { c.host with connection := c.host.connection.meet e } }
  | .turn =>
    match c.host.connection.next? with
    | none => c
    | some m => ⟨(c.host.moved (c.host.connection.make m)).2.2, c.history.after c.host.connection m⟩

/-- A whole course. -/
def run (h : Host) (script : List Beat) : Course := script.foldl meet (start h)

/-- A host that has just been left to its backend: its connection is new, and requests are queued. -/
structure Ready (session : String) (h : Host) : Prop where
  connection : ∃ outlet requests, h.connection =
    { Connection.start session outlet with queue := requests, connected := false }
  few : h.connection.queue.length < Counter.size

/-- What holds all along the course of the host `h`. -/
structure Holds (session : String) (h : Host) (c : Course) : Prop where
  ledger : Ledger session c.host.connection c.history
  alone : Alone c.host.connection c.history
  accepted : c.history.accepted = h.connection.queue
  host : c.host = { h.deliver c.history.replies with connection := c.host.connection }

variable {session : String} {h : Host}

theorem start_holds (hr : Ready session h) : Holds session h (start h) := by
  obtain ⟨outlet, requests, hconnection⟩ := hr.connection
  refine ⟨?_, ?_, rfl, rfl⟩
  · simp only [start, hconnection]
    exact
      { source := rfl
        numbered := rfl
        since_le := by simp [History.empty]
        accepted := List.nil_prefix
        queued := fun _ => rfl
        writing := fun _ => ⟨rfl, rfl⟩
        inFlight := rfl
        told := .refl _ }
  · simp only [start, hconnection]
    exact
      { disconnected := rfl
        first := fun _ => ⟨rfl, rfl⟩
        all := fun hc => by simp [Connection.start] at hc
        since := by simp [History.empty]
        failed := fun e he => by simp [Connection.start] at he }

theorem moved_eq (h : Host) (m : Moved Waiter) : (h.moved m).2.2 =
    { h.deliver (Effect.replies m.1) with connection := m.2 } := by
  rw [Host.moved, Host.performAll_host, Host.deliver_eq, Host.deliver_eq]
  rfl

theorem turn_eq {c : Course} {m : Move Waiter} (hm : c.host.connection.next? = some m) :
    (c.meet .turn).host.connection = (c.host.connection.make m).2 ∧
      (c.meet .turn).history = c.history.after c.host.connection m := by
  simp only [meet, hm, moved_eq, and_self]

theorem turn_self {c : Course} (hm : c.host.connection.next? = none) : c.meet .turn = c := by
  simp only [meet, hm]

theorem deliver_append (h : Host) (a b : List (Waiter × Option Json.Value)) :
    h.deliver (a ++ b) = (h.deliver a).deliver b := List.foldl_append

theorem deliver_connection (h : Host) (c : Connection Waiter)
    (replies : List (Waiter × Option Json.Value)) :
    Host.deliver { h with connection := c } replies =
      { h.deliver replies with connection := c } := by
  rw [Host.deliver_eq, Host.deliver_eq]
  rfl

theorem meet_holds {c : Course} (hr : Ready session h) (hc : Holds session h c) (b : Beat) :
    Holds session h (c.meet b) := by
  cases b with
  | peer e =>
    exact
      { ledger := hc.ledger.peer e
        alone := hc.alone.peer e
        accepted := hc.accepted
        host := by
          simp only [meet]
          rw [hc.host] }
  | turn =>
    simp only [meet]
    split
    · exact hc
    · rename_i m hm
      have hfew : c.history.accepted.length < Counter.size := by
        rw [hc.accepted]
        exact hr.few
      have hconnection : (c.host.moved (c.host.connection.make m)).2.2.connection =
          (c.host.connection.make m).2 := by rw [moved_eq]
      exact
        { ledger := by
            simp only [hconnection]
            exact hc.ledger.make hm hfew
          alone := by
            simp only [hconnection]
            exact hc.alone.make hc.ledger hm
          accepted := by
            simp only [History.accepted_after]
            exact hc.accepted
          host := by
            simp only [hconnection]
            rw [moved_eq, hc.host, History.replies_after, deliver_append, deliver_connection] }

/-- **The invariant of a whole course.** -/
theorem run_holds (hr : Ready session h) (script : List Beat) : Holds session h (run h script) := by
  induction script using List.reverseRecOn with
  | nil => exact start_holds hr
  | append_singleton script b ih =>
    rw [run, List.foldl_append]
    exact meet_holds hr ih b

/-! ## Going on until it has to wait -/

theorem run_append (h : Host) (a b : List Beat) :
    run h (a ++ b) = b.foldl meet (run h a) := List.foldl_append

/-- Letting the connection go on until it has to wait is making turns. -/
theorem settle_eq (c : Course) : ∃ n,
    c.host.settle.2.2 = ((List.replicate n Beat.turn).foldl meet c).host := by
  obtain ⟨h, history⟩ := c
  generalize hc : h.connection = connection
  induction connection using Connection.settle.induct generalizing h history with
  | case1 connection hnone =>
    refine ⟨0, ?_⟩
    subst hc
    rw [Host.settle, Connection.settle]
    split
    · simp [Host.moved, Host.performAll]
    · rename_i m hm
      rw [hnone] at hm
      contradiction
  | case2 connection m hm made ih =>
    -- the first move is a turn, and the rest is the course behind it
    subst hc
    have hconnection : (h.moved made).2.2.connection = made.2 := by rw [moved_eq]
    obtain ⟨n, hn⟩ := ih (h.moved made).2.2 (history.after h.connection m) hconnection
    refine ⟨n + 1, ?_⟩
    have hfirst : meet ⟨h, history⟩ .turn =
        ⟨(h.moved made).2.2, history.after h.connection m⟩ := by
      simp only [meet, hm]
      rfl
    rw [List.replicate_succ, List.foldl_cons, hfirst, ← hn]
    have hsettle : h.connection.settle = (made.1 ++ made.2.settle.1, made.2.settle.2) := by
      rw [Connection.settle]
      split
      · rename_i hnone
        rw [hm] at hnone
        contradiction
      · rename_i m' hm'
        rw [hm] at hm'
        obtain rfl := Option.some.inj hm'
        rfl
    have hlater := deliver_connection (h.deliver (Effect.replies made.1)) made.2
      (Effect.replies made.2.settle.1)
    rw [Host.settle, Host.settle, hconnection, hsettle, moved_eq, moved_eq, moved_eq,
      Effect.replies_append, deliver_append, hlater]

/-- A step of a host that is told what its peer has done goes on with its course. -/
theorem step_eq {c : Course} (hdisconnected : c.host.connection.connected = false) (e : PeerEvent) :
    ∃ n, (c.host.step e.command false).2.2 =
      ((Beat.peer e :: List.replicate n .turn).foldl meet c).host := by
  have hstep : (c.host.step e.command false).2.2 = (c.meet (.peer e)).host.settle.2.2 := by
    have hobey : (c.host.obey e.command).2.2.updateConnected = (c.meet (.peer e)).host := by
      have hpeer : (c.host.obey e.command).2.2 = (c.meet (.peer e)).host := by cases e <;> rfl
      have hsame : (c.meet (.peer e)).host.connection.disconnect =
          (c.meet (.peer e)).host.connection := by
        have hnone : (c.meet (.peer e)).host.connection.connected = false := by
          cases e <;> exact hdisconnected
        rw [Connection.disconnect, ← hnone]
      rw [hpeer, Host.updateConnected, hsame, ite_self]
    simp only [Host.step, Bool.false_eq_true, if_false]
    rw [hobey]
  rw [hstep]
  exact settle_eq (c.meet (.peer e))

/-! ## What comes of it -/

/-- What the buffers are told when each is told one thing, in order. -/
def told (answers : List (Option Json.Value)) : List (Waiter × Option Json.Value) :=
  answers.mapIdx fun i answer => (.buffer i true, answer)

/-- Whether a host asks once for each of its buffers, in order, to be formatted. -/
def AsksForAll (h : Host) (d : Dispatcher) : Prop :=
  d.reports = true ∧ h.connection.queue = (List.range h.buffers.length).filterMap (h.submission? d)

theorem submissions_eq (h : Host) (d : Dispatcher) :
    (List.range h.buffers.length).filterMap (h.submission? d) =
      h.buffers.mapIdx fun i b => ⟨d.kind, b.request.payload, .buffer i d.reports⟩ := by
  have hsome : ∀ i ∈ List.range h.buffers.length, h.submission? d i =
      (some ∘ fun i => (⟨d.kind, (h.buffers.getD i default).request.payload,
        .buffer i d.reports⟩ : Submission Waiter)) i := by
    intro i hi
    rw [List.mem_range] at hi
    simp [Host.submission?, hi]
  rw [List.filterMap_congr hsome, List.filterMap_eq_map]
  refine List.ext_getElem (by simp) ?_
  intro i hi hi'
  rw [List.length_map, List.length_range] at hi
  simp [hi]

theorem own_told (answers : List (Option Json.Value)) (i : Nat) :
    Host.own i (told answers) = answers[i]?.toList := by
  induction answers using List.reverseRecOn with
  | nil => rfl
  | append_singleton answers a ih =>
    rw [told, List.mapIdx_concat, Host.own, List.filterMap_append, List.getElem?_append]
    unfold told Host.own at ih
    rw [ih]
    by_cases hlt : i < answers.length
    · have hne : answers.length ≠ i := by omega
      simp [hlt, hne]
    · rw [if_neg hlt]
      by_cases heq : answers.length = i
      · simp [heq]
      · have hpos : i - answers.length ≠ 0 := by omega
        obtain ⟨k, hk⟩ := Nat.exists_eq_succ_of_ne_zero hpos
        have hnone : answers[i]? = none := by simp; omega
        simp [heq, hk, hnone]

/-- The buffers of a host once each was told one thing, in any order. -/
theorem buffers_told (h : Host) {answers : List (Option Json.Value)}
    {replies : List (Waiter × Option Json.Value)} (hperm : replies.Perm (told answers)) :
    (h.deliver replies).buffers =
      h.buffers.mapIdx fun i b => answers[i]?.elim b (b.receive ·) := by
  rw [Host.deliver_eq]
  refine List.ext_getElem? ?_
  intro i
  rw [List.getElem?_mapIdx, List.getElem?_mapIdx]
  have hown : (Host.own i replies).Perm answers[i]?.toList := by
    rw [← own_told]
    exact hperm.filterMap _
  cases ha : answers[i]? with
  | none =>
    rw [ha] at hown
    rw [hown.eq_nil]
    rfl
  | some a =>
    rw [ha] at hown
    rw [hown.eq_singleton]
    rfl

/-- Each buffer that is told something without code is reported once. -/
theorem length_failures_told (h : Host) {answers : List (Option Json.Value)}
    (hlen : answers.length ≤ h.buffers.length) :
    ((told answers).filterMap h.failure?).length = answers.countP fun a => !(classify a).isOk := by
  induction answers using List.reverseRecOn with
  | nil => rfl
  | append_singleton answers a ih =>
    rw [List.length_append, List.length_singleton] at hlen
    have hlt : answers.length < h.buffers.length := by omega
    rw [told, List.mapIdx_concat, List.filterMap_append, List.length_append, List.countP_append]
    unfold told at ih
    rw [ih (by omega)]
    cases hreply : classify a <;>
      simp [Host.failure?, Buffer.failure?, hlt, hreply, Except.isOk, Except.toBool]

namespace Holds

theorem failures {c : Course} (hc : Holds session h c) :
    c.host.failures = h.failures ++ c.history.replies.filterMap h.failure? := by
  rw [hc.host, Host.deliver_eq]

theorem buffers {c : Course} (hc : Holds session h c) {answers : List (Option Json.Value)}
    (hperm : c.history.replies.Perm (told answers)) :
    c.host.buffers = h.buffers.mapIdx fun i b => answers[i]?.elim b (b.receive ·) := by
  rw [hc.host]
  exact buffers_told h hperm

end Holds

/-- **What comes of a course.** Once the connection has ended, every request was taken up, and each
    waiter was told the answer to its own request, or that there is none; after an error, there is a
    request without an answer. -/
theorem told_of_ended {c : Course} (hc : Holds session h c) {d : Dispatcher}
    (hasks : AsksForAll h d) {result : Except TransportError Unit}
    (hended : c.host.connection.phase = .ended result) :
    let answers := c.history.taken.map fun r => (c.history.answer? r).map Message.toValue
    c.history.taken.map (·.request) = h.connection.queue ∧ answers.length = h.buffers.length ∧
      c.history.replies.Perm (told answers) ∧ ∀ e, result = .error e → none ∈ answers := by
  intro answers
  obtain ⟨hreports, hqueue⟩ := hasks
  have hstopped : c.host.connection.isRunning = false := by simp [Connection.isRunning, hended]
  have hsealed : c.host.connection.accepting = false := by
    cases hacc : c.host.connection.accepting with
    | false => rfl
    | true =>
      have hrun := (hc.alone.first hacc).1
      rw [hended] at hrun
      contradiction
  have htaken : c.history.taken.map (·.request) = h.connection.queue := by
    rw [hc.alone.all hsealed, hc.accepted]
  have hlen : answers.length = h.buffers.length := by
    have hlen := congrArg List.length htaken
    rw [hqueue, submissions_eq] at hlen
    simpa [answers] using hlen
  refine ⟨htaken, hlen, ?_, ?_⟩
  · have htold := hc.ledger.told
    have hall : (fun r => !c.host.connection.awaits c.history r) = fun _ => true := by
      funext r
      rw [Connection.awaits_of_not_running hstopped]
      rfl
    rw [hall, List.filter_true] at htold
    have heq : (c.history.taken.map fun r =>
        (r.request.waiter, (c.history.answer? r).map Message.toValue)) = told answers := by
      refine List.ext_getElem (by simp [told, answers]) ?_
      intro i hi hi'
      have hwaiter : (c.history.taken.map (·.request.waiter))[i]? = some (.buffer i true) := by
        have hmap : c.history.taken.map (·.request.waiter) =
            (c.history.taken.map (·.request)).map (·.waiter) := by rw [List.map_map]; rfl
        have hlt : i < h.buffers.length := by
          rw [← hlen]
          simpa [answers] using hi
        rw [hmap, htaken, hqueue, submissions_eq]
        simp [hreports, hlt]
      rw [List.length_map] at hi
      simp only [List.getElem?_map, List.getElem?_eq_getElem hi, Option.map_some,
        Option.some.injEq] at hwaiter
      simp [told, answers, hwaiter]
    rw [heq] at htold
    exact htold
  · rintro e rfl
    obtain ⟨r, hr, hnone⟩ := hc.alone.failed e hended
    refine List.mem_map.2 ⟨r, hr, ?_⟩
    rw [hnone, Option.map_none]

end Course

end FormatBridge
