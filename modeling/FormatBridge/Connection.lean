import FormatBridge.Connection.Writer
import FormatBridge.LineReader
import FormatBridge.Log
import FormatBridge.RequestId

set_option autoImplicit false

/-! # One connection to a backend

A connection takes requests from any number of handles, numbers them, writes them in order, reads
what comes back, and gives each reply to whoever waits for that request. It ends when no handle and
no request in flight is left, when the backend closes its output, or when reading or writing fails;
whoever still waits then gets no reply.

The connection is a transition system. What happens outside (`submit`, `feed`, `widen`, …) only
changes what the connection will find; `next?` is the move that the connection itself makes then,
the first of these that is possible: stop, take a request, write, read. `make` makes it, and `settle`
makes moves until none is possible. Everything that leaves the connection (log events, written
bytes, replies) is an `Effect`, in the order in which it happens. The type `κ` stands for whoever
waits for a reply. -/

namespace FormatBridge

open Json (Value)

/-! ## State -/

/-- A request that was accepted and not taken up yet. -/
structure Submission (κ : Type) where
  kind : String
  payload : Value
  /-- Who waits for the reply. -/
  waiter : κ

/-- Where a connection stands. -/
inductive Phase where
  /-- Requests are taken up and replies are read. -/
  | running
  /-- It ended well, and what was handed to the writer is still being written. -/
  | draining
  | ended (result : Except TransportError Unit)
  /-- It was given up from outside. -/
  | aborted

/-- What a connection does to the world around it. -/
inductive Effect (κ : Type) where
  | log (event : LogEvent)
  | wrote (bytes : Bytes)
  | shutDown
  /-- A waiter is told the reply to its request, or that there will be none. -/
  | reply (waiter : κ) (reply : Option Value)
  /-- A waiter is forgotten without being told anything. -/
  | dropped (waiter : κ)

/-- A connection. -/
structure Connection (κ : Type) where
  ids : IdSource
  /-- The requests that were accepted and not taken up, oldest first. -/
  queue : List (Submission κ)
  /-- Who waits for the reply to which request, oldest first. -/
  inFlight : List (String × κ)
  /-- The bytes on their way out. -/
  writer : Writer
  /-- Whether the writer is still at work. -/
  writing : Bool
  /-- The peer's side of the output. -/
  outlet : Outlet
  reader : LineReader
  /-- Whether any handle is left. -/
  connected : Bool
  /-- Whether requests are still taken up. -/
  accepting : Bool
  phase : Phase

/-- A move that a connection makes by itself. -/
inductive Move (κ : Type) where
  /-- It ends well, because no request can come any more and none is in flight. -/
  | stop
  /-- It takes up the request `s`; `rest` are left. -/
  | take (s : Submission κ) (rest : List (Submission κ))
  /-- It sees that no handle is left. -/
  | seal
  | write (step : Writer.Step) (writer : Writer) (outlet : Outlet)
  /-- Its writer makes a step after a good end. -/
  | drain (step : Writer.Step) (writer : Writer) (outlet : Outlet)
  | read (reading : LineReader.Reading) (reader : LineReader)

/-- What a move gives: its effects and the connection behind it. -/
abbrev Moved (κ : Type) := List (Effect κ) × Connection κ

namespace Connection

variable {κ : Type}

/-- A new connection with one handle. -/
def start (session : String) (outlet : Outlet) : Connection κ where
  ids := .ofSession session
  queue := []
  inFlight := []
  writer := .empty
  writing := true
  outlet := outlet
  reader := .empty
  connected := true
  accepting := true
  phase := .running

/-- How many requests are in flight. -/
def pending (c : Connection κ) : Nat := c.inFlight.length

/-- Whether requests are refused. -/
def isClosed (c : Connection κ) : Bool :=
  match c.phase with
  | .running | .draining => false
  | .ended _ | .aborted => true

/-! ## Leaving -/

/-- Tells everyone who still waits that there will be no reply. -/
def abandon (c : Connection κ) : Moved κ :=
  if c.inFlight.isEmpty then ([], c)
  else
    (.log (.requestsAbandoned c.pending) :: c.inFlight.map fun (_, k) => .reply k none,
      { c with inFlight := [] })

/-- Ends with a result; requests that were not taken up are forgotten. -/
def conclude (c : Connection κ) (result : Except TransportError Unit) : Moved κ :=
  (c.queue.map fun s => .dropped s.waiter, { c with queue := [], phase := .ended result })

/-- Stops taking requests and reading. After a good end the writer still finishes what it has;
    after an error nothing more is written. -/
def leave (c : Connection κ) (result : Except TransportError Unit) : Moved κ :=
  let (told, c) := c.abandon
  let c := { c with writer := { c.writer with closed := true } }
  match result with
  | .ok () =>
    if c.writing then (told, { c with phase := .draining })
    else
      let (dropped, c) := c.conclude result
      (told ++ dropped, c)
  | .error _ =>
    let (dropped, c) := c.conclude result
    (told ++ dropped, c)

/-! ## Taking requests -/

/-- Registers who waits for the reply to the request `id`; whoever was registered for the same id
    is forgotten. -/
def register (c : Connection κ) (id : String) (waiter : κ) : Moved κ :=
  ((c.inFlight.filter (·.1 = id)).map fun (_, k) => .dropped k,
    { c with inFlight := c.inFlight.filter (·.1 ≠ id) ++ [(id, waiter)] })

/-- Takes up the request `s`: it gets an id, its line is handed to the writer, and its waiter is
    registered. When nothing can be written any more, its waiter gets no reply. -/
def take (c : Connection κ) (s : Submission κ) (rest : List (Submission κ)) : Moved κ :=
  let (id, ids) := c.ids.take
  let c := { c with ids := ids, queue := rest }
  if c.writing then
    let line := (Message.request id s.kind ids.session s.payload).line
    let (dropped, c) := { c with writer := c.writer.push line }.register id s.waiter
    (.log (.requestQueued id s.kind) :: dropped, c)
  else ([.log (.requestUnwritable id s.kind), .reply s.waiter none], c)

/-! ## Writing -/

/-- The writer has made a step while the connection runs. It cannot end well here, because more may
    still be handed to it; when it fails, so does the connection. -/
def afterWrite (c : Connection κ) (step : Writer.Step) (writer : Writer) (outlet : Outlet) :
    Moved κ :=
  let c := { c with writer := writer, outlet := outlet }
  match step with
  | .wrote bytes => ([.wrote bytes], c)
  | .finished => ([.shutDown], { c with writing := false })
  | .failed error => { c with writing := false }.leave (.error (.io error))

/-- The writer has made a step after a good end. A failure is only logged now. -/
def afterDrain (c : Connection κ) (step : Writer.Step) (writer : Writer) (outlet : Outlet) :
    Moved κ :=
  let c := { c with writer := writer, outlet := outlet }
  let (effect, done) : Effect κ × Bool :=
    match step with
    | .wrote bytes => (.wrote bytes, false)
    | .finished => (.shutDown, true)
    | .failed error => (.log (.shutdownFailed error), true)
  if done then
    let (dropped, c) := { c with writing := false }.conclude (.ok ())
    (effect :: dropped, c)
  else ([effect], c)

/-! ## Reading -/

/-- Gives a message to whoever waits for it. -/
def route (c : Connection κ) (m : Message) : Moved κ :=
  match m.answers? with
  | none => ([.log .messageIgnored], c)
  | some id =>
    match c.inFlight.lookup id with
    | some waiter =>
      ([.log (.replyReceived id), .reply waiter (some m.toValue)],
        { c with inFlight := c.inFlight.filter (·.1 ≠ id) })
    | none => ([.log (.replyUnmatched id)], c)

/-- The reader has made a step: it has a line, an error or the end. -/
def afterRead (c : Connection κ) (reading : LineReader.Reading) (reader : LineReader) : Moved κ :=
  let c := { c with reader := reader }
  match reading with
  | .nothing => ([], c)
  | .message m => c.route m
  | .undecodable => ([.log .messageUndecodable], c)
  | .failed error => c.leave (.error (.io error))
  | .ended => c.leave (if c.inFlight.isEmpty then .ok () else .error (.inputEnded c.pending))

/-! ## Moves -/

/-- Whether no request can come any more and none is in flight. -/
def isDone (c : Connection κ) : Bool := !c.accepting && c.inFlight.isEmpty

/-- Takes up the next request, or sees that none can come any more. -/
def accept? (c : Connection κ) : Option (Move κ) :=
  if c.accepting then
    match c.queue with
    | s :: rest => some (.take s rest)
    | [] => if c.connected then none else some .seal
  else none

/-- Lets the writer make a step. -/
def write? (c : Connection κ) : Option (Move κ) :=
  if c.writing then
    (c.writer.step c.outlet).map fun (step, writer, outlet) => .write step writer outlet
  else none

/-- Lets the writer make a step after a good end. -/
def drain? (c : Connection κ) : Option (Move κ) :=
  (c.writer.step c.outlet).map fun (step, writer, outlet) => .drain step writer outlet

/-- Lets the reader make a step. -/
def read? (c : Connection κ) : Option (Move κ) :=
  c.reader.step.map fun (reading, reader) => .read reading reader

/-- The first move that is possible of stopping, taking a request, writing and reading; `none` when
    the connection has to wait, or is over. -/
def next? (c : Connection κ) : Option (Move κ) :=
  match c.phase with
  | .running =>
    if c.isDone then some .stop
    else
      match c.accept? with
      | some move => some move
      | none =>
        match c.write? with
        | some move => some move
        | none => c.read?
  | .draining => c.drain?
  | .ended _ | .aborted => none

/-- Makes a move. -/
def make (c : Connection κ) : Move κ → Moved κ
  | .stop => c.leave (.ok ())
  | .take s rest => c.take s rest
  | .seal => ([.log (.handlesClosed c.pending)], { c with accepting := false })
  | .write step writer outlet => c.afterWrite step writer outlet
  | .drain step writer outlet => c.afterDrain step writer outlet
  | .read reading reader => c.afterRead reading reader

/-! ### Every move comes closer to the end -/

/-- How far the phase is from the end. -/
def Phase.rank : Phase → Nat
  | .running => 2
  | .draining => 1
  | .ended _ | .aborted => 0

/-- What is left to be done, in the order in which it is done. -/
def work (c : Connection κ) : Nat × Nat × Nat × Nat × Nat :=
  (Phase.rank c.phase, c.queue.length, c.accepting.toNat,
    c.writing.toNat + c.writer.unsent.length, c.reader.size)

/-- Less work: the order on `work`, leftmost component first. -/
def Less : Nat × Nat × Nat × Nat × Nat → Nat × Nat × Nat × Nat × Nat → Prop :=
  WellFoundedRelation.rel

theorem rank_leave (c : Connection κ) (result : Except TransportError Unit) :
    Phase.rank (c.leave result).2.phase ≤ 1 := by
  unfold leave abandon conclude
  cases result <;> dsimp only <;> repeat' split
  all_goals simp [Phase.rank]

theorem less_of_rank {a b : Nat × Nat × Nat × Nat × Nat} (h : a.1 < b.1) : Less a b :=
  Prod.Lex.left _ _ h

theorem less_leave {c d : Connection κ} {result : Except TransportError Unit}
    (hd : d.phase = .running) : Less (c.leave result).2.work d.work := by
  refine less_of_rank ?_
  simp only [work, hd, Phase.rank]
  exact Nat.lt_succ_of_le (rank_leave c result)

theorem take_phase (c : Connection κ) (s : Submission κ) (rest : List (Submission κ)) :
    (c.take s rest).2.phase = c.phase ∧ (c.take s rest).2.queue = rest := by
  unfold take register
  dsimp only
  split <;> simp

theorem less_accept {c : Connection κ} {m : Move κ} (hp : c.phase = .running)
    (h : c.accept? = some m) : Less (c.make m).2.work c.work := by
  unfold accept? at h
  split at h
  · rename_i hacc
    split at h
    · rename_i s rest hq
      obtain rfl := Option.some.inj h
      have ht := take_phase c s rest
      simp only [make, work, ht.1, ht.2, hq]
      exact .right _ (.left _ _ (Nat.lt_succ_self _))
    · rename_i hq
      split at h
      · simp at h
      · obtain rfl := Option.some.inj h
        simp only [make, work, hacc, hq, hp]
        exact .right _ (.right _ (.left _ _ Nat.zero_lt_one))
  · simp at h

theorem less_write {c : Connection κ} {m : Move κ} (hp : c.phase = .running)
    (h : c.write? = some m) : Less (c.make m).2.work c.work := by
  unfold write? at h
  split at h
  · rename_i hw
    simp only [Option.map_eq_some_iff, Prod.exists] at h
    obtain ⟨step, writer, outlet, hs, rfl⟩ := h
    cases step with
    | wrote bytes =>
      have := Writer.unsent_of_wrote hs
      simp only [make, afterWrite, work]
      exact .right _ (.right _ (.right _ (.left _ _ (Nat.add_lt_add_left this _))))
    | finished =>
      have hu : writer.unsent = c.writer.unsent := by
        rcases Writer.step_cases hs with ⟨-, -, rfl, -⟩ | ⟨-, -, rfl, -⟩ | ⟨-, -, n, -, -, -, -, hs⟩
        · rfl
        · rfl
        · contradiction
      simp only [make, afterWrite, work, hw, hu]
      exact .right _ (.right _ (.right _ (.left _ _
        (Nat.add_lt_add_right Nat.zero_lt_one _))))
    | failed error => exact less_leave hp
  · simp at h

/-- Reading leaves less to be read, or it ends the connection. -/
theorem less_afterRead {c : Connection κ} (hp : c.phase = .running) {reading : LineReader.Reading}
    {reader : LineReader} (small : reading ≠ .ended → reader.size < c.reader.size) :
    Less (c.afterRead reading reader).2.work c.work := by
  cases reading with
  | nothing => exact .right _ (.right _ (.right _ (.right _ (small (by simp)))))
  | message m =>
    have hc : (c.afterRead (.message m) reader).2 =
        { c with reader := reader,
                 inFlight := (c.afterRead (.message m) reader).2.inFlight } := by
      simp only [afterRead, route]
      repeat' split
      all_goals rfl
    rw [hc]
    exact .right _ (.right _ (.right _ (.right _ (small (by simp)))))
  | undecodable => exact .right _ (.right _ (.right _ (.right _ (small (by simp)))))
  | failed error => exact less_leave hp
  | ended => exact less_leave hp

theorem less_read {c : Connection κ} {m : Move κ} (hp : c.phase = .running)
    (h : c.read? = some m) : Less (c.make m).2.work c.work := by
  unfold read? at h
  simp only [Option.map_eq_some_iff, Prod.exists] at h
  obtain ⟨reading, reader, hs, rfl⟩ := h
  exact less_afterRead hp (LineReader.size_step hs)

theorem less_drain {c : Connection κ} {m : Move κ} (hp : c.phase = .draining)
    (h : c.drain? = some m) : Less (c.make m).2.work c.work := by
  unfold drain? at h
  simp only [Option.map_eq_some_iff, Prod.exists] at h
  obtain ⟨step, writer, outlet, hs, rfl⟩ := h
  cases step with
  | wrote bytes =>
    have := Writer.unsent_of_wrote hs
    exact .right _ (.right _ (.right _ (.left _ _ (Nat.add_lt_add_left this _))))
  | finished => exact less_of_rank (by simp [make, afterDrain, work, conclude, hp, Phase.rank])
  | failed error => exact less_of_rank (by simp [make, afterDrain, work, conclude, hp, Phase.rank])

theorem less_make {c : Connection κ} {m : Move κ} (h : c.next? = some m) :
    Less (c.make m).2.work c.work := by
  unfold next? at h
  split at h
  · rename_i hp
    split at h
    · obtain rfl := Option.some.inj h
      exact less_leave hp
    · split at h
      · rename_i ha
        exact less_accept hp (ha.trans h)
      · split at h
        · rename_i hw
          exact less_write hp (hw.trans h)
        · exact less_read hp h
  · rename_i hp
    exact less_drain hp h
  · simp at h
  · simp at h

/-- Makes moves until none is possible; gives all effects in order and the connection then. -/
def settle (c : Connection κ) : Moved κ :=
  match _h : c.next? with
  | none => ([], c)
  | some move =>
    let made := c.make move
    let later := settle made.2
    (made.1 ++ later.1, later.2)
  termination_by c.work
  decreasing_by exact less_make _h

/-! ## What happens outside -/

/-- Asks for a request to be sent. It is refused, and its waiter forgotten, once the connection is
    over. -/
def submit (c : Connection κ) (kind : String) (payload : Value) (waiter : κ) :
    Except TransportError Unit × Moved κ :=
  if c.isClosed then (.error .stopped, [.dropped waiter], c)
  else (.ok (), [], { c with queue := c.queue ++ [⟨kind, payload, waiter⟩] })

/-- Sends a request without an answer whether it was accepted: a refusal is logged. -/
def send (c : Connection κ) (kind : String) (payload : Value) (waiter : κ) : Moved κ :=
  match c.submit kind payload waiter with
  | (.ok (), moved) => moved
  | (.error error, effects, c) => (effects ++ [.log (.requestDropped kind error)], c)

/-- The last handle is gone. -/
def disconnect (c : Connection κ) : Connection κ := { c with connected := false }

/-- Bytes arrive from the backend. -/
def feed (c : Connection κ) (bytes : Bytes) : Connection κ :=
  { c with reader := c.reader.feed bytes }

/-- The backend closes its output. -/
def endInput (c : Connection κ) : Connection κ := { c with reader := c.reader.finish }

/-- Reading will fail once. -/
def failInput (c : Connection κ) (error : String) : Connection κ :=
  { c with reader := c.reader.fail error }

/-- The peer takes more bytes, or any number from now on. -/
def widen (c : Connection κ) (n : Option Nat) : Connection κ :=
  { c with outlet := c.outlet.widen n }

/-- Writing fails from now on. -/
def breakOutput (c : Connection κ) : Connection κ :=
  { c with outlet := { c.outlet with broken := true } }

/-- Shutting the output down will fail. -/
def failShutdown (c : Connection κ) : Connection κ :=
  { c with outlet := { c.outlet with shutdownFails := true } }

/-- Gives the connection up: everyone who waits is forgotten. -/
def abort (c : Connection κ) : Moved κ :=
  if c.isClosed then ([], c)
  else
    (c.inFlight.map (fun (_, k) => .dropped k) ++ c.queue.map fun s => .dropped s.waiter,
      { c with inFlight := [], queue := [], phase := .aborted })

end Connection

end FormatBridge
