import FormatBridge.Proofs.LineReading
import FormatBridge.Proofs.Steps

set_option autoImplicit false

/-! # What a connection ends with

A connection ends well, or with an error. Behind a good end every request that was taken up was
answered; behind an error exactly those that were not are told that there is no reply, after all
others were told theirs, and the error counts them when the input has ended (`Account`). Each
result also has its cause in what has happened outside (`Cause`). -/

namespace FormatBridge

open Json (Value)

variable {κ : Type}

/-! ## Who gets no reply -/

namespace History

/-- Who was told that there is no reply, in order. -/
def abandoned (h : History κ) : List κ :=
  h.replies.filterMap fun p => if p.2.isNone then some p.1 else none

/-- The requests that were taken up and not answered. -/
def missed (h : History κ) : List (Taken κ) := h.taken.filter fun r => (h.answer? r).isNone

theorem answer_of_missed {h : History κ} (hanswered : h.missed = []) {r : Taken κ}
    (hr : r ∈ h.taken) : ∃ m, h.answer? r = some m := by
  have hsome := List.filter_eq_nil_iff.1 hanswered r hr
  exact Option.ne_none_iff_exists'.1 (by simpa using hsome)

end History

namespace Ledger

variable {session : String} {c : Connection κ} {h : History κ}

/-- While a connection runs, the requests that were not answered are in flight. -/
theorem inFlight_missed (hl : Ledger session c h) (hrun : c.phase = .running) :
    c.inFlight = h.missed.map fun r => (r.id, r.request.waiter) := by
  have hawaits : c.awaits h = fun r => (h.answer? r).isNone := by
    funext r
    rw [Connection.awaits, Connection.isRunning_iff.2 hrun, Bool.true_and]
  rw [hl.inFlight, hawaits, History.missed]

theorem inFlight_stopped (hl : Ledger session c h) (hstop : c.isRunning = false) :
    c.inFlight = [] := by
  rw [hl.inFlight, List.map_eq_nil_iff, List.filter_eq_nil_iff]
  intro r _
  rw [Connection.awaits_of_not_running hstop]
  exact Bool.false_ne_true

/-- When a connection runs no more, each request was told its answer, or that there is none. -/
theorem replies_perm (hl : Ledger session c h) (hstop : c.isRunning = false) :
    h.replies.Perm (h.taken.map fun r =>
      (r.request.waiter, (h.answer? r).map Message.toValue)) := by
  have hall : h.taken.filter (!c.awaits h ·) = h.taken := by
    rw [List.filter_eq_self]
    intro r _
    rw [Connection.awaits_of_not_running hstop]
    rfl
  have htold := hl.told
  rw [hall] at htold
  exact htold

/-- When no answer is missing then, each request was told its own. -/
theorem told_answer (hl : Ledger session c h) (hstop : c.isRunning = false)
    (hanswered : h.missed = []) {r : Taken κ} (hr : r ∈ h.taken) :
    ∃ m, h.answer? r = some m ∧ (r.request.waiter, some m.toValue) ∈ h.replies := by
  obtain ⟨m, hm⟩ := History.answer_of_missed hanswered hr
  refine ⟨m, hm, (hl.replies_perm hstop).mem_iff.2 (List.mem_map.2 ⟨r, hr, ?_⟩)⟩
  rw [hm, Option.map_some]

theorem abandoned_perm (hl : Ledger session c h) (hstop : c.isRunning = false) :
    h.abandoned.Perm (h.missed.map (·.request.waiter)) := by
  refine ((hl.replies_perm hstop).filterMap _).trans (.of_eq ?_)
  rw [List.filterMap_map, History.missed, ← List.filterMap_eq_map, List.filterMap_filter]
  refine List.filterMap_congr ?_
  intro r _
  simp

end Ledger

/-! ## What the result says about the requests -/

/-- Waiters that are told a reply. -/
def withReply (given : List (κ × Value)) : List (κ × Option Value) :=
  given.map fun p => (p.1, some p.2)

/-- Waiters that are told that there is no reply. -/
def withoutReply (waiters : List κ) : List (κ × Option Value) :=
  waiters.map fun waiter => (waiter, none)

theorem History.abandoned_of {h : History κ} {given : List (κ × Value)} {waiters : List κ}
    (htold : h.replies = withReply given ++ withoutReply waiters) : h.abandoned = waiters := by
  simp [abandoned, htold, withReply, withoutReply, List.filterMap_map]

theorem Connection.replies_farewell (c : Connection κ) :
    Effect.replies c.farewell = withoutReply (c.inFlight.map (·.2)) := by
  obtain ⟨-, -, -, -, htold⟩ := c.leave_spec (.error .stopped)
  rw [leave_error] at htold
  rw [withoutReply, List.map_map]
  exact htold

/-- What was told so far, by where the connection stands. -/
inductive Account (c : Connection κ) (h : History κ) : Prop where
  | running (phase : c.phase = .running) (given : List (κ × Value))
    (told : h.replies = withReply given)
  /-- It has ended well, and nothing more is handed to the writer. -/
  | well (phase : c.phase = .draining ∨ c.phase = .ended (.ok ())) (closed : c.writer.closed = true)
    (given : List (κ × Value)) (told : h.replies = withReply given) (answered : h.missed = [])
  | badly {error : TransportError} (phase : c.phase = .ended (.error error))
    (given : List (κ × Value)) (waiters : List κ)
    (told : h.replies = withReply given ++ withoutReply waiters)
    (reason : (error = .inputEnded h.missed.length ∧ h.missed ≠ []) ∨ ∃ text, error = .io text)

namespace Account

variable {session : String} {c c' : Connection κ} {h h' : History κ}

theorem aside (ha : Account c h) (hs : Aside c h c' h') : Account c' h' := by
  have hmissed : h'.missed = h.missed := by
    rw [History.missed, hs.taken, History.missed]
    exact List.filter_congr fun r _ => by rw [hs.answer?]
  cases ha with
  | running phase given told => exact .running (hs.phase.trans phase) given (hs.replies.trans told)
  | well phase closed given told answered =>
    exact .well (hs.phase ▸ phase) ((congrArg Writer.closed hs.writer).trans closed) given
      (hs.replies.trans told) (hmissed.trans answered)
  | badly phase given waiters told reason =>
    exact .badly (hs.phase.trans phase) given waiters (hs.replies.trans told) (hmissed ▸ reason)

theorem of_running (ha : Account c h) (hrun : c.phase = .running) :
    ∃ given, h.replies = withReply given := by
  cases ha with
  | running phase given told => exact ⟨given, told⟩
  | well phase => simp [hrun] at phase
  | badly phase => simp [hrun] at phase

theorem of_draining (ha : Account c h) (hdrain : c.phase = .draining) :
    c.writer.closed = true ∧ (∃ given, h.replies = withReply given) ∧ h.missed = [] := by
  cases ha with
  | running phase => simp [hdrain] at phase
  | well phase closed given told answered => exact ⟨closed, ⟨given, told⟩, answered⟩
  | badly phase => simp [hdrain] at phase

/-- The input ends for a connection with requests in flight: the error counts them. -/
theorem reason_of_fails (hl : Ledger session c h) (hrun : c.phase = .running) {m : Move κ}
    {error : TransportError} {reader : LineReader} (hfails : c.Fails m error reader) :
    (error = .inputEnded h.missed.length ∧ h.missed ≠ []) ∨ ∃ text, error = .io text := by
  cases hfails with
  | write => exact .inr ⟨_, rfl⟩
  | read => exact .inr ⟨_, rfl⟩
  | ended hstep hwaiting =>
    have hmissed := hl.inFlight_missed hrun
    refine .inl ⟨?_, ?_⟩
    · rw [Connection.pending, hmissed, List.length_map]
    · intro hnone
      exact hwaiting (by rw [hmissed, hnone, List.map_nil])

theorem advance {m : Move κ} (hl : Ledger session c h) (ha : Account c h)
    (hm : Advance session c h m c' h') : Account c' h' := by
  have hquiet {effects : List (Effect κ)} (hnone : Effect.replies effects = []) :
      (h.did effects).replies = h.replies := by
    rw [History.replies_did, hnone, List.append_nil]
  cases hm with
  | @answer m reader id waiter hrun hstep hnames hwaits =>
    obtain ⟨given, htold⟩ := ha.of_running hrun
    refine .running hrun (given ++ [(waiter, m.toValue)]) ?_
    rw [withReply, List.map_append, ← withReply, ← htold]
    exact History.replies_did ..
  | finish hrun hnone hfinishes =>
    obtain ⟨given, htold⟩ := ha.of_running hrun
    have hanswered := (hl.inFlight_missed hrun).symm.trans hnone
    exact .well (.inl rfl) rfl given ((hquiet rfl).trans htold) (List.map_eq_nil_iff.1 hanswered)
  | @fail m error reader hrun hfails writing =>
    obtain ⟨given, htold⟩ := ha.of_running hrun
    refine .badly rfl given (c.inFlight.map (·.2)) ?_ (reason_of_fails hl hrun hfails)
    rw [History.replies_did, htold, c.replies_farewell]
  | flush hdrain hstep =>
    obtain ⟨hclosed, ⟨given, htold⟩, hanswered⟩ := ha.of_draining hdrain
    exact .well (.inl hdrain) ((Writer.closed_step hstep).trans hclosed) given
      ((hquiet rfl).trans htold) hanswered
  | shutDown hdrain hstep =>
    obtain ⟨hclosed, ⟨given, htold⟩, hanswered⟩ := ha.of_draining hdrain
    exact .well (.inr rfl) hclosed given ((hquiet (by simp [Effect.replies])).trans htold) hanswered
  | giveUp hdrain hstep =>
    obtain ⟨hclosed, ⟨given, htold⟩, hanswered⟩ := ha.of_draining hdrain
    exact .well (.inr rfl) hclosed given ((hquiet (by simp [Effect.replies])).trans htold) hanswered
  | _ =>
    obtain ⟨given, htold⟩ := ha.of_running ‹_›
    exact .running ‹_› given ((hquiet (by simp [Effect.replies])).trans htold)

/-- Whoever is told that there is no reply is told it after all who get one. -/
theorem ordered (ha : Account c h) :
    ∃ given, h.replies = withReply given ++ withoutReply h.abandoned := by
  have hall {given : List (κ × Value)} (htold : h.replies = withReply given) :
      h.replies = withReply given ++ withoutReply [] := htold.trans (List.append_nil _).symm
  cases ha with
  | running phase given told => exact ⟨given, by rw [History.abandoned_of (hall told), hall told]⟩
  | well phase closed given told answered =>
    exact ⟨given, by rw [History.abandoned_of (hall told), hall told]⟩
  | badly phase given waiters told reason => exact ⟨given, by rw [History.abandoned_of told, told]⟩

/-- Behind a good end every request was answered, and nothing more is handed to the writer. -/
theorem of_well (ha : Account c h) (hphase : c.phase = .draining ∨ c.phase = .ended (.ok ())) :
    h.missed = [] ∧ c.writer.closed = true := by
  cases ha with
  | running phase => simp [phase] at hphase
  | well phase closed given told answered => exact ⟨answered, closed⟩
  | badly phase => simp [phase] at hphase

/-- The error of an ended input counts the requests that were not answered. -/
theorem of_inputEnded (ha : Account c h) {n : Nat}
    (hphase : c.phase = .ended (.error (.inputEnded n))) : h.missed.length = n ∧ 1 ≤ n := by
  cases ha with
  | running phase => simp [phase] at hphase
  | well phase => simp [hphase] at phase
  | badly phase given waiters told reason =>
    obtain rfl := Except.error.inj (Phase.ended.inj (phase.symm.trans hphase))
    rcases reason with ⟨hcount, hsome⟩ | ⟨text, hio⟩
    · obtain rfl := TransportError.inputEnded.inj hcount
      exact ⟨rfl, List.length_pos_of_ne_nil hsome⟩
    · contradiction

/-- It holds in every state of every run. -/
theorem kept (session : String) : Kept session (@Account κ) :=
  ⟨fun _ => .running rfl [] rfl, aside, advance⟩

end Account

/-! ## What a connection meets outside -/

namespace LineReader

variable {r r' : LineReader} {x : Reading}

theorem inbound_step (h : r.step = some (x, r')) : r'.inbound.ended = r.inbound.ended ∧
    ∀ text ∈ r'.inbound.failures, text ∈ r.inbound.failures := by
  refine ⟨ended_step h, fun text hmem => ?_⟩
  rw [← errors_step h]
  exact List.mem_append_right _ hmem

/-- The end is read only where it is, and an error only where there is one. -/
theorem stop_step (h : r.step = some (x, r')) : (x = .ended → r.inbound.ended = true) ∧
    ∀ text, x = .failed text → text ∈ r.inbound.failures := by
  constructor
  · rintro rfl
    rcases step_cases h with ⟨front, rest, -, hx, -⟩ | ⟨hx, -⟩ | ⟨-, error, failures, -, hx, -⟩ |
        ⟨-, -, hend, -⟩
    · cases hline : judge (r.line ++ front) <;> simp [hline, Line.reading] at hx
    · contradiction
    · contradiction
    · exact hend
  · rintro text rfl
    rw [← errors_step h]
    exact List.mem_cons_self ..

end LineReader

/-- What a move leaves of what a connection finds outside. -/
theorem Advance.outside {session : String} {c c' : Connection κ} {h h' : History κ} {m : Move κ}
    (ha : Advance session c h m c' h') : c'.connected = c.connected ∧
      (c'.accepting = c.accepting ∨ c.connected = false) ∧
      (c'.reader = c.reader ∨ ∃ x, c.reader.step = some (x, c'.reader)) ∧
      c'.outlet.broken = c.outlet.broken := by
  have hbroken {step : Writer.Step} {writer : Writer} {outlet : Outlet}
      (h : c.writer.step c.outlet = some (step, writer, outlet)) :
      outlet.broken = c.outlet.broken := by
    rcases Writer.step_cases h with ⟨-, -, -, rfl, -⟩ | ⟨-, -, -, rfl, -⟩ |
        ⟨-, -, n, -, -, -, rfl, -⟩
    all_goals rfl
  cases ha with
  | close hrun hqueue halone => exact ⟨rfl, .inr halone, .inl rfl, rfl⟩
  | write hrun hstep => exact ⟨rfl, .inl rfl, .inl rfl, hbroken hstep⟩
  | flush hdrain hstep => exact ⟨rfl, .inl rfl, .inl rfl, hbroken hstep⟩
  | pass hrun hstep => exact ⟨rfl, .inl rfl, .inr ⟨_, hstep⟩, rfl⟩
  | skip hrun hstep => exact ⟨rfl, .inl rfl, .inr ⟨_, hstep⟩, rfl⟩
  | ignore hrun hstep => exact ⟨rfl, .inl rfl, .inr ⟨_, hstep⟩, rfl⟩
  | answer hrun hstep => exact ⟨rfl, .inl rfl, .inr ⟨_, hstep⟩, rfl⟩
  | finish hrun hquiet hfinishes =>
    cases hfinishes with
    | stop => exact ⟨rfl, .inl rfl, .inl rfl, rfl⟩
    | ended hstep => exact ⟨rfl, .inl rfl, .inr ⟨_, hstep⟩, rfl⟩
  | fail hrun hfails writing =>
    cases hfails with
    | write => exact ⟨rfl, .inl rfl, .inl rfl, rfl⟩
    | read hstep => exact ⟨rfl, .inl rfl, .inr ⟨_, hstep⟩, rfl⟩
    | ended hstep => exact ⟨rfl, .inl rfl, .inr ⟨_, hstep⟩, rfl⟩
  | _ => exact ⟨rfl, .inl rfl, .inl rfl, rfl⟩

/-- What a connection finds outside comes from what has happened there. -/
structure Sourced (outlet : Outlet) (script : List (Event κ)) (t : Traffic κ) : Prop where
  alone : t.connection.connected = false → t.handles = 0
  closed : t.connection.accepting = false → t.connection.connected = false
  ended : t.connection.reader.inbound.ended = true → .peer .endInput ∈ script
  failures : ∀ text ∈ t.connection.reader.inbound.failures, .peer (.failInput text) ∈ script
  broken : t.connection.outlet.broken = true → outlet.broken = true ∨ .peer .breakOutput ∈ script

namespace Sourced

variable {session : String} {outlet : Outlet} {script : List (Event κ)} {t : Traffic κ}

theorem start (session : String) (outlet : Outlet) :
    Sourced outlet [] (.start session outlet : Traffic κ) := by
  constructor <;>
    simp [Traffic.start, Connection.start, LineReader.empty, Inbound.empty]

/-- What has happened before is not undone. -/
theorem append (hs : Sourced outlet script t) (e : Event κ) : Sourced outlet (script ++ [e]) t :=
  ⟨hs.alone, hs.closed, fun h => List.mem_append_left _ (hs.ended h),
    fun text h => List.mem_append_left _ (hs.failures text h),
    fun h => (hs.broken h).imp_right (List.mem_append_left _)⟩

theorem peer (hs : Sourced outlet script t) (e : PeerEvent) :
    Sourced outlet (script ++ [.peer e]) (t.meet (.peer e)) := by
  have happend := hs.append (.peer e)
  cases e with
  | feed bytes => exact { happend with }
  | endInput => exact { happend with ended := fun _ => by simp }
  | failInput error =>
    refine { happend with failures := ?_ }
    intro text hmem
    rcases List.mem_append.1 hmem with hmem | hmem
    · exact happend.failures text hmem
    · rw [List.mem_singleton.1 hmem]
      simp
  | widen n => cases n <;> exact { happend with }
  | breakOutput => exact { happend with broken := fun _ => .inr (by simp) }
  | failShutdown => exact { happend with }

theorem advance (hs : Sourced outlet script t) {m : Move κ} {h h' : History κ} {c' : Connection κ}
    (ha : Advance session t.connection h m c' h') :
    Sourced outlet script { t with connection := c', history := h' } := by
  obtain ⟨hconnected, haccepting, hreader, hbroken⟩ := ha.outside
  have hinbound : (c'.reader.inbound.ended = true → t.connection.reader.inbound.ended = true) ∧
      ∀ text ∈ c'.reader.inbound.failures, text ∈ t.connection.reader.inbound.failures := by
    rcases hreader with hsame | ⟨x, hstep⟩
    · rw [hsame]
      exact ⟨id, fun _ => id⟩
    · obtain ⟨hended, hfailures⟩ := LineReader.inbound_step hstep
      exact ⟨fun h => hended ▸ h, hfailures⟩
  constructor
  · exact fun h => hs.alone (hconnected ▸ h)
  · intro h
    rcases haccepting with hsame | halone
    · exact hconnected.trans (hs.closed (hsame ▸ h))
    · exact hconnected.trans halone
  · exact fun h => hs.ended (hinbound.1 h)
  · exact fun text h => hs.failures text (hinbound.2 text h)
  · exact fun h => hs.broken (hbroken ▸ h)

theorem meet (hs : Sourced outlet script t) (hl : Ledger session t.connection t.history)
    (e : Event κ) : Sourced outlet (script ++ [e]) (t.meet e) := by
  have happend := hs.append e
  cases e with
  | submit s =>
    simp only [Traffic.meet]
    split
    · exact happend
    · obtain ⟨queue, history, heq⟩ := t.submit_eq s
      rw [heq]
      exact { happend with }
  | clone =>
    simp only [Traffic.meet]
    split
    · exact happend
    · rename_i hsome
      exact { happend with alone := fun h => absurd (hs.alone h) hsome }
  | drop =>
    simp only [Traffic.meet]
    split
    · exact happend
    · exact { happend with alone := fun _ => rfl, closed := fun _ => rfl }
    · rename_i n hmany
      refine { happend with alone := ?_ }
      intro h
      rw [hs.alone h] at hmany
      contradiction
  | peer e => exact hs.peer e
  | turn =>
    simp only [Traffic.meet, Traffic.turn]
    split
    · exact happend
    · rename_i m hm
      exact happend.advance (.of_next hl hm)

end Sourced

/-! ## Why a connection ends -/

/-- The result that a connection ends with, from the moment at which it stops taking requests. -/
def Phase.result? : Phase → Option (Except TransportError Unit)
  | .running | .aborted => none
  | .draining => some (.ok ())
  | .ended result => some result

/-- A connection gets its result in a move that ends it, and keeps it. -/
theorem Advance.result?_cases {session : String} {c c' : Connection κ} {h h' : History κ}
    {m : Move κ} (ha : Advance session c h m c' h') :
    c'.phase.result? = c.phase.result? ∨
      c.phase = .running ∧ ((∃ reader, c.Finishes m reader ∧ c'.phase.result? = some (.ok ())) ∨
        ∃ error reader, c.Fails m error reader ∧ c'.phase.result? = some (.error error)) := by
  cases ha with
  | finish hrun hquiet hfinishes => exact .inr ⟨hrun, .inl ⟨_, hfinishes, rfl⟩⟩
  | fail hrun hfails writing => exact .inr ⟨hrun, .inr ⟨_, _, hfails, rfl⟩⟩
  | shutDown hdrain hstep => exact .inl (by rw [hdrain]; rfl)
  | giveUp hdrain hstep => exact .inl (by rw [hdrain]; rfl)
  | _ => exact .inl rfl

namespace Move

/-- Whether the end of the input is met in a move. -/
def meetsEnd : Move κ → Bool
  | .read .ended _ => true
  | _ => false

/-- Whether reading fails with a text in a move. -/
def failsReading (text : String) : Move κ → Bool
  | .read (.failed error) _ => error = text
  | _ => false

/-- Whether writing fails with a text in a move. -/
def failsWriting (text : String) : Move κ → Bool
  | .write (.failed error) .. => error = text
  | _ => false

end Move

namespace Traffic

variable {session : String} {outlet : Outlet} {script : List (Event κ)}

/-- In a run the input has ended, and the connection has met its end. -/
def InputEnded (session : String) (outlet : Outlet) (script : List (Event κ)) : Prop :=
  .peer .endInput ∈ script ∧ Made session outlet script Move.meetsEnd

/-- In a run the connection has met an error of reading or writing with a text. -/
inductive Failed (session : String) (outlet : Outlet) (script : List (Event κ)) :
    String → Prop where
  | read {text : String} (failed : .peer (.failInput text) ∈ script)
    (met : Made session outlet script (Move.failsReading text)) : Failed session outlet script text
  | write (broken : outlet.broken = true ∨ .peer .breakOutput ∈ script)
    (met : Made session outlet script (Move.failsWriting brokenText)) :
    Failed session outlet script brokenText

/-- Why a connection ends with a result. -/
def Cause (session : String) (outlet : Outlet) (script : List (Event κ)) (handles : Nat) :
    Except TransportError Unit → Prop
  | .ok () => handles = 0 ∨ InputEnded session outlet script
  | .error (.inputEnded _) => InputEnded session outlet script
  | .error (.io text) => Failed session outlet script text
  | .error .stopped => False

theorem InputEnded.append (h : InputEnded session outlet script) (e : Event κ) :
    InputEnded session outlet (script ++ [e]) :=
  ⟨List.mem_append_left _ h.1, h.2.append _⟩

theorem Failed.append {text : String} (h : Failed session outlet script text) (e : Event κ) :
    Failed session outlet (script ++ [e]) text := by
  cases h with
  | read failed met => exact .read (List.mem_append_left _ failed) (met.append _)
  | write broken met =>
    exact .write (broken.imp_right (List.mem_append_left _)) (met.append _)

theorem handles_meet {t : Traffic κ} (h : t.handles = 0) (e : Event κ) :
    (t.meet e).handles = 0 := by
  cases e with
  | submit s => simp [meet, h]
  | clone => simp [meet, h]
  | drop => simp [meet, h]
  | peer e => exact h
  | turn =>
    simp only [meet, turn]
    split <;> exact h

theorem Cause.append {t : Traffic κ} {result : Except TransportError Unit}
    (h : Cause session outlet script t.handles result) (e : Event κ) :
    Cause session outlet (script ++ [e]) (t.meet e).handles result := by
  match result with
  | .ok () => exact Or.imp (handles_meet · e) (InputEnded.append · e) h
  | .error (.inputEnded _) => exact InputEnded.append h e
  | .error (.io _) => exact Failed.append h e

/-- The move that ends a connection well has a cause. -/
theorem cause_of_finishes (hs : Sourced outlet script (run session outlet script)) {m : Move κ}
    {reader : LineReader} (hm : (run session outlet script).connection.next? = some m)
    (hfinishes : (run session outlet script).connection.Finishes m reader) :
    Cause session outlet (script ++ [.turn]) ((run session outlet script).meet .turn).handles
      (.ok ()) := by
  cases hfinishes with
  | stop done => exact .inl (handles_meet (hs.alone (hs.closed done)) _)
  | ended hstep =>
    have hend := hs.ended ((LineReader.stop_step hstep).1 rfl)
    exact .inr ⟨List.mem_append_left _ hend, .turn hm rfl⟩

/-- The move that ends a connection with an error has a cause. -/
theorem cause_of_fails (hs : Sourced outlet script (run session outlet script))
    (hopen : (run session outlet script).connection.writer.closed = false) {m : Move κ}
    {error : TransportError} {reader : LineReader}
    (hm : (run session outlet script).connection.next? = some m)
    (hfails : (run session outlet script).connection.Fails m error reader) :
    Cause session outlet (script ++ [.turn]) ((run session outlet script).meet .turn).handles
      (.error error) := by
  cases hfails with
  | @write text writer outlet' hstep =>
    rcases Writer.step_cases hstep with ⟨-, hclosed, -⟩ | ⟨-, hbroken, -, -, htext⟩ |
        ⟨-, -, n, -, -, -, -, htext⟩
    · rw [hopen] at hclosed
      contradiction
    · obtain rfl : text = brokenText := by simpa using htext
      exact Failed.write ((hs.broken hbroken).imp_right (List.mem_append_left _))
        (.turn hm (by simp [Move.failsWriting]))
    · contradiction
  | read hstep =>
    have hfailed := hs.failures _ ((LineReader.stop_step hstep).2 _ rfl)
    exact Failed.read (List.mem_append_left _ hfailed) (.turn hm (by simp [Move.failsReading]))
  | ended hstep hwaiting =>
    have hend := hs.ended ((LineReader.stop_step hstep).1 rfl)
    exact ⟨List.mem_append_left _ hend, .turn hm rfl⟩

/-- **Every result has its cause.** -/
theorem cause_run (script : List (Event κ)) (hfew : (waiters script).length < Counter.size) :
    let t := run session outlet script
    Sourced outlet script t ∧ ∀ result, t.connection.phase.result? = some result →
      Cause session outlet script t.handles result := by
  induction script using List.reverseRecOn with
  | nil =>
    refine ⟨.start session outlet, ?_⟩
    intro result h
    simp [run, start, Connection.start, Phase.result?] at h
  | append_singleton script e ih =>
    rw [waiters_append, List.length_append] at hfew
    have hl := @ledger_run κ session outlet script (by omega)
    obtain ⟨hs, hcause⟩ := ih (by omega)
    rw [run_append]
    refine ⟨hs.meet hl e, ?_⟩
    intro result hresult
    rcases meet_cases hl e with haside | ⟨m, rfl, hm, hadvance⟩
    · rw [haside.phase] at hresult
      exact (hcause result hresult).append e
    rcases hadvance.result?_cases with hsame | ⟨hrun, ⟨reader, hfinishes, hok⟩ |
        ⟨error, reader, hfails, herror⟩⟩
    · rw [hsame] at hresult
      exact (hcause result hresult).append _
    · obtain rfl := Option.some.inj (hok.symm.trans hresult)
      exact cause_of_finishes hs hm hfinishes
    · obtain rfl := Option.some.inj (herror.symm.trans hresult)
      have hopen := (hl.writing (Connection.isRunning_iff.2 hrun)).2
      exact cause_of_fails hs hopen hm hfails

/-- **The result accounts for every request.** When a connection has ended in a run in which the ids
    do not run out, no request is in flight; all waiters that were told a reply were told it before
    the first that was told that there is none, and these are the waiters of the requests that were
    not answered, each once. After a good end every request was answered, and no handle is left or
    the input has ended; the error of an ended input counts the requests that were not answered, of
    which there is one at least; any other error is one that reading or writing has met. -/
theorem result_accounts (session : String) (outlet : Outlet) (script : List (Event κ))
    (hfew : (waiters script).length < Counter.size) {result : Except TransportError Unit}
    (hended : (run session outlet script).connection.phase = .ended result) :
    let t := run session outlet script
    t.connection.inFlight = [] ∧
      (∃ given, t.history.replies = withReply given ++ withoutReply t.history.abandoned) ∧
      t.history.abandoned.Perm (t.history.missed.map (·.request.waiter)) ∧
      (result = .ok () → t.history.abandoned = [] ∧
        (∀ r ∈ t.history.taken, ∃ m, t.history.answer? r = some m ∧
          (r.request.waiter, some m.toValue) ∈ t.history.replies) ∧
        (t.handles = 0 ∨ InputEnded session outlet script)) ∧
      (∀ n, result = .error (.inputEnded n) →
        InputEnded session outlet script ∧ 1 ≤ n ∧ t.history.abandoned.length = n) ∧
      (∀ text, result = .error (.io text) → Failed session outlet script text) ∧
      result ≠ .error .stopped := by
  intro t
  have hl : Ledger session t.connection t.history := ledger_run script hfew
  have hstop : t.connection.isRunning = false := by
    simp [Connection.isRunning, t, hended]
  have hperm := hl.abandoned_perm hstop
  have haccount : Account t.connection t.history := (Account.kept session).run outlet hfew
  obtain ⟨-, hcause⟩ := @cause_run κ session outlet script hfew
  have hcause := hcause result (by rw [hended]; rfl)
  refine ⟨hl.inFlight_stopped hstop, haccount.ordered, hperm, ?_, ?_, ?_, ?_⟩
  · rintro rfl
    obtain ⟨hanswered, -⟩ := haccount.of_well (.inr hended)
    exact ⟨(hanswered ▸ hperm).eq_nil, fun r hr => hl.told_answer hstop hanswered hr, hcause⟩
  · rintro n rfl
    obtain ⟨hcount, hsome⟩ := haccount.of_inputEnded hended
    refine ⟨hcause, hsome, ?_⟩
    rw [hperm.length_eq, List.length_map, hcount]
  · rintro text rfl
    exact hcause
  · rintro rfl
    exact hcause

theorem result_accounts_one_missed :
    let reply := Message.replyTo (.request "s_1" "b" "s" .null) "r" .null
    let script : List (Event Nat) := [.submit ⟨"a", .null, 0⟩, .submit ⟨"b", .null, 1⟩, .turn,
      .turn, .turn, .peer (.feed reply.line), .peer .endInput, .turn, .turn]
    let t := run "s" .unlimited script
    (waiters script).length < Counter.size ∧ t.connection.phase = .ended (.error (.inputEnded 1)) ∧
      t.history.abandoned.length = 1 ∧ InputEnded "s" .unlimited script := by
  intro reply script
  have hfew : (waiters script).length < Counter.size := by decide
  have hended : (run "s" .unlimited script).connection.phase =
      .ended (.error (.inputEnded 1)) := by decide +kernel
  obtain ⟨-, -, -, -, hinput, -, -⟩ := result_accounts "s" .unlimited script hfew hended
  obtain ⟨hmet, -, hcount⟩ := hinput 1 rfl
  exact ⟨hfew, hended, hcount, hmet⟩

end Traffic

end FormatBridge
