import FormatBridge.Proofs.Routing

set_option autoImplicit false

/-! # Runs step by step

In a run by steps (`Traffic.play`) the connection makes all the moves that it can before anything
else happens. A connection reads only when it can do nothing else, so its reader can be told apart
from the rest: what the connection does without it (`Traffic.turn_of_some`), and what it does with
something that was read, wherever that came from (`Traffic.turn_of_read`). -/

namespace FormatBridge

variable {κ : Type}

namespace Connection

/-! ## A connection and its reader -/

/-- A connection with another reader. -/
def withReader (c : Connection κ) (r : LineReader) : Connection κ := { c with reader := r }

/-- A connection whose reader has nothing to read. -/
abbrev idle (c : Connection κ) : Connection κ := c.withReader .empty

@[simp]
theorem withReader_self (c : Connection κ) : c.withReader c.reader = c := rfl

@[simp]
theorem phase_withReader (c : Connection κ) (r : LineReader) :
    (c.withReader r).phase = c.phase := rfl

@[simp]
theorem ids_withReader (c : Connection κ) (r : LineReader) : (c.withReader r).ids = c.ids := rfl

@[simp]
theorem reader_withReader (c : Connection κ) (r : LineReader) :
    (c.withReader r).reader = r := rfl

/-- A connection first does what it can do without its reader, and then reads while it runs. -/
theorem next?_eq (c : Connection κ) : c.next? =
    c.idle.next?.or (if c.isRunning then c.read? else none) := by
  have hdone : c.idle.isDone = c.isDone := rfl
  have haccept : c.idle.accept? = c.accept? := rfl
  have hwrite : c.idle.write? = c.write? := rfl
  have hdrain : c.idle.drain? = c.drain? := rfl
  have hread : c.idle.read? = none := rfl
  cases hphase : c.phase with
  | running =>
    simp only [next?, isRunning, phase_withReader, hphase, hdone, haccept, hwrite, hread]
    cases c.isDone <;> cases c.accept? <;> cases c.write? <;> simp
  | _ => simp [next?, isRunning, hphase, hdrain]

theorem next?_of_some {c : Connection κ} {m : Move κ} (h : c.idle.next? = some m) :
    c.next? = some m := by
  rw [next?_eq, h, Option.some_or]

theorem next?_of_none {c : Connection κ} (h : c.idle.next? = none) :
    c.next? = if c.isRunning then c.read? else none := by
  rw [next?_eq, h, Option.none_or]

/-- A connection that does not run makes no use of its reader. -/
theorem next?_of_stopped {c : Connection κ} (h : c.phase ≠ .running) : c.next? = c.idle.next? := by
  have hstop : ¬c.isRunning = true := fun hrun => h (isRunning_iff.1 hrun)
  rw [next?_eq, if_neg hstop, Option.or_none]

/-- A connection that waits would wait without its reader. -/
theorem idle_of_waits {c : Connection κ} (h : c.next? = none) : c.idle.next? = none := by
  rw [next?_eq] at h
  exact (Option.or_eq_none_iff.1 h).1

theorem leave_withReader (c : Connection κ) (r : LineReader) (result : Except TransportError Unit) :
    (c.withReader r).leave result = ((c.leave result).1, (c.leave result).2.withReader r) := by
  obtain ⟨_, _, inFlight, _, writing, _, _, _, _, _⟩ := c
  cases inFlight <;> cases result <;> cases writing <;> rfl

theorem take_withReader (c : Connection κ) (r : LineReader) (s : Submission κ)
    (rest : List (Submission κ)) :
    (c.withReader r).take s rest = ((c.take s rest).1, (c.take s rest).2.withReader r) := by
  obtain ⟨_, _, _, _, writing, _, _, _, _, _⟩ := c
  cases writing <;> rfl

/-- What a connection does without its reader does not depend on it. -/
theorem make_withReader {c : Connection κ} {m : Move κ} (h : c.idle.next? = some m)
    (r : LineReader) :
    (c.withReader r).make m = ((c.make m).1, (c.make m).2.withReader r) := by
  cases chosen_of_next h with
  | stop => exact c.leave_withReader r (.ok ())
  | take => exact c.take_withReader r _ _
  | close => rfl
  | @write step writer outlet =>
    cases step with
    | failed error =>
      exact leave_withReader { c with writer := writer, outlet := outlet, writing := false } r
        (.error (.io error))
    | _ => rfl
  | read hrun hbusy hsettled hidle hstep => contradiction
  | @drain step writer outlet => cases step <;> rfl

/-- What a connection does with something that was read does not depend on its reader before. -/
theorem make_read (c : Connection κ) (r : LineReader) (x : LineReader.Reading) (s : LineReader) :
    (c.withReader r).make (.read x s) =
      ((c.make (.read x .empty)).1, (c.make (.read x .empty)).2.withReader s) := by
  cases x with
  | nothing => rfl
  | undecodable => rfl
  | failed error => exact c.idle.leave_withReader s (.error (.io error))
  | ended => exact c.idle.leave_withReader s _
  | message m =>
    simp only [make, afterRead, route]
    cases m.answers? with
    | none => rfl
    | some id =>
      simp only [withReader]
      cases c.inFlight.lookup id <;> rfl

end Connection

namespace Traffic

/-- A run whose connection has another reader. -/
def withReader (t : Traffic κ) (r : LineReader) : Traffic κ :=
  { t with connection := t.connection.withReader r }

/-- A run whose connection has read something, from wherever. -/
def read (t : Traffic κ) (x : LineReader.Reading) : Traffic κ :=
  { t with
    connection := (t.connection.make (.read x .empty)).2
    history := t.history.after t.connection (.read x .empty) }

theorem turn_eq {t : Traffic κ} {m : Move κ} (h : t.connection.next? = some m) :
    t.turn = { t with
      connection := (t.connection.make m).2
      history := t.history.after t.connection m } := by
  rw [turn, h]

theorem turn_of_waits {t : Traffic κ} (h : t.connection.next? = none) : t.turn = t := by
  rw [turn, h]

/-- A turn without the reader is the same with any. -/
theorem turn_of_some {t : Traffic κ} {m : Move κ} (h : t.connection.idle.next? = some m)
    (r : LineReader) : (t.withReader r).turn = t.turn.withReader r := by
  have hmade := Connection.make_withReader h r
  have hnext : (t.withReader r).connection.next? = some m := Connection.next?_of_some h
  have hhistory : t.history.after (t.connection.withReader r) m =
      t.history.after t.connection m := by
    have heffects := congrArg Prod.fst hmade
    unfold History.after
    split <;> simp only [History.did, heffects, Connection.ids_withReader]
  rw [turn_eq hnext, turn_eq (Connection.next?_of_some h)]
  simp only [withReader, hmade, hhistory]

theorem reader_turn_of_some {t : Traffic κ} {m : Move κ} (h : t.connection.idle.next? = some m) :
    t.turn.connection.reader = t.connection.reader := by
  have hturn : t.turn = t.turn.withReader t.connection.reader :=
    turn_of_some h t.connection.reader
  rw [hturn]
  rfl

theorem after_read (h : History κ) (c : Connection κ) (r : LineReader) (x : LineReader.Reading)
    (s : LineReader) : h.after (c.withReader r) (.read x s) = h.after c (.read x .empty) := by
  have heffects := congrArg Prod.fst (c.make_read r x s)
  cases x <;> simp only [History.after, heffects]

/-- Behind what was read, the reader has nothing to read. -/
theorem idle_read (t : Traffic κ) (x : LineReader.Reading) :
    (t.read x).withReader .empty = t.read x := by
  have hmade := congrArg Prod.snd (t.connection.make_read t.connection.reader x .empty)
  exact congrArg (fun c => { t.read x with connection := c }) hmade.symm

/-- A turn that reads does what the connection does with what was read. -/
theorem turn_of_read {t : Traffic κ} (h : t.connection.idle.next? = none)
    (hrun : t.connection.phase = .running) {x : LineReader.Reading} {r s : LineReader}
    (hstep : r.step = some (x, s)) : (t.withReader r).turn = (t.read x).withReader s := by
  have hnext : (t.withReader r).connection.next? = some (.read x s) := by
    rw [Connection.next?_of_none (c := (t.withReader r).connection) h]
    have hread : (t.withReader r).connection.read? = some (.read x s) :=
      Option.map_eq_some_iff.2 ⟨(x, s), hstep, rfl⟩
    rw [hread]
    exact if_pos (Connection.isRunning_iff.2 hrun)
  rw [turn_eq hnext]
  simp only [withReader, t.connection.make_read r x s, after_read, read]

/-- In a turn the reader makes a step or stays as it is. -/
theorem reader_turn (t : Traffic κ) : t.turn.connection.reader = t.connection.reader ∨
    ∃ x, t.connection.reader.step = some (x, t.turn.connection.reader) := by
  cases hidle : t.connection.idle.next? with
  | some m => exact .inl (reader_turn_of_some hidle)
  | none =>
    have hnext := Connection.next?_of_none hidle
    cases hstep : t.connection.reader.step with
    | none =>
      left
      rw [turn_of_waits]
      rw [hnext, Connection.read?, hstep]
      exact ite_self none
    | some p =>
      cases hrun : t.connection.isRunning with
      | false =>
        left
        rw [turn_of_waits (hnext.trans (by rw [hrun]; rfl))]
      | true =>
        right
        refine ⟨p.1, ?_⟩
        have hturn : t.turn = _ := turn_of_read hidle (Connection.isRunning_iff.1 hrun) hstep
        rw [hturn]
        rfl

/-- A connection that does not run does not run later. -/
theorem running_of_turn {t : Traffic κ} (h : t.turn.connection.phase = .running) :
    t.connection.phase = .running := by
  cases hm : t.connection.next? with
  | none => rwa [turn_of_waits hm] at h
  | some m =>
    rw [turn_eq hm] at h
    cases Connection.chosen_of_next hm with
    | @drain step writer outlet hdrain hstep =>
      cases step <;> simp_all [Connection.make, Connection.afterDrain, Connection.conclude]
    | _ => assumption

/-- The reader of a running connection that waits has to wait as well. -/
theorem step_of_waits {t : Traffic κ} (hwaits : t.connection.next? = none)
    (hrun : t.connection.phase = .running) : t.connection.reader.step = none := by
  obtain ⟨-, -, -, hread⟩ := Connection.waits_of_running hrun hwaits
  simpa [Connection.read?] using hread

/-- What is done with handles does not depend on the reader. -/
theorem meet_withReader (t : Traffic κ) (r : LineReader) {e : Event κ} (hpeer : ∀ p, e ≠ .peer p)
    (hturn : e ≠ .turn) : (t.withReader r).meet e = (t.meet e).withReader r := by
  obtain ⟨c, handles, history⟩ := t
  cases e with
  | submit s =>
    have hclosed : (c.withReader r).isClosed = c.isClosed := rfl
    simp only [withReader, meet, submit, Connection.submit, hclosed]
    cases handles <;> cases c.isClosed <;> rfl
  | clone => cases handles <;> rfl
  | drop => rcases handles with - | - | n <;> rfl
  | peer p => exact absurd rfl (hpeer p)
  | turn => exact absurd rfl hturn

/-! ## Steps -/

/-- The connection makes moves until none is possible. -/
def settle (t : Traffic κ) : Traffic κ :=
  match _h : t.connection.next? with
  | none => t
  | some _ => t.turn.settle
  termination_by t.connection.work
  decreasing_by
    rw [turn_eq _h]
    exact Connection.less_make _h

theorem settle_of_waits {t : Traffic κ} (h : t.connection.next? = none) : t.settle = t := by
  rw [settle]
  split <;> simp_all

theorem settle_turn (t : Traffic κ) : t.turn.settle = t.settle := by
  cases h : t.connection.next? with
  | none => rw [turn_of_waits h]
  | some m =>
    conv_rhs => rw [settle]
    split <;> simp_all

theorem next?_settle (t : Traffic κ) : t.settle.connection.next? = none := by
  fun_induction settle t with
  | case1 t h => exact h
  | case2 t m h ih => exact ih

/-- What the connection does until it waits is what `Connection.settle` does. -/
theorem settle_eq (t : Traffic κ) : t.settle.connection = t.connection.settle.2 ∧
    t.settle.history.effects = t.history.effects ++ t.connection.settle.1 := by
  fun_induction settle t with
  | case1 t h =>
    have hsettle : t.connection.settle = ([], t.connection) := by
      rw [Connection.settle]
      split <;> simp_all
    rw [hsettle]
    exact ⟨rfl, (List.append_nil _).symm⟩
  | case2 t m h ih =>
    have hsettle : t.connection.settle =
        ((t.connection.make m).1 ++ (t.connection.make m).2.settle.1,
          (t.connection.make m).2.settle.2) := by
      rw [Connection.settle]
      split <;> simp_all
    rw [hsettle, ih.1, ih.2, turn_eq h, History.effects_after, List.append_assoc]
    exact ⟨rfl, rfl⟩

/-- A run after another event, once the connection waits again. -/
def step (t : Traffic κ) (e : Event κ) : Traffic κ := (t.meet e).settle

/-- A run of steps. -/
def play (session : String) (outlet : Outlet) (script : List (Event κ)) : Traffic κ :=
  script.foldl step (start session outlet)

theorem play_append (session : String) (outlet : Outlet) (script more : List (Event κ)) :
    play session outlet (script ++ more) = more.foldl step (play session outlet script) :=
  List.foldl_append

/-- Behind every step the connection waits. -/
theorem next?_play (session : String) (outlet : Outlet) (script : List (Event κ)) :
    (play session outlet script).connection.next? = none := by
  induction script using List.reverseRecOn with
  | nil => rfl
  | append_singleton script e ih =>
    rw [play_append]
    exact next?_settle _

end Traffic

end FormatBridge
