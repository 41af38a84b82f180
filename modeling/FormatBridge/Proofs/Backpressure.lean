import FormatBridge.Proofs.Buffered
import FormatBridge.Proofs.Registration
import Mathlib.Logic.Function.Iterate

set_option autoImplicit false

/-! # How fast the peer takes bytes makes no difference

When and how many bytes the peer takes decides when a connection writes, and nothing else. What is
left of a run without that is its `View`: who was told what, the requests in flight, the result, the
bytes that were handed to the writer, and the connection apart from its output. To write is not to
change the view (`view_turn_of_writes`), and any other move changes the view in a way that the view
decides (`view_turn`). So two runs with the same view have the same view when they wait
(`view_settle`), however often each of them writes in between. -/

namespace FormatBridge

variable {κ : Type}

/-! ## A connection apart from its output -/

/-- Whether a move is the writer's. -/
def Move.writes : Move κ → Bool
  | .write .. | .drain .. => true
  | .stop | .take .. | .seal | .read .. => false

namespace Connection

/-- A connection apart from its output. -/
def inner (c : Connection κ) : Connection κ := { c with writer := .empty, outlet := .unlimited }

/-- The bytes that are handed to the writer in a move. -/
def handed (c : Connection κ) : Move κ → Bytes
  | .take s _ =>
    if c.writing then (Message.request c.ids.take.1 s.kind c.ids.take.2.session s.payload).line
    else []
  | .stop | .seal | .write .. | .drain .. | .read .. => []

/-- A running connection that does not write does what it would do without its output. -/
theorem next?_inner {c : Connection κ} (hrun : c.phase = .running)
    (hquiet : ∀ m, c.next? = some m → m.writes = false) : c.inner.next? = c.next? := by
  have hwrite : c.inner.write? = none := by
    unfold write?
    split <;> rfl
  have hdone : c.inner.isDone = c.isDone := rfl
  have haccept : c.inner.accept? = c.accept? := rfl
  have hread : c.inner.read? = c.read? := rfl
  have hrunning : c.inner.phase = .running := hrun
  simp only [next?, hrun, hrunning, hdone, haccept, hwrite, hread] at hquiet ⊢
  cases hbusy : c.isDone with
  | true => rfl
  | false =>
    cases hsettled : c.accept? with
    | some m => rfl
    | none =>
      cases hwriting : c.write? with
      | none => rfl
      | some m =>
        -- to write would have been the next move
        have hwrites := hquiet m (by simp [hbusy, hsettled, hwriting])
        unfold write? at hwriting
        split at hwriting
        · obtain ⟨p, -, rfl⟩ := Option.map_eq_some_iff.1 hwriting
          contradiction
        · contradiction

/-- A connection that does not run at most writes. -/
theorem writes_of_stopped {c : Connection κ} {m : Move κ} (hm : c.next? = some m)
    (hstop : c.phase ≠ .running) : m.writes = true := by
  cases chosen_of_next hm with
  | write => rfl
  | drain => rfl
  | _ => contradiction

theorem leave_inner (c : Connection κ) (result : Except TransportError Unit) :
    (c.leave result).1 = (c.inner.leave result).1 ∧
      (c.leave result).2.inner = (c.inner.leave result).2.inner ∧
      (c.leave result).2.writer.unsent = c.writer.unsent := by
  obtain ⟨_, _, inFlight, _, writing, _, _, _, _, _⟩ := c
  cases inFlight <;> cases result <;> cases writing <;> exact ⟨rfl, rfl, rfl⟩

/-- What a connection does apart from writing does not depend on its output, but for the bytes that
    it hands to the writer. -/
theorem make_inner (c : Connection κ) {m : Move κ} (hm : m.writes = false) :
    (c.make m).1 = (c.inner.make m).1 ∧ (c.make m).2.inner = (c.inner.make m).2.inner ∧
      (c.make m).2.writer.unsent = c.writer.unsent ++ c.inner.handed m := by
  cases m with
  | stop => exact (List.append_nil c.writer.unsent).symm ▸ c.leave_inner (.ok ())
  | «seal» => exact ⟨rfl, rfl, (List.append_nil _).symm⟩
  | take s rest =>
    obtain ⟨_, _, _, _, writing, _, _, _, _, _⟩ := c
    cases writing
    · exact ⟨rfl, rfl, (List.append_nil _).symm⟩
    · exact ⟨rfl, rfl, rfl⟩
  | read x reader =>
    have hnothing : c.inner.handed (.read x reader) = [] := rfl
    rw [hnothing, List.append_nil]
    cases x with
    | failed error => exact leave_inner { c with reader := reader } (.error (.io error))
    | ended => exact leave_inner { c with reader := reader } _
    | message m =>
      simp only [make, afterRead, route]
      cases m.answers? with
      | none => exact ⟨rfl, rfl, rfl⟩
      | some id =>
        simp only [inner]
        cases c.inFlight.lookup id <;> exact ⟨rfl, rfl, rfl⟩
    | _ => exact ⟨rfl, rfl, rfl⟩
  | write => contradiction
  | drain => contradiction

/-- To leave is to write nothing, to keep the peer and to run no more. -/
theorem leave_quiet (c : Connection κ) (result : Except TransportError Unit) :
    Effect.written (c.leave result).1 = [] ∧ (c.leave result).2.outlet = c.outlet ∧
      (c.leave result).2.phase ≠ .running := by
  refine ⟨Effect.written_eq_nil ?_, ?_, ?_⟩ <;>
    (obtain ⟨_, _, inFlight, _, writing, _, _, _, _, _⟩ := c
     cases inFlight <;> cases result <;> cases writing <;> simp [leave, abandon, conclude])

/-- Only the writer's moves write. -/
theorem written_make (c : Connection κ) {m : Move κ} (hm : m.writes = false) :
    Effect.written (c.make m).1 = [] := by
  cases m with
  | stop => exact (c.leave_quiet (.ok ())).1
  | «seal» => rfl
  | take s rest =>
    refine Effect.written_eq_nil ?_
    intro bytes
    simp only [make, take, register]
    split <;> simp
  | read x reader =>
    cases x with
    | failed error => exact (leave_quiet { c with reader := reader } (.error (.io error))).1
    | ended => exact (leave_quiet { c with reader := reader } _).1
    | message m =>
      simp only [make, afterRead, route]
      split
      · rfl
      · split <;> rfl
    | _ => rfl
  | write => contradiction
  | drain => contradiction

/-- To take up a request is to leave the peer as it is and the writer open. -/
theorem take_output (c : Connection κ) (s : Submission κ) (rest : List (Submission κ)) :
    (c.take s rest).2.outlet = c.outlet ∧ (c.take s rest).2.writer.closed = c.writer.closed := by
  obtain ⟨_, _, _, _, writing, _, _, _, _, _⟩ := c
  cases writing <;> exact ⟨rfl, rfl⟩

/-- When its writer is done behind a good end, a connection is over; nobody is told anything. -/
theorem drain_done (c : Connection κ) {step : Writer.Step} (hdone : ∀ bytes, step ≠ .wrote bytes) :
    Effect.replies (c.afterDrain step c.writer c.outlet).1 = [] ∧
      Effect.written (c.afterDrain step c.writer c.outlet).1 = [] ∧
      (c.afterDrain step c.writer c.outlet).2 =
        { c with queue := [], writing := false, phase := .ended (.ok ()) } := by
  cases step with
  | wrote bytes => exact absurd rfl (hdone bytes)
  | finished => exact ⟨by simp [afterDrain, conclude, Effect.replies],
      Effect.written_eq_nil (by simp [afterDrain, conclude]), rfl⟩
  | failed text => exact ⟨by simp [afterDrain, conclude, Effect.replies],
      Effect.written_eq_nil (by simp [afterDrain, conclude]), rfl⟩

end Connection

/-- A step of a writer does not break its output. -/
theorem Writer.broken_step {w w' : Writer} {o o' : Outlet} {s : Writer.Step}
    (h : w.step o = some (s, w', o')) : o'.broken = o.broken := by
  rcases Writer.step_cases h with ⟨-, -, -, rfl, -⟩ | ⟨-, -, -, rfl, -⟩ | ⟨-, -, n, -, -, -, rfl, -⟩ <;>
    rfl

theorem History.written_after (h : History κ) (c : Connection κ) (m : Move κ) :
    (h.after c m).written = h.written ++ Effect.written (c.make m).1 := by
  rw [History.written, History.effects_after, Effect.written_append]
  rfl

theorem Aside.written {c c' : Connection κ} {h h' : History κ} (ha : Aside c h c' h') :
    h'.written = h.written := by
  obtain ⟨waiters, heffects⟩ := ha.effects
  have hnone : Effect.written (waiters.map .dropped : List (Effect κ)) = [] :=
    Effect.written_eq_nil (by simp)
  rw [History.written, heffects, Effect.written_append, hnone, List.append_nil, History.written]

/-! ## Writes that do not fail -/

namespace Connection

/-- Whether no write has failed or can fail. -/
structure Flows (c : Connection κ) : Prop where
  unbroken : c.outlet.broken = false
  unclosed : c.phase = .running → c.writer.closed = false

namespace Flows

variable {c : Connection κ}

/-- A running connection whose writes do not fail writes some of the bytes that it has. -/
theorem wrote (hc : c.Flows) (hrun : c.phase = .running) {step : Writer.Step}
    {writer : Writer} {outlet : Outlet} (hstep : c.writer.step c.outlet = some (step, writer, outlet)) :
    ∃ n, step = .wrote (c.writer.unsent.take n) ∧
      writer = { c.writer with unsent := c.writer.unsent.drop n } ∧
      outlet = c.outlet.afterTaking n := by
  rcases Writer.step_cases hstep with ⟨-, hclosed, -⟩ | ⟨-, hbroken, -⟩ |
      ⟨-, -, n, -, -, hwriter, houtlet, hs⟩
  · rw [hc.unclosed hrun] at hclosed
    contradiction
  · rw [hc.unbroken] at hbroken
    contradiction
  · exact ⟨n, hs, hwriter, houtlet⟩

theorem leave (hunbroken : c.outlet.broken = false) (result : Except TransportError Unit) :
    (c.leave result).2.Flows := by
  obtain ⟨-, houtlet, hstop⟩ := c.leave_quiet result
  refine ⟨?_, fun h => absurd h hstop⟩
  rw [houtlet, hunbroken]

theorem read (hc : c.Flows) (x : LineReader.Reading) (reader : LineReader) :
    (c.make (.read x reader)).2.Flows := by
  cases x with
  | failed error => exact leave (c := { c with reader := reader }) hc.unbroken _
  | ended => exact leave (c := { c with reader := reader }) hc.unbroken _
  | message m =>
    simp only [make, afterRead, route]
    split
    · exact ⟨hc.unbroken, hc.unclosed⟩
    · split <;> exact ⟨hc.unbroken, hc.unclosed⟩
  | _ => exact ⟨hc.unbroken, hc.unclosed⟩

/-- No move changes that. -/
theorem make (hc : c.Flows) {m : Move κ} (hm : c.next? = some m) : (c.make m).2.Flows := by
  cases chosen_of_next hm with
  | stop => exact leave hc.unbroken _
  | close => exact ⟨hc.unbroken, hc.unclosed⟩
  | @take s rest hrun =>
    obtain ⟨houtlet, hclosed⟩ := c.take_output s rest
    exact ⟨houtlet.symm ▸ hc.unbroken, fun _ => hclosed.symm ▸ hc.unclosed hrun⟩
  | write hrun hbusy hsettled hwriting hstep =>
    obtain ⟨n, rfl, rfl, rfl⟩ := hc.wrote hrun hstep
    exact ⟨hc.unbroken, hc.unclosed⟩
  | @read x reader => exact hc.read x reader
  | @drain step writer outlet hdrain hstep =>
    have hunbroken : outlet.broken = false := (Writer.broken_step hstep).trans hc.unbroken
    cases step with
    | wrote bytes => exact ⟨hunbroken, fun hrun => absurd (hdrain.symm.trans hrun) (by simp)⟩
    | finished => exact ⟨hunbroken, fun hrun => by contradiction⟩
    | failed text => exact ⟨hunbroken, fun hrun => by contradiction⟩

end Flows

end Connection

theorem Traffic.flows_turn {t : Traffic κ} (ht : t.connection.Flows) : t.turn.connection.Flows := by
  cases hm : t.connection.next? with
  | none => rwa [turn_of_waits hm]
  | some m =>
    rw [turn_eq hm]
    exact ht.make hm

/-! ## A run apart from its output -/

/-- What of a run does not depend on how fast the peer takes bytes. -/
@[ext]
structure View (κ : Type) where
  handles : Nat
  inFlight : List (String × κ)
  result : Option (Except TransportError Unit)
  /-- Who was told what. -/
  replies : List (κ × Option Json.Value)
  /-- The bytes that were handed to the writer. -/
  handed : Bytes
  /-- The connection apart from its output, while it runs. -/
  inner : Option (Connection κ)

namespace Traffic

/-- What of a run does not depend on how fast the peer takes bytes. -/
def view (t : Traffic κ) : View κ where
  handles := t.handles
  inFlight := t.connection.inFlight
  result := t.connection.phase.result?
  replies := t.history.replies
  handed := t.history.written ++ t.connection.writer.unsent
  inner := if t.connection.isRunning then some t.connection.inner else none

variable {t u : Traffic κ} {m : Move κ}

/-- **To write is not to change the view.** -/
theorem view_turn_of_writes (ht : t.connection.Flows) (hm : t.connection.next? = some m)
    (hwrites : m.writes = true) : t.turn.view = t.view := by
  rw [turn_eq hm]
  cases Connection.chosen_of_next hm with
  | write hrun hbusy hsettled hwriting hstep =>
    obtain ⟨n, rfl, rfl, rfl⟩ := ht.wrote hrun hstep
    refine View.ext rfl rfl rfl ?_ ?_ rfl
    · exact (History.replies_after ..).trans (List.append_nil _)
    · simp [view, History.written_after, Connection.make, Connection.afterWrite, Effect.written]
  | @drain step writer outlet hdrain hstep =>
    rcases Writer.step_cases hstep with ⟨-, -, rfl, rfl, hs⟩ | ⟨-, hbroken, -⟩ |
        ⟨-, -, n, -, -, rfl, rfl, rfl⟩
    · have hdone : ∀ bytes, step ≠ .wrote bytes := by
        rintro bytes rfl
        split at hs <;> contradiction
      obtain ⟨hreplies, hwritten, hmade⟩ := t.connection.drain_done hdone
      rw [← Connection.make] at hreplies hwritten hmade
      refine View.ext rfl ?_ ?_ ?_ ?_ ?_
      · rw [view, hmade]
        rfl
      · simp [view, hmade, hdrain, Phase.result?]
      · exact (History.replies_after ..).trans (hreplies ▸ List.append_nil _)
      · simp only [view, History.written_after, hmade, hwritten, List.append_nil]
      · simp [view, hmade, Connection.isRunning, hdrain]
    · rw [ht.unbroken] at hbroken
      contradiction
    · refine View.ext rfl rfl rfl ?_ ?_ rfl
      · exact (History.replies_after ..).trans (List.append_nil _)
      · simp [view, History.written_after, Connection.make, Connection.afterDrain, Effect.written]
  | _ => contradiction

/-- Runs with the same view have the same connection apart from its output, while it runs. -/
theorem inner_of_view (h : t.view = u.view) (hrun : t.connection.phase = .running) :
    t.connection.inner = u.connection.inner := by
  have hinner := congrArg View.inner h
  simp only [view, Connection.isRunning_iff.2 hrun, if_true] at hinner
  split at hinner
  · exact Option.some.inj hinner
  · contradiction

theorem running_of_view (h : t.view = u.view) (hrun : t.connection.phase = .running) :
    u.connection.phase = .running :=
  (congrArg (·.phase) (inner_of_view h hrun)).symm.trans hrun

theorem running_of_quiet (hm : t.connection.next? = some m) (hquiet : m.writes = false) :
    t.connection.phase = .running := by
  by_contra hstop
  rw [Connection.writes_of_stopped hm hstop] at hquiet
  contradiction

/-- **Any other move changes the view in a way that the view decides.** -/
theorem view_turn (h : t.view = u.view) (ht : t.connection.next? = some m)
    (hu : u.connection.next? = some m) (hquiet : m.writes = false) :
    t.turn.view = u.turn.view := by
  have hinner := inner_of_view h (running_of_quiet ht hquiet)
  obtain ⟨hteffects, htinner, htunsent⟩ := t.connection.make_inner hquiet
  obtain ⟨hueffects, huinner, huunsent⟩ := u.connection.make_inner hquiet
  have heffects : (t.connection.make m).1 = (u.connection.make m).1 := by
    rw [hteffects, hueffects, hinner]
  have hmade : (t.connection.make m).2.inner = (u.connection.make m).2.inner := by
    rw [htinner, huinner, hinner]
  have hhandles : t.handles = u.handles := congrArg View.handles h
  have hreplies : t.history.replies = u.history.replies := congrArg View.replies h
  have hhanded : t.history.written ++ t.connection.writer.unsent =
      u.history.written ++ u.connection.writer.unsent := congrArg View.handed h
  rw [turn_eq ht, turn_eq hu]
  refine View.ext hhandles ?_ ?_ ?_ ?_ ?_
  · exact congrArg (·.inFlight) hmade
  · exact congrArg (·.phase.result?) hmade
  · simp only [view, History.replies_after, hreplies, heffects]
  · simp only [view, History.written_after, Connection.written_make _ hquiet, List.append_nil,
      htunsent, huunsent, hinner, ← List.append_assoc, hhanded]
  · exact congrArg (fun c => if c.isRunning then some c else none) hmade

/-- A connection that writes comes to where it does something else. -/
theorem exists_quiet (ht : t.connection.Flows) : ∃ u : Traffic κ, u.connection.Flows ∧ u.view = t.view ∧
    u.settle = t.settle ∧ ∀ m, u.connection.next? = some m → m.writes = false := by
  fun_induction settle t with
  | case1 t h => exact ⟨t, ht, rfl, settle_of_waits h, by simp [h]⟩
  | case2 t m h ih =>
    cases hwrites : m.writes with
    | true =>
      obtain ⟨u, hu, hview, hsettle, hquiet⟩ := ih (flows_turn ht)
      exact ⟨u, hu, hview.trans (view_turn_of_writes ht h hwrites), hsettle, hquiet⟩
    | false =>
      refine ⟨t, ht, rfl, (settle_turn t).symm, ?_⟩
      intro m' hm'
      obtain rfl := Option.some.inj (h.symm.trans hm')
      exact hwrites

/-- Two runs with the same view make the same move next, apart from writing. -/
theorem next?_of_view (h : t.view = u.view)
    (ht : ∀ m, t.connection.next? = some m → m.writes = false)
    (hu : ∀ m, u.connection.next? = some m → m.writes = false) :
    t.connection.next? = u.connection.next? := by
  by_cases hrun : t.connection.phase = .running
  · rw [← Connection.next?_inner hrun ht, ← Connection.next?_inner (running_of_view h hrun) hu,
      inner_of_view h hrun]
  · have hrun' : u.connection.phase ≠ .running := fun hrun' => hrun (running_of_view h.symm hrun')
    have hnone (v : Traffic κ) (hstop : v.connection.phase ≠ .running)
        (hv : ∀ m, v.connection.next? = some m → m.writes = false) : v.connection.next? = none := by
      cases hm : v.connection.next? with
      | none => rfl
      | some m => exact absurd (running_of_quiet hm (hv m hm)) hstop
    rw [hnone t hrun ht, hnone u hrun' hu]

/-- **Two runs with the same view have the same view when they wait.** -/
theorem view_settle (ht : t.connection.Flows) (hu : u.connection.Flows) (h : t.view = u.view) :
    t.settle.view = u.settle.view := by
  fun_induction settle t generalizing u with
  | case1 t hwaits =>
    obtain ⟨v, -, hview, hsettle, hquiet⟩ := exists_quiet hu
    have hnext := next?_of_view (h.trans hview.symm) (by simp [hwaits]) hquiet
    rw [← hsettle, settle_of_waits (hnext ▸ hwaits), hview, h]
  | case2 t m hm ih =>
    cases hwrites : m.writes with
    | true => exact ih (flows_turn ht) hu ((view_turn_of_writes ht hm hwrites).trans h)
    | false =>
      obtain ⟨v, hv, hview, hsettle, hquiet⟩ := exists_quiet hu
      have hsame := h.trans hview.symm
      have hnext := next?_of_view hsame (fun m' hm' => by
        obtain rfl := Option.some.inj (hm.symm.trans hm')
        exact hwrites) hquiet
      rw [← hsettle, ← settle_turn v]
      exact ih (flows_turn ht) (flows_turn hv) (view_turn hsame hm (hnext ▸ hm) hwrites)

theorem flows_settle (ht : t.connection.Flows) : t.settle.connection.Flows := by
  fun_induction settle t with
  | case1 t h => exact ht
  | case2 t m h ih => exact ih (flows_turn ht)

/-! ## What happens outside -/

theorem handles_meet_congr (h : t.handles = u.handles) {e : Event κ} (he : e ≠ .turn) :
    (t.meet e).handles = (u.meet e).handles := by
  obtain ⟨c, handles, history⟩ := t
  obtain ⟨c', handles', history'⟩ := u
  obtain rfl : handles = handles' := h
  have hsubmit (v : Traffic κ) (s : Submission κ) : (v.submit s).handles = v.handles := by
    obtain ⟨queue, history, hv⟩ := v.submit_eq s
    rw [hv]
  cases e with
  | submit s => cases handles <;> simp [meet, hsubmit]
  | clone => cases handles <;> rfl
  | drop => rcases handles with - | - | n <;> rfl
  | peer p => rfl
  | turn => exact absurd rfl he

/-- What happens outside does not depend on the output. -/
theorem inner_meet (t : Traffic κ) {e : Event κ} (he : e ≠ .turn) : (t.meet e).connection.inner =
    (meet ⟨t.connection.inner, t.handles, .empty⟩ e).connection.inner := by
  obtain ⟨c, handles, history⟩ := t
  cases e with
  | submit s =>
    have hclosed : c.inner.isClosed = c.isClosed := rfl
    simp only [meet, submit, Connection.submit, hclosed]
    cases handles <;> cases c.isClosed <;> rfl
  | clone => cases handles <;> rfl
  | drop => rcases handles with - | - | n <;> rfl
  | peer p => cases p <;> rfl
  | turn => exact absurd rfl he

/-- **What happens outside changes the view in a way that the view decides.** -/
theorem view_meet (h : t.view = u.view) {e : Event κ} (he : e ≠ .turn) :
    (t.meet e).view = (u.meet e).view := by
  have hat := t.aside_meet he
  have hau := u.aside_meet he
  have hhandles : t.handles = u.handles := congrArg View.handles h
  have hresult : t.connection.phase.result? = u.connection.phase.result? := congrArg View.result h
  have hhanded : t.history.written ++ t.connection.writer.unsent =
      u.history.written ++ u.connection.writer.unsent := congrArg View.handed h
  refine View.ext (handles_meet_congr hhandles he) ?_ ?_ ?_ ?_ ?_
  · exact (hat.inFlight.trans (congrArg View.inFlight h)).trans hau.inFlight.symm
  · simp only [view, hat.phase, hau.phase, hresult]
  · exact (hat.replies.trans (congrArg View.replies h)).trans hau.replies.symm
  · simp only [view, hat.written, hau.written, hat.writer, hau.writer, hhanded]
  · by_cases hrun : t.connection.phase = .running
    · have hinner : (t.meet e).connection.inner = (u.meet e).connection.inner := by
        rw [t.inner_meet he, u.inner_meet he, inner_of_view h hrun, hhandles]
      exact congrArg (fun c => if c.isRunning then some c else none) hinner
    · have hrun' : u.connection.phase ≠ .running :=
        fun hrun' => hrun (running_of_view h.symm hrun')
      have hnone (v : Traffic κ) (hstop : v.connection.phase ≠ .running) : v.view.inner = none :=
        if_neg fun h => hstop (Connection.isRunning_iff.1 h)
      rw [hnone _ (hat.phase ▸ hrun), hnone _ (hau.phase ▸ hrun')]

end Traffic

/-- Whether something happens outside and no write fails for it. -/
def Event.isInput : Event κ → Bool
  | .turn | .peer .breakOutput => false
  | .submit _ | .clone | .drop | .peer _ => true

namespace Traffic

variable {t : Traffic κ}

theorem flows_meet (ht : t.connection.Flows) {e : Event κ} (he : e.isInput = true) :
    (t.meet e).connection.Flows := by
  cases e with
  | submit s =>
    simp only [meet]
    split
    · exact ht
    · rw [connection_submit]
      split
      · exact ht
      · exact ⟨ht.unbroken, ht.unclosed⟩
  | clone =>
    simp only [meet]
    split <;> exact ht
  | drop =>
    simp only [meet]
    split
    · exact ht
    · exact ⟨ht.unbroken, ht.unclosed⟩
    · exact ht
  | peer p =>
    cases p with
    | breakOutput => contradiction
    | widen n => cases n <;> exact ⟨ht.unbroken, ht.unclosed⟩
    | _ => exact ⟨ht.unbroken, ht.unclosed⟩
  | turn => contradiction

end Traffic

/-! ## Runs with a peer that takes bytes when it likes -/

/-- When the peer takes more bytes: after how many moves of the connection, and how many. -/
structure Opening where
  moves : Nat
  window : Option Nat

namespace Buffered

/-- The connection makes moves, and then the peer takes more bytes. -/
def widen (size : Nat) (b : Buffered κ) (o : Opening) : Buffered κ :=
  ((turn size)^[o.moves] b).meet size (.peer (.widen o.window))

/-- A run after another event, once the connection waits again; meanwhile the peer takes bytes. -/
def step (size : Nat) (b : Buffered κ) (e : Event κ) (openings : List Opening) : Buffered κ :=
  (openings.foldl (widen size) (b.meet size e)).settle size

/-- A run of steps. -/
def play (size : Nat) (session : String) (outlet : Outlet)
    (script : List (Event κ × List Opening)) : Buffered κ :=
  script.foldl (fun b p => b.step size p.1 p.2) (start session outlet)

variable {size : Nat} {session : String} {outlet : Outlet}

theorem flows_turn {b : Buffered κ} (hb : b.plain.connection.Flows) :
    (b.turn size).plain.connection.Flows := by
  cases h : b.next? size with
  | none => rwa [turn, h]
  | some b' =>
    rw [turn, h, Option.getD_some]
    rcases next?_cases h with ⟨m, -, hplain⟩ | ⟨-, -, x, reader, -, rfl⟩
    · rw [hplain]
      exact Traffic.flows_turn hb
    · have hmade : (plain ⟨b.traffic.read x, reader⟩).connection =
          (b.plain.connection.make (.read x reader.plain)).2 :=
        (congrArg Prod.snd (b.traffic.connection.make_read b.reader.plain x reader.plain)).symm
      rw [hmade]
      exact hb.read x reader.plain

/-- What a run will be when its connection waits does not change in a turn. -/
theorem settle_turn (hsize : 0 < size) (b : Buffered κ) :
    (b.turn size).plain.settle = b.plain.settle := by
  cases h : b.next? size with
  | none => rw [turn, h, Option.getD_none]
  | some b' => rw [turn, h, Option.getD_some, settle_next? hsize h]

/-- Nor does its view when the peer takes more bytes. -/
theorem view_widen (hsize : 0 < size) {b : Buffered κ} (hb : b.plain.connection.Flows)
    (o : Opening) : (b.widen size o).plain.connection.Flows ∧
      (b.widen size o).plain.settle.view = b.plain.settle.view := by
  obtain ⟨hflows, hsettle⟩ : ((turn size)^[o.moves] b).plain.connection.Flows ∧
      ((turn size)^[o.moves] b).plain.settle = b.plain.settle := by
    induction o.moves with
    | zero => exact ⟨hb, rfl⟩
    | succ n ih =>
      rw [Function.iterate_succ_apply']
      exact ⟨flows_turn ih.1, (settle_turn hsize _).trans ih.2⟩
  have hwide := Traffic.flows_meet hflows (e := .peer (.widen o.window)) rfl
  rw [widen, plain_meet size _ (by simp), ← hsettle]
  exact ⟨hwide, Traffic.view_settle hwide hflows (View.ext rfl rfl rfl rfl rfl rfl)⟩

/-- A step does to the view what it does with a peer that takes no more bytes, without a buffer. -/
theorem view_step (hsize : 0 < size) {b : Buffered κ} (hb : b.plain.connection.Flows)
    {e : Event κ} (he : e.isInput = true) (openings : List Opening) :
    (b.step size e openings).plain.connection.Flows ∧
      (b.step size e openings).plain.view = (b.plain.step e).view := by
  have hturn : e ≠ .turn := by
    rintro rfl
    contradiction
  obtain ⟨hflows, hview⟩ : (openings.foldl (widen size) (b.meet size e)).plain.connection.Flows ∧
      (openings.foldl (widen size) (b.meet size e)).plain.settle.view = (b.plain.step e).view := by
    induction openings using List.reverseRecOn with
    | nil =>
      rw [List.foldl_nil, plain_meet size b hturn]
      exact ⟨Traffic.flows_meet hb he, rfl⟩
    | append_singleton openings o ih =>
      rw [List.foldl_append]
      obtain ⟨hflows, hview⟩ := view_widen hsize ih.1 o
      exact ⟨hflows, hview.trans ih.2⟩
  rw [step, plain_settle hsize]
  exact ⟨Traffic.flows_settle hflows, hview⟩

/-- **Every run has the view of the run with a peer that takes everything at once**, whatever the
    size of its buffer and whenever its peer takes how many bytes. -/
theorem view_play (hsize : 0 < size) (hunbroken : outlet.broken = false)
    {script : List (Event κ × List Opening)}
    (hinput : ∀ e ∈ script.map Prod.fst, e.isInput = true) :
    (play size session outlet script).plain.view =
      (Traffic.play session .unlimited (script.map Prod.fst)).view := by
  suffices (play size session outlet script).plain.connection.Flows ∧
      (Traffic.play session .unlimited (script.map Prod.fst)).connection.Flows ∧
      (play size session outlet script).plain.view =
        (Traffic.play session .unlimited (script.map Prod.fst)).view from this.2.2
  induction script using List.reverseRecOn with
  | nil => exact ⟨⟨hunbroken, fun _ => rfl⟩, ⟨rfl, fun _ => rfl⟩, rfl⟩
  | append_singleton script p ih =>
    rw [List.map_append] at hinput
    obtain ⟨hflows, hflows', hview⟩ := ih fun e he => hinput e (List.mem_append_left _ he)
    have he := hinput p.1 (List.mem_append_right _ (List.mem_singleton_self _))
    have hturn : p.1 ≠ .turn := by
      intro h
      rw [h] at he
      contradiction
    rw [play, List.foldl_append, List.map_append, Traffic.play_append]
    obtain ⟨hstep, hsame⟩ := view_step hsize hflows he p.2
    have hlater := Traffic.flows_meet hflows' he
    refine ⟨hstep, Traffic.flows_settle hlater, hsame.trans ?_⟩
    exact Traffic.view_settle (Traffic.flows_meet hflows he) hlater
      (Traffic.view_meet hview hturn)

/-- **Backpressure does not change behaviour.** Two runs of the same events, in which no write fails,
    may differ in the size of the buffer that they read through and in when their peers take how
    many bytes. Behind every step the same waiters were told the same replies in the same order, the
    same requests are in flight, and the connections have the same result or none; and what one has
    written starts with what the other has written. -/
theorem same_behaviour_under_backpressure {size₁ size₂ : Nat} (hsize₁ : 0 < size₁)
    (hsize₂ : 0 < size₂) {outlet₁ outlet₂ : Outlet} (hunbroken₁ : outlet₁.broken = false)
    (hunbroken₂ : outlet₂.broken = false) {script₁ script₂ : List (Event κ × List Opening)}
    (hsame : script₁.map Prod.fst = script₂.map Prod.fst)
    (hinput : ∀ e ∈ script₁.map Prod.fst, e.isInput = true) (session : String) :
    let t := (play size₁ session outlet₁ script₁).traffic
    let u := (play size₂ session outlet₂ script₂).traffic
    t.history.replies = u.history.replies ∧ t.connection.inFlight = u.connection.inFlight ∧
      t.connection.phase.result? = u.connection.phase.result? ∧
      (t.history.written <+: u.history.written ∨ u.history.written <+: t.history.written) := by
  intro t u
  have hview : (play size₁ session outlet₁ script₁).plain.view =
      (play size₂ session outlet₂ script₂).plain.view := by
    rw [view_play hsize₁ hunbroken₁ hinput, view_play hsize₂ hunbroken₂ (hsame ▸ hinput), hsame]
  have hhanded : t.history.written ++ t.connection.writer.unsent =
      u.history.written ++ u.connection.writer.unsent := congrArg View.handed hview
  refine ⟨congrArg View.replies hview, congrArg View.inFlight hview, congrArg View.result hview, ?_⟩
  have hwritten : t.history.written <+: u.history.written ++ u.connection.writer.unsent :=
    hhanded ▸ List.prefix_append ..
  exact List.prefix_or_prefix_of_prefix hwritten (List.prefix_append ..)

theorem same_behaviour_under_backpressure_blocked_peer :
    let reply := Message.replyTo (.request "s_0" "a" "s" .null) "r" .null
    let events : List (Event Nat) := [.submit ⟨"a", .null, 0⟩, .submit ⟨"b", .null, 1⟩,
      .peer (.feed reply.line), .drop]
    let quick := events.map fun e => (e, ([] : List Opening))
    let slow := events.map fun e => (e, [(⟨2, some 7⟩ : Opening)])
    let blocked : Outlet := ⟨some 0, false, false⟩
    0 < 1 ∧ 0 < 8192 ∧ Outlet.unlimited.broken = false ∧ blocked.broken = false ∧
      quick.map Prod.fst = slow.map Prod.fst ∧ (∀ e ∈ quick.map Prod.fst, e.isInput = true) ∧
      (play 1 "s" .unlimited quick).traffic.history.replies =
        (play 8192 "s" blocked slow).traffic.history.replies := by
  intro reply events quick slow blocked
  have hinput : ∀ e ∈ quick.map Prod.fst, e.isInput = true := by
    simp [quick, events, Event.isInput]
  have hsame : quick.map Prod.fst = slow.map Prod.fst := rfl
  have hunbroken : Outlet.unlimited.broken = false := rfl
  have hblocked : blocked.broken = false := rfl
  have hsize : 0 < 8192 := by decide
  obtain ⟨hreplies, -⟩ :=
    same_behaviour_under_backpressure Nat.one_pos hsize hunbroken hblocked hsame hinput "s"
  exact ⟨Nat.one_pos, hsize, hunbroken, hblocked, hsame, hinput, hreplies⟩

end Buffered

end FormatBridge
