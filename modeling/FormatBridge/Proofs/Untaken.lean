import FormatBridge.Proofs.Result

set_option autoImplicit false

/-! # Branches that are never taken

A connection provides for a writer that has ended while requests are still taken up, for a waiter
that is registered under an id already in use, and for a writer that ends well although more may be
handed to it. None of this happens as long as the ids do not run out, because the writer's end is the
end of its connection: a running connection has a writer that was not told to end
(`Ledger.writing`), only the last move of all can end it (`Traffic.untaken_branches`), and nobody is
asked for a writer's step behind that (`Connection.polls`). -/

namespace FormatBridge

variable {κ : Type}

/-! ## The writer's part -/

/-- Whether the writer comes to its end in a move, well or not. -/
def Move.endsWriter : Move κ → Bool
  | .write step .. | .drain step .. =>
    match step with
    | .wrote _ => false
    | .finished | .failed _ => true
  | .stop | .take .. | .seal | .read .. => false

namespace Connection

/-- Whether the writer is asked for a step when the connection looks for its next move. -/
def polls (c : Connection κ) : Bool :=
  match c.phase with
  | .running => c.writing
  | .draining => true
  | .ended _ | .aborted => false

/-- The next move does not depend on a writer that is not asked. -/
theorem next?_of_not_polls {c : Connection κ} (h : c.polls = false) (writer : Writer)
    (outlet : Outlet) : { c with writer := writer, outlet := outlet }.next? = c.next? := by
  unfold polls at h
  split at h
  · rename_i hrun
    simp only [next?, hrun, write?, h]
    rfl
  · contradiction
  · rename_i hended
    simp only [next?, hended]
  · rename_i haborted
    simp only [next?, haborted]

end Connection

/-! ## What one move does -/

section Steps

variable {session : String} {c c' : Connection κ} {h h' : History κ} {m : Move κ}

/-- A move that ends the writer ends the connection. -/
theorem Advance.ended_of_endsWriter (ha : Advance session c h m c' h') (hends : m.endsWriter = true) :
    ∃ result, c'.phase = .ended result := by
  cases ha with
  | finish hrun hquiet hfinishes => cases hfinishes <;> contradiction
  | fail hrun hfails writing => exact ⟨_, rfl⟩
  | shutDown hdrain hstep => exact ⟨_, rfl⟩
  | giveUp hdrain hstep => exact ⟨_, rfl⟩
  | _ => contradiction

/-- A running connection's writer writes, or it fails and the connection with it. -/
theorem Advance.write_cases {step : Writer.Step} {writer : Writer} {outlet : Outlet}
    (ha : Advance session c h (.write step writer outlet) c' h') :
    (∃ bytes, step = .wrote bytes) ∨
      ∃ text, step = .failed text ∧ c'.phase = .ended (.error (.io text)) := by
  cases ha with
  | write hrun hstep => exact .inl ⟨_, rfl⟩
  | finish hrun hquiet hfinishes => cases hfinishes
  | fail hrun hfails writing =>
    cases hfails with
    | write hstep => exact .inr ⟨_, rfl, rfl⟩

/-- No move says that a request cannot be written. -/
theorem Advance.writable (ha : Advance session c h m c' h') {id kind : String}
    (hmem : .log (.requestUnwritable id kind) ∈ h'.effects) :
    .log (.requestUnwritable id kind) ∈ h.effects := by
  cases ha with
  | fail hrun hfails writing =>
    refine (List.mem_append.1 hmem).resolve_right ?_
    intro h
    rcases Connection.mem_farewell h with h | ⟨waiter, h⟩ | ⟨waiter, h⟩ <;> simp at h
  | @ignore m reader hrun hstep hunknown =>
    refine (List.mem_append.1 hmem).resolve_right ?_
    rcases m.unclaimed_cases with h | ⟨id, h⟩ <;> simp [h]
  | _ => simpa [History.did] using hmem

/-- Nobody waits under the id that a request is given, so its waiter takes no one's place. -/
theorem Ledger.take_fresh (hl : Ledger session c h) {s : Submission κ} {rest : List (Submission κ)}
    (hrun : c.phase = .running) : (∀ p ∈ c.inFlight, p.1 ≠ c.ids.take.1) ∧
      c.make (.take s rest) = ([.log (.requestQueued c.ids.take.1 s.kind)],
        { c with
          ids := c.ids.take.2
          queue := rest
          writer := c.writer.push (Message.request c.ids.take.1 s.kind session s.payload).line
          inFlight := c.inFlight ++ [(c.ids.take.1, s.waiter)] }) := by
  have hid : c.ids.take = (requestId session h.taken.length,
      ⟨session, ⟨(h.taken.length + 1) % Counter.size⟩⟩) := by
    rw [hl.source]
    rfl
  rw [hid]
  exact ⟨hl.inFlight_fresh, hl.take_eq hrun s rest⟩

end Steps

/-! ## Whole runs -/

namespace Traffic

variable {session : String} {outlet : Outlet}

theorem writable_kept (session id kind : String) :
    Kept session (fun (_ : Connection κ) h => .log (.requestUnwritable id kind) ∉ h.effects) where
  start _ := List.not_mem_nil
  aside hnone haside := by
    obtain ⟨waiters, heffects⟩ := haside.effects
    rw [heffects]
    simpa using hnone
  advance _ hnone hadvance hmem := hnone (hadvance.writable hmem)

/-- What another event adds to the moves of a run: none, and then the connection stays where it stands,
    or the one that it makes. -/
theorem moves_run (script : List (Event κ)) (e : Event κ) :
    let t := run session outlet script
    let before := (start session outlet).moves script
    ((start session outlet).moves (script ++ [e]) = before ∧
        (t.meet e).connection.phase = t.connection.phase) ∨
      ∃ m, e = .turn ∧ t.connection.next? = some m ∧
        (start session outlet).moves (script ++ [e]) = before ++ [m] := by
  intro t before
  have hmoves : (start session outlet).moves (script ++ [e]) = before ++ t.moves [e] :=
    moves_append ..
  rw [hmoves]
  by_cases he : e = .turn
  · subst he
    cases hm : t.connection.next? with
    | none =>
      refine .inl ⟨by simp [moves, hm], ?_⟩
      simp only [meet, turn, hm]
    | some m => exact .inr ⟨m, rfl, rfl, by simp [moves, hm]⟩
  · refine .inl ⟨?_, (t.aside_meet he).phase⟩
    cases e <;> simp_all [moves]

/-- **Only the last move of a connection can end its writer**, and with it the connection. -/
theorem endsWriter_last (script : List (Event κ)) (hfew : (waiters script).length < Counter.size) :
    (∀ m ∈ ((start session outlet).moves script).dropLast, m.endsWriter = false) ∧
      (Made session outlet script Move.endsWriter →
        ∃ result, (run session outlet script).connection.phase = .ended result) := by
  induction script using List.reverseRecOn with
  | nil =>
    refine ⟨fun m hm => absurd hm List.not_mem_nil, ?_⟩
    rintro ⟨m, hm, -⟩
    exact absurd hm List.not_mem_nil
  | append_singleton script e ih =>
    rw [waiters_append, List.length_append] at hfew
    obtain ⟨hlast, hover⟩ := ih (by omega)
    rw [run_append, Made]
    rcases @moves_run κ session outlet script e with ⟨hmoves, hphase⟩ | ⟨m, rfl, hm, hmoves⟩
    · rw [hmoves, hphase]
      exact ⟨hlast, hover⟩
    have hl := @ledger_run κ session outlet script (by omega)
    have hadvance : Advance session _ _ m _ _ := .of_next hl hm
    -- it still makes a move, so no move before has ended its writer
    have hnone : ∀ m' ∈ (start session outlet).moves script, m'.endsWriter = false := by
      intro m' hm'
      by_contra hends
      obtain ⟨result, hended⟩ := hover ⟨m', hm', by simpa using hends⟩
      exact hadvance.phase_ne result hended
    rw [hmoves, List.dropLast_concat]
    refine ⟨hnone, ?_⟩
    rintro ⟨m', hm', hends⟩
    rcases List.mem_append.1 hm' with hm' | hm'
    · rw [hnone m' hm'] at hends
      contradiction
    · rw [List.mem_singleton.1 hm'] at hends
      simp only [meet, turn, hm]
      exact hadvance.ended_of_endsWriter hends

/-- **The branches that no connection takes.** In every state of every run in which the ids do not
    run out: while the connection runs, its writer is at work and was not told to end, and nobody was
    told that there is no reply; a request that is taken up is handed to that writer, and its waiter
    is registered under an id under which nobody waits; it was never logged that a request cannot be
    written; a step of the writer of a running connection writes, or it fails and the connection ends
    with that error at once; and only the last move of all can end the writer, which is not asked for
    a step after that. -/
theorem untaken_branches (session : String) (outlet : Outlet) (script : List (Event κ))
    (hfew : (waiters script).length < Counter.size) :
    let t := run session outlet script
    let c := t.connection
    (c.phase = .running → c.writing = true ∧ c.writer.closed = false ∧
        ¬ Made session outlet script Move.endsWriter ∧
        ∀ waiter, (waiter, none) ∉ t.history.replies) ∧
      (∀ s rest, c.next? = some (.take s rest) →
        let id := c.ids.take.1
        c.phase = .running ∧ (∀ p ∈ c.inFlight, p.1 ≠ id) ∧
          c.make (.take s rest) = ([.log (.requestQueued id s.kind)],
            { c with
              ids := c.ids.take.2
              queue := rest
              writer := c.writer.push (Message.request id s.kind session s.payload).line
              inFlight := c.inFlight ++ [(id, s.waiter)] })) ∧
      (∀ id kind, .log (.requestUnwritable id kind) ∉ t.history.effects) ∧
      (∀ step writer outlet', c.next? = some (.write step writer outlet') →
        (∃ bytes, step = .wrote bytes) ∨ ∃ text, step = .failed text ∧
          (c.make (.write step writer outlet')).2.phase = .ended (.error (.io text))) ∧
      (∀ m ∈ ((start session outlet).moves script).dropLast, m.endsWriter = false) ∧
      (Made session outlet script Move.endsWriter →
        c.polls = false ∧ ∃ result, c.phase = .ended result) := by
  intro t c
  have hl : Ledger session c t.history := ledger_run script hfew
  have haccount : Account c t.history := (Account.kept session).run outlet hfew
  obtain ⟨hlast, hover⟩ := @endsWriter_last κ session outlet script hfew
  refine ⟨?_, ?_, ?_, ?_, hlast, ?_⟩
  · intro hrun
    obtain ⟨hwriting, hopen⟩ := hl.writing (Connection.isRunning_iff.2 hrun)
    obtain ⟨given, htold⟩ := haccount.of_running hrun
    refine ⟨hwriting, hopen, ?_, ?_⟩
    · intro hmade
      obtain ⟨result, hended⟩ := hover hmade
      exact absurd (hrun.symm.trans hended) (by simp)
    · intro waiter
      simp [htold, withReply]
  · intro s rest hm id
    cases Connection.chosen_of_next hm with
    | take hrun haccepting hqueue => exact ⟨hrun, hl.take_fresh hrun⟩
  · exact fun id kind => (writable_kept session id kind).run outlet hfew
  · exact fun step writer outlet' hm => (Advance.of_next hl hm).write_cases
  · intro hmade
    obtain ⟨result, hended⟩ := hover hmade
    have hended : c.phase = .ended result := hended
    exact ⟨by simp only [Connection.polls, hended], result, hended⟩

theorem untaken_branches_broken_output :
    let script : List (Event Nat) := [.submit ⟨"a", .null, 0⟩, .submit ⟨"b", .null, 1⟩, .turn, .turn,
      .peer .breakOutput, .turn, .submit ⟨"c", .null, 2⟩, .turn]
    (waiters script).length < Counter.size ∧ Made "s" .unlimited script Move.endsWriter ∧
      (run "s" .unlimited script).connection.polls = false := by
  intro script
  have hfew : (waiters script).length < Counter.size := by decide
  have hmade : Made "s" .unlimited script Move.endsWriter := by decide +kernel
  obtain ⟨-, -, -, -, -, hover⟩ := untaken_branches "s" .unlimited script hfew
  exact ⟨hfew, hmade, (hover hmade).1⟩

end Traffic

end FormatBridge
