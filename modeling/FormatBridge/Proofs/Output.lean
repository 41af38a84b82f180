import FormatBridge.Proofs.Writing

set_option autoImplicit false

/-! # What reaches the output

The bytes that a connection has written are the start of the lines of the requests that it has taken
up, in the order in which these were accepted. Behind a good end the rest of the lines follows and
then the output is shut down, once, unless the output fails; behind an error nothing follows at all
(`Closing`). -/

namespace FormatBridge

variable {κ : Type}

/-! ## The lines of requests -/

/-- The lines of requests, numbered from 0, one behind the other. -/
def requestLines (session : String) (requests : List (Submission κ)) : Bytes :=
  (requests.mapIdx (Submission.message session)).flatMap Message.line

theorem requestLines_append (session : String) (requests more : List (Submission κ)) :
    ∃ behind, requestLines session (requests ++ more) =
      requestLines session requests ++ behind := by
  rw [requestLines, List.mapIdx_append, List.flatMap_append]
  exact ⟨_, rfl⟩

theorem requestLines_mono (session : String) {requests all : List (Submission κ)}
    (h : requests <+: all) : requestLines session requests <+: requestLines session all := by
  obtain ⟨more, rfl⟩ := h
  obtain ⟨behind, heq⟩ := requestLines_append session requests more
  rw [heq]
  exact List.prefix_append ..

section Lines

variable {session : String} {c : Connection κ} {h : History κ}

/-- The messages that were sent are numbered in the order in which the requests were accepted. -/
theorem Ledger.messages_taken (hl : Ledger session c h) : h.taken.map (·.message session) =
    (h.taken.map (·.request)).mapIdx (Submission.message session) := by
  refine List.ext_getElem? ?_
  intro k
  rw [List.getElem?_map, List.getElem?_mapIdx, List.getElem?_map]
  cases hr : h.taken[k]? with
  | none => rfl
  | some r =>
    rw [Option.map_some, Option.map_some, Option.map_some, Taken.message, hl.id_eq hr]
    rfl

/-- What was written and what is still to be written are the lines of the requests. -/
theorem Sent.lines (hs : Sent session c h) (hl : Ledger session c h) :
    h.written ++ c.writer.unsent = requestLines session (h.taken.map (·.request)) := by
  rw [requestLines, ← hl.messages_taken]
  exact hs

end Lines

/-! ## The end of the output -/

/-- Whether an effect reaches the output. -/
def Effect.isOutput : Effect κ → Bool
  | .wrote _ | .shutDown => true
  | .log _ | .reply .. | .dropped _ => false

/-- What has reached the output, in order. -/
def History.output (h : History κ) : List (Effect κ) := h.effects.filter Effect.isOutput

/-- Whether the output fails in a move. -/
def Move.failsOutput : Move κ → Bool
  | .write (.failed _) .. | .drain (.failed _) .. => true
  | _ => false

theorem History.output_silent {h h' : History κ} {effects : List (Effect κ)}
    (heffects : h'.effects = h.effects ++ effects) (hnone : ∀ e ∈ effects, e.isOutput = false) :
    h'.output = h.output := by
  have hfilter : effects.filter Effect.isOutput = [] := by
    rw [List.filter_eq_nil_iff]
    intro e he
    rw [hnone e he]
    exact Bool.false_ne_true
  rw [output, heffects, List.filter_append, hfilter, List.append_nil, output]

theorem Connection.silent_farewell (c : Connection κ) :
    ∀ e ∈ c.farewell, e.isOutput = false := by
  intro e he
  rcases mem_farewell he with rfl | ⟨waiter, rfl⟩ | ⟨waiter, rfl⟩ <;> rfl

/-- What has reached the output: pieces of lines, and behind a good end the shutdown, unless it is
    logged that the output failed. -/
inductive Closing (c : Connection κ) (h : History κ) : Prop where
  | unclosed (pieces : List Bytes) (output : h.output = pieces.map .wrote)
    (failed : c.phase = .ended (.ok ()) → ∃ text, .log (.shutdownFailed text) ∈ h.effects)
  | closed (pieces : List Bytes) (output : h.output = pieces.map .wrote ++ [.shutDown])
    (phase : c.phase = .ended (.ok ())) (unsent : c.writer.unsent = [])

namespace Closing

variable {session : String} {c c' : Connection κ} {h h' : History κ}

theorem aside (hc : Closing c h) (ha : Aside c h c' h') : Closing c' h' := by
  obtain ⟨waiters, heffects⟩ := ha.effects
  have houtput : h'.output = h.output :=
    History.output_silent heffects (by simp [Effect.isOutput])
  cases hc with
  | unclosed pieces output failed =>
    refine .unclosed pieces (houtput.trans output) ?_
    intro hphase
    obtain ⟨text, hmem⟩ := failed (ha.phase ▸ hphase)
    exact ⟨text, heffects ▸ List.mem_append_left _ hmem⟩
  | closed pieces output phase unsent =>
    exact .closed pieces (houtput.trans output) (ha.phase.trans phase)
      ((congrArg Writer.unsent ha.writer).trans unsent)

/-- A move that writes nothing and does not end the connection well keeps it. -/
theorem of_silent {pieces : List Bytes} (output : h.output = pieces.map .wrote)
    {effects : List (Effect κ)} (heffects : h'.effects = h.effects ++ effects)
    (hnone : ∀ e ∈ effects, e.isOutput = false) (hphase : c'.phase ≠ .ended (.ok ())) :
    Closing c' h' :=
  .unclosed pieces ((History.output_silent heffects hnone).trans output)
    fun h => absurd h hphase

theorem advance (hc : Closing c h) {m : Move κ} (ha : Advance session c h m c' h') :
    Closing c' h' := by
  have hpieces : ∃ pieces : List Bytes, h.output = pieces.map .wrote := by
    cases hc with
    | unclosed pieces output failed => exact ⟨pieces, output⟩
    | closed pieces output phase unsent => exact absurd phase (ha.phase_ne _)
  obtain ⟨pieces, houtput⟩ := hpieces
  cases ha with
  | @write bytes writer outlet hrun hstep =>
    refine .unclosed (pieces ++ [bytes]) ?_ (by simp [hrun])
    rw [List.map_append, ← houtput]
    exact List.filter_append ..
  | @flush bytes writer outlet hdrain hstep =>
    refine .unclosed (pieces ++ [bytes]) ?_ (by simp [hdrain])
    rw [List.map_append, ← houtput]
    exact List.filter_append ..
  | shutDown hdrain hstep =>
    refine .closed pieces ?_ rfl (Writer.closed_of_finished hstep).2
    have hdropped : (c.queue.map fun s => Effect.dropped s.waiter).filter Effect.isOutput = [] := by
      simp [Effect.isOutput]
    rw [← houtput, History.output, History.did, List.filter_append,
      List.filter_cons_of_pos rfl, hdropped]
    rfl
  | @giveUp text hdrain hstep =>
    refine .unclosed pieces ?_ fun _ => ⟨text, by simp [History.did]⟩
    exact (History.output_silent rfl (by simp [Effect.isOutput])).trans houtput
  | fail hrun hfails writing =>
    exact of_silent houtput rfl c.silent_farewell (by simp)
  | finish hrun hquiet hfinishes => exact of_silent houtput rfl (by simp) (by simp)
  | _ => exact of_silent houtput rfl (by simp [Effect.isOutput]) (by simp_all)

/-- It holds in every state of every run. -/
theorem kept (session : String) : Kept session (@Closing κ) :=
  ⟨fun _ => .unclosed [] rfl (by simp [Connection.start]), aside, fun _ hc ha => hc.advance ha⟩

end Closing

/-- That the output failed behind a good end is logged only in a move in which it does. -/
theorem Advance.logged {session : String} {c c' : Connection κ} {h h' : History κ} {m : Move κ}
    (ha : Advance session c h m c' h') {text : String}
    (hmem : .log (.shutdownFailed text) ∈ h'.effects) :
    .log (.shutdownFailed text) ∈ h.effects ∨ m.failsOutput = true := by
  cases ha with
  | fail hrun hfails writing =>
    refine .inl ((List.mem_append.1 hmem).resolve_right ?_)
    intro h
    rcases Connection.mem_farewell h with h | ⟨waiter, h⟩ | ⟨waiter, h⟩ <;> simp at h
  | @ignore m reader hrun hstep hunknown =>
    refine .inl ((List.mem_append.1 hmem).resolve_right ?_)
    rcases m.unclaimed_cases with h | ⟨id, h⟩ <;> simp [h]
  | giveUp hdrain hstep => exact .inr rfl
  | _ => exact .inl (by simpa [History.did] using hmem)

namespace Traffic

variable {session : String} {outlet : Outlet}

theorem made_of_shutdownFailed {script : List (Event κ)}
    (hfew : (waiters script).length < Counter.size) {text : String}
    (hmem : .log (.shutdownFailed text) ∈ (run session outlet script).history.effects) :
    Made session outlet script Move.failsOutput := by
  induction script using List.reverseRecOn with
  | nil => exact absurd hmem List.not_mem_nil
  | append_singleton script e ih =>
    rw [waiters_append, List.length_append] at hfew
    have hl := @ledger_run κ session outlet script (by omega)
    have ih := ih (by omega)
    rw [run_append] at hmem
    rcases meet_cases hl e with haside | ⟨m, rfl, hm, hadvance⟩
    · obtain ⟨waiters, heffects⟩ := haside.effects
      rw [heffects, List.mem_append] at hmem
      exact (ih (hmem.resolve_right (by simp))).append _
    · rcases hadvance.logged hmem with hmem | hfails
      · exact (ih hmem).append _
      · exact .turn hm hfails

/-- **Nothing is written behind the end.** -/
theorem output_ended {t : Traffic κ} {result : Except TransportError Unit}
    (hended : t.connection.phase = .ended result) (more : List (Event κ)) :
    (more.foldl meet t).history.output = t.history.output := by
  induction more generalizing t with
  | nil => rfl
  | cons e more ih =>
    have hmeet : Aside t.connection t.history (t.meet e).connection (t.meet e).history := by
      by_cases he : e = .turn
      · have hnext : t.connection.next? = none := by rw [Connection.next?, hended]
        simp only [he, meet, turn, hnext]
        exact .of_quiet rfl rfl rfl
      · exact t.aside_meet he
    obtain ⟨waiters, heffects⟩ := hmeet.effects
    rw [List.foldl_cons, ih (hmeet.phase.trans hended)]
    exact History.output_silent heffects (by simp [Effect.isOutput])

/-- **The output follows the requests.** In every state of every run in which the ids do not run
    out, the written bytes are the start of the lines of the requests that were taken up, in the
    order in which they were accepted. When the connection has ended well and the output has not
    failed, all lines were written, and then the output was shut down once and nothing came behind;
    when the connection has ended with an error, the output was not shut down and nothing more is
    written. -/
theorem output_follows_requests (session : String) (outlet : Outlet) (script : List (Event κ))
    (hfew : (waiters script).length < Counter.size) :
    let t := run session outlet script
    let lines := requestLines session (t.history.taken.map (·.request))
    t.history.taken.map (·.request) <+: t.history.accepted ∧
      t.history.written <+: lines ∧
      (t.connection.phase = .ended (.ok ()) → ¬Made session outlet script Move.failsOutput →
        t.history.written = lines ∧
          ∃ pieces : List Bytes, t.history.output = pieces.map .wrote ++ [.shutDown]) ∧
      ∀ error, t.connection.phase = .ended (.error error) → .shutDown ∉ t.history.output ∧
        ∀ more, (run session outlet (script ++ more)).history.output = t.history.output := by
  intro t lines
  have hl : Ledger session t.connection t.history := ledger_run script hfew
  have hsent : Sent session t.connection t.history := (Sent.kept session).run outlet hfew
  have hlines : t.history.written ++ t.connection.writer.unsent = lines := hsent.lines hl
  have hclosing : Closing t.connection t.history := (Closing.kept session).run outlet hfew
  refine ⟨hl.accepted, ⟨_, hlines⟩, ?_, ?_⟩
  · intro hended hsound
    cases hclosing with
    | unclosed pieces output failed =>
      obtain ⟨text, hlogged⟩ := failed hended
      exact absurd (made_of_shutdownFailed hfew hlogged) hsound
    | closed pieces output phase unsent =>
      rw [unsent, List.append_nil] at hlines
      exact ⟨hlines, pieces, output⟩
  · intro error hended
    refine ⟨?_, ?_⟩
    · cases hclosing with
      | unclosed pieces output failed =>
        rw [output]
        simp
      | closed pieces output phase unsent =>
        rw [hended] at phase
        exact absurd phase (by simp)
    · intro more
      have happend : run session outlet (script ++ more) = more.foldl meet t := List.foldl_append
      rw [happend]
      exact output_ended hended more

theorem output_follows_requests_late_lines :
    let first := Message.request "s_0" "a" "s" .null
    let second := Message.request "s_1" "b" "s" .null
    let script : List (Event Nat) := [.submit ⟨"a", .null, 0⟩, .submit ⟨"b", .null, 1⟩, .drop,
      .turn, .turn, .turn, .turn, .peer (.feed (first.replyTo "r" .null).line),
      .peer (.feed (second.replyTo "r" .null).line), .turn, .turn, .turn, .peer (.widen none),
      .turn, .turn]
    let t := run "s" ⟨some 5, false, false⟩ script
    (waiters script).length < Counter.size ∧ t.history.written = first.line ++ second.line ∧
      ∃ pieces : List Bytes, t.history.output = pieces.map .wrote ++ [.shutDown] := by
  intro first second script t
  have hfew : (waiters script).length < Counter.size := by decide
  have hsound : ¬Made "s" ⟨some 5, false, false⟩ script Move.failsOutput := by decide +kernel
  obtain ⟨-, -, hwell, -⟩ := output_follows_requests "s" ⟨some 5, false, false⟩ script hfew
  obtain ⟨hwritten, hpieces⟩ := hwell (by decide +kernel) hsound
  exact ⟨hfew, hwritten.trans (by decide +kernel), hpieces⟩

end Traffic

end FormatBridge
