import FormatBridge.Proofs.Output
import FormatBridge.Proofs.Result

set_option autoImplicit false

/-! # Waiters are registered before requests are written

A request is registered when it is handed to the writer, so a reply to a request of which anything
was written finds its waiter, or the waiter was told before. A peer that names in its replies only
requests whose whole line it has received (`Causal`) therefore never has a first reply dropped. And
a connection that ends well has an answer to every request, so then every line was written: nothing
is left to its writer but to shut the output down. -/

namespace FormatBridge

variable {κ : Type}

/-! ## Messages at hand -/

namespace LineReader

/-- The message that a step gives. -/
def Reading.message? : Reading → Option Message
  | .message m => some m
  | .nothing | .undecodable | .failed _ | .ended => none

/-- The messages that a reader will read from what has arrived. -/
def atHand (r : LineReader) : List Message := r.drain.1.filterMap Reading.message?

/-- A step takes away the first message at hand, or none. -/
theorem atHand_step {r r' : LineReader} {x : Reading} (h : r.step = some (x, r'))
    (hx : x.isStop = false) : r.atHand = x.message?.toList ++ r'.atHand := by
  rw [atHand, drain]
  split
  · rename_i hnone
    rw [h] at hnone
    contradiction
  · rename_i y s hsome
    obtain ⟨rfl, rfl⟩ := Prod.mk.inj (Option.some.inj (h.symm.trans hsome))
    simp only [hx, Bool.false_eq_true, dite_false]
    cases x <;> simp [Reading.message?, atHand, List.filterMap_cons]

theorem atHand_of_none {r : LineReader} (h : r.step = none) : r.atHand = [] := by
  rw [atHand, drain]
  split
  · rfl
  · rename_i x r' hsome
    rw [h] at hsome
    contradiction

/-- No message is at hand where an error or the end is. -/
theorem atHand_of_stop {r r' : LineReader} {x : Reading} (h : r.step = some (x, r'))
    (hx : x.isStop = true) : r.atHand = [] := by
  rw [atHand, drain]
  split
  · rfl
  · rename_i y s hsome
    obtain ⟨rfl, rfl⟩ := Prod.mk.inj (Option.some.inj (h.symm.trans hsome))
    simp only [hx, dite_true]
    cases x <;> simp_all [Reading.message?, Reading.isStop]

/-- **The messages that were read and those at hand** are those of the finished lines that have
    arrived, as long as the stream is open. -/
theorem Progress.atHand {all : Bytes} {r : LineReader} {answers : List Reading}
    (h : Progress all r answers) (hopen : r.inbound.ended = false) :
    answers.filterMap Reading.message? ++ r.atHand =
      (wholeResults all false).filterMap Reading.message? := by
  induction hsize : r.size using Nat.strong_induction_on generalizing r answers with
  | _ size ih =>
    cases hstep : r.step with
    | none => rw [atHand_of_none hstep, List.append_nil, (h.of_waits hstep).2]
    | some p =>
      obtain ⟨x, r'⟩ := p
      cases hx : x.isStop with
      | true =>
        rw [atHand_of_stop hstep hx, List.append_nil,
          h.of_read (bytes_of_stop hstep hx) (.inr hopen)]
      | false =>
        have hsmaller : r'.size < size := by
          rw [← hsize]
          refine size_step hstep ?_
          rintro rfl
          contradiction
        have hmessage : x.answer.filterMap Reading.message? = x.message?.toList := by
          cases x <;> rfl
        have hlater := ih r'.size hsmaller (h.step hstep) ((inbound_step hstep).1.trans hopen) rfl
        rwa [List.filterMap_append, hmessage, List.append_assoc, ← atHand_step hstep hx] at hlater

end LineReader

/-! ## What the peer has received -/

/-- Whether the whole line of the request with some id was written. -/
def History.Delivered (session : String) (h : History κ) (id : String) : Prop :=
  ∃ k < h.taken.length, id = requestId session k ∧
    requestLines session ((h.taken.map (·.request)).take (k + 1)) <+: h.written

instance (session : String) (h : History κ) (id : String) : Decidable (h.Delivered session id) :=
  inferInstanceAs (Decidable (∃ k < h.taken.length, _ ∧ _))

/-- What was received before is not undone. -/
theorem History.Delivered.mono {session : String} {h h' : History κ} {id : String}
    (hd : h.Delivered session id) (htaken : h.taken <+: h'.taken)
    (heffects : h.effects <+: h'.effects) : h'.Delivered session id := by
  obtain ⟨k, hk, hid, hlines⟩ := hd
  obtain ⟨later, htaken⟩ := htaken
  obtain ⟨effects, heffects⟩ := heffects
  refine ⟨k, ?_, hid, ?_⟩
  · rw [← htaken, List.length_append]
    omega
  · have hsame : (h'.taken.map (·.request)).take (k + 1) =
        (h.taken.map (·.request)).take (k + 1) := by
      rw [← htaken, List.map_append, List.take_append_of_le_length]
      rw [List.length_map]
      exact hk
    rw [hsame, History.written, ← heffects, Effect.written_append]
    exact hlines.trans (List.prefix_append ..)

/-- A move only adds to what was taken up and done. -/
theorem Advance.adds {session : String} {c c' : Connection κ} {h h' : History κ} {m : Move κ}
    (ha : Advance session c h m c' h') : h.taken <+: h'.taken ∧ h.effects <+: h'.effects := by
  cases ha with
  | take => exact ⟨List.prefix_append .., List.prefix_append ..⟩
  | _ => exact ⟨List.prefix_rfl, List.prefix_append ..⟩

/-- A move reads on, which adds the message that it gives, or it reads nothing. -/
theorem Advance.reads {session : String} {c c' : Connection κ} {h h' : History κ} {m : Move κ}
    (ha : Advance session c h m c' h') :
    (∃ x, c.phase = .running ∧ c.reader.step = some (x, c'.reader) ∧ x.isStop = false ∧
      h'.messages = h.messages ++ x.message?.toList) ∨
    (h'.messages = h.messages ∧
      (c'.phase = .running → c.phase = .running ∧ c'.reader = c.reader)) := by
  cases ha with
  | pass hrun hstep => exact .inl ⟨_, hrun, hstep, rfl, (List.append_nil _).symm⟩
  | skip hrun hstep => exact .inl ⟨_, hrun, hstep, rfl, (List.append_nil _).symm⟩
  | ignore hrun hstep => exact .inl ⟨_, hrun, hstep, rfl, rfl⟩
  | answer hrun hstep => exact .inl ⟨_, hrun, hstep, rfl, rfl⟩
  | flush hdrain hstep => exact .inr ⟨rfl, fun h => ⟨h, rfl⟩⟩
  | take hrun => exact .inr ⟨rfl, fun h => ⟨h, rfl⟩⟩
  | close hrun => exact .inr ⟨rfl, fun h => ⟨h, rfl⟩⟩
  | write hrun hstep => exact .inr ⟨rfl, fun h => ⟨h, rfl⟩⟩
  | _ => exact .inr ⟨rfl, fun h => absurd h (by simp)⟩

namespace Traffic

/-- Whether the peer names in its replies only requests whose whole line it has received: so do,
    after anything that it does, the messages at hand, which with those that were read are all that
    it has sent (`LineReader.Progress.atHand`). -/
def Causal (session : String) (t : Traffic κ) : List (Event κ) → Prop
  | [] => True
  | .peer e :: script =>
    (∀ m ∈ (t.connection.meet e).reader.atHand, ∀ id ∈ m.answers?, t.history.Delivered session id) ∧
      (t.meet (.peer e)).Causal session script
  | e :: script => (t.meet e).Causal session script

instance Causal.decidable (session : String) (t : Traffic κ) :
    (script : List (Event κ)) → Decidable (t.Causal session script)
  | [] => inferInstanceAs (Decidable True)
  | .peer e :: script =>
    have := Causal.decidable session (t.meet (.peer e)) script
    inferInstanceAs (Decidable (_ ∧ _))
  | .submit s :: script => Causal.decidable session (t.meet (.submit s)) script
  | .clone :: script => Causal.decidable session (t.meet .clone) script
  | .drop :: script => Causal.decidable session (t.meet .drop) script
  | .turn :: script => Causal.decidable session (t.meet .turn) script

theorem causal_append (session : String) (t : Traffic κ) (script more : List (Event κ)) :
    t.Causal session (script ++ more) ↔
      t.Causal session script ∧ (script.foldl meet t).Causal session more := by
  induction script generalizing t with
  | nil => simp [Causal]
  | cons e script ih => cases e <;> simp [Causal, ih, and_assoc]

end Traffic

/-! ## Every reply comes behind its request -/

/-- Whether the messages that were read, and those at hand while the connection runs, name only
    requests whose whole line was written. -/
structure Behind (session : String) (c : Connection κ) (h : History κ) : Prop where
  read : ∀ m ∈ h.messages, ∀ id ∈ m.answers?, h.Delivered session id
  atHand : c.phase = .running → ∀ m ∈ c.reader.atHand, ∀ id ∈ m.answers?, h.Delivered session id

namespace Behind

variable {session : String} {c c' : Connection κ} {h h' : History κ}

theorem start (session : String) (outlet : Outlet) :
    Behind session (.start session outlet : Connection κ) .empty := by
  refine ⟨fun m hm => absurd hm List.not_mem_nil, ?_⟩
  intro _ m hm
  have hnone : LineReader.empty.atHand = [] :=
    LineReader.atHand_of_none (LineReader.step_eq_none_iff.2 ⟨rfl, rfl, rfl⟩)
  rw [Connection.start, hnone] at hm
  exact absurd hm List.not_mem_nil

/-- What happens outside keeps it when what comes to hand names only such requests. -/
theorem aside (hb : Behind session c h) (ha : Aside c h c' h')
    (hnew : c.phase = .running → ∀ m ∈ c'.reader.atHand, ∀ id ∈ m.answers?,
      h.Delivered session id) : Behind session c' h' := by
  obtain ⟨waiters, heffects⟩ := ha.effects
  have hmono {id : String} (hd : h.Delivered session id) : h'.Delivered session id :=
    hd.mono ⟨[], by rw [ha.taken, List.append_nil]⟩ ⟨_, heffects.symm⟩
  constructor
  · intro m hm id hid
    rw [ha.messages] at hm
    exact hmono (hb.read m hm id hid)
  · intro hrun m hm id hid
    exact hmono (hnew (ha.phase ▸ hrun) m hm id hid)

theorem advance (hb : Behind session c h) {m : Move κ} (ha : Advance session c h m c' h') :
    Behind session c' h' := by
  have hmono {id : String} (hd : h.Delivered session id) : h'.Delivered session id :=
    hd.mono ha.adds.1 ha.adds.2
  rcases ha.reads with ⟨x, hrun, hstep, hx, hmessages⟩ | ⟨hmessages, hreader⟩
  · have hstep := LineReader.atHand_step hstep hx
    constructor
    · intro m hm id hid
      rw [hmessages] at hm
      rcases List.mem_append.1 hm with hm | hm
      · exact hmono (hb.read m hm id hid)
      · refine hmono (hb.atHand hrun m ?_ id hid)
        rw [hstep]
        exact List.mem_append_left _ hm
    · intro _ m hm id hid
      refine hmono (hb.atHand hrun m ?_ id hid)
      rw [hstep]
      exact List.mem_append_right _ hm
  · constructor
    · intro m hm id hid
      rw [hmessages] at hm
      exact hmono (hb.read m hm id hid)
    · intro hrun m hm id hid
      obtain ⟨hrun, hsame⟩ := hreader hrun
      rw [hsame] at hm
      exact hmono (hb.atHand hrun m hm id hid)

end Behind

namespace Traffic

variable {session : String} {outlet : Outlet}

theorem reader_meet (t : Traffic κ) {e : Event κ} (hpeer : ∀ p, e ≠ .peer p) (hturn : e ≠ .turn) :
    (t.meet e).connection.reader = t.connection.reader := by
  obtain ⟨queue, connected, heq⟩ := t.connection_meet hpeer hturn
  rw [heq]

theorem behind_meet {t : Traffic κ} (hl : Ledger session t.connection t.history)
    (hb : Behind session t.connection t.history) {e : Event κ} (hcausal : t.Causal session [e]) :
    Behind session (t.meet e).connection (t.meet e).history := by
  cases e with
  | peer e => exact hb.aside (t.aside_meet (by simp)) fun _ => hcausal.1
  | turn =>
    simp only [meet, turn]
    cases hm : t.connection.next? with
    | none => exact hb
    | some m => exact hb.advance (.of_next hl hm)
  | _ =>
    refine hb.aside (t.aside_meet (by simp)) ?_
    rw [reader_meet t (by simp) (by simp)]
    exact hb.atHand

theorem behind_run {script : List (Event κ)} (hfew : (waiters script).length < Counter.size)
    (hcausal : (start session outlet).Causal session script) :
    Behind session (run session outlet script).connection (run session outlet script).history := by
  induction script using List.reverseRecOn with
  | nil => exact .start session outlet
  | append_singleton script e ih =>
    rw [waiters_append, List.length_append] at hfew
    obtain ⟨hbefore, hnow⟩ := (causal_append ..).1 hcausal
    rw [run_append]
    exact behind_meet (ledger_run script (by omega)) (ih (by omega) hbefore) hnow

end Traffic

/-! ## What the invariants say together -/

section Together

variable {session : String} {c : Connection κ} {h : History κ}

/-- A request of which anything was written was taken up. -/
theorem Sent.taken_of_written (hs : Sent session c h) (hl : Ledger session c h) {k : Nat}
    {s : Submission κ} (haccepted : h.accepted[k]? = some s)
    (hwritten : (requestLines session (h.accepted.take k)).length < h.written.length) :
    ∃ r, h.taken[k]? = some r ∧ r.request = s := by
  have hk : k < h.taken.length := by
    by_contra hle
    have htaken : h.taken.map (·.request) <+: h.accepted.take k := by
      rw [List.prefix_take_iff]
      exact ⟨hl.accepted, by simpa using hle⟩
    have hlines := (requestLines_mono session htaken).length_le
    rw [← hs.lines hl, List.length_append] at hlines
    omega
  refine ⟨h.taken[k], List.getElem?_eq_getElem hk, ?_⟩
  obtain ⟨later, hlater⟩ := hl.accepted
  rw [← hlater, List.getElem?_append_left (by simpa using hk), List.getElem?_map,
    List.getElem?_eq_getElem hk] at haccepted
  exact Option.some.inj haccepted

/-- A request that was taken up is registered, or its waiter was told. -/
theorem Ledger.registered_or_told (hl : Ledger session c h) {r : Taken κ} (hr : r ∈ h.taken) :
    c.inFlight.lookup r.id = some r.request.waiter ∨
      (∃ m, h.answer? r = some m ∧ (r.request.waiter, some m.toValue) ∈ h.replies) ∨
      c.phase ≠ .running ∧ (r.request.waiter, none) ∈ h.replies := by
  by_cases hawaits : c.awaits h r = true
  · exact .inl (hl.lookup_inFlight hr hawaits)
  have htold : (r.request.waiter, (h.answer? r).map Message.toValue) ∈ h.replies :=
    hl.told.mem_iff.2 (List.mem_map.2 ⟨r, List.mem_filter.2 ⟨hr, by simpa using hawaits⟩, rfl⟩)
  cases hanswer : h.answer? r with
  | some m =>
    rw [hanswer] at htold
    exact .inr (.inl ⟨m, rfl, htold⟩)
  | none =>
    rw [hanswer] at htold
    refine .inr (.inr ⟨?_, htold⟩)
    intro hrun
    simp [Connection.awaits, Connection.isRunning_iff.2 hrun, hanswer] at hawaits

/-- The request whose line was delivered. -/
theorem History.Delivered.taken {id : String} (hd : h.Delivered session id)
    (hl : Ledger session c h) : ∃ r ∈ h.taken, r.id = id := by
  obtain ⟨k, hk, rfl, -⟩ := hd
  exact ⟨h.taken[k], List.getElem_mem hk, hl.id_eq (List.getElem?_eq_getElem hk)⟩

/-- When the first reply to a request is read, its waiter is told. -/
theorem Behind.first_reply (hb : Behind session c h) (hl : Ledger session c h) {m : Message}
    {reader : LineReader} {id : String} (hm : c.next? = some (.read (.message m) reader))
    (hid : m.answers? = some id) (hfirst : ∀ earlier ∈ h.messages, earlier.answers? ≠ some id) :
    ∃ r ∈ h.taken, r.id = id ∧ (c.make (.read (.message m) reader)).1 =
      [.log (.replyReceived id), .reply r.request.waiter (some m.toValue)] := by
  cases Connection.chosen_of_next hm with
  | read hrun hbusy hsettled hidle hstep =>
    have hmem : m ∈ c.reader.atHand := by
      rw [LineReader.atHand_step hstep rfl]
      exact List.mem_append_left _ (List.mem_cons_self ..)
    obtain ⟨r, hr, rfl⟩ := (hb.atHand hrun m hmem id hid).taken hl
    have hnone : h.answer? r = none := by
      rw [History.answer?, List.find?_eq_none]
      intro earlier hearlier
      simpa using hfirst earlier (List.mem_of_mem_drop hearlier)
    have hawaits : c.awaits h r = true := by
      simp [Connection.awaits, Connection.isRunning_iff.2 hrun, hnone]
    refine ⟨r, hr, rfl, ?_⟩
    simp [Connection.make, Connection.afterRead, Connection.route, hid,
      hl.lookup_inFlight hr hawaits]

/-- When every request was answered, every line was written. -/
theorem Behind.all_written (hb : Behind session c h) (hl : Ledger session c h)
    (hs : Sent session c h) (hanswered : h.missed = []) :
    h.written = requestLines session (h.taken.map (·.request)) ∧ c.writer.unsent = [] := by
  have hlines := hs.lines hl
  have hall : requestLines session (h.taken.map (·.request)) <+: h.written := by
    by_cases hnone : h.taken = []
    · rw [hnone]
      exact List.nil_prefix
    -- the last request has an answer, so its line was written, and with it all before
    have hlast : h.taken.length - 1 < h.taken.length :=
      Nat.sub_one_lt (by simpa using hnone)
    have hr := List.getElem_mem hlast
    have hid := hl.id_eq (List.getElem?_eq_getElem hlast)
    obtain ⟨m, hm⟩ := History.answer_of_missed hanswered hr
    have hnames : m.answers? = some (requestId session (h.taken.length - 1)) := by
      rw [← hid]
      simpa using List.find?_some hm
    have hread := List.mem_of_mem_drop (List.mem_of_find?_eq_some hm)
    obtain ⟨k, hk, hsame, hdelivered⟩ := hb.read m hread _ hnames
    have hk : k + 1 = h.taken.length := by
      have := requestId_inj.1 hsame
      omega
    rwa [hk, List.take_of_length_le (by simp)] at hdelivered
  have hshort := hall.length_le
  rw [← hlines, List.length_append] at hshort
  have hunsent : c.writer.unsent = [] := List.eq_nil_of_length_eq_zero (by omega)
  rw [hunsent, List.append_nil] at hlines
  exact ⟨hlines, hunsent⟩

/-- A writer with nothing left shuts the output down, or fails to. -/
theorem Connection.next?_drained (hdrain : c.phase = .draining) (hclosed : c.writer.closed = true)
    (hunsent : c.writer.unsent = []) : ∃ step, (step = .finished ∨ step = .failed shutdownText) ∧
      c.next? = some (.drain step c.writer c.outlet) := by
  cases hfails : c.outlet.shutdownFails with
  | true =>
    exact ⟨_, .inr rfl, by simp [next?, hdrain, drain?, Writer.step, hunsent, hclosed, hfails]⟩
  | false =>
    exact ⟨_, .inl rfl, by simp [next?, hdrain, drain?, Writer.step, hunsent, hclosed, hfails]⟩

end Together

namespace Traffic

/-- **A request is registered before any of it is written.** In every state of every run in which
    the ids do not run out, the waiter of each request of which anything was written is registered
    under its id, or was told the answer to it, or that there is none. When the peer names in its
    replies only requests whose whole line it has received, the first reply that is read to any
    request is given to its waiter, and when the connection has ended well every line was written,
    so that nothing is left to its writer but to shut the output down. -/
theorem registered_before_written (session : String) (outlet : Outlet) (script : List (Event κ))
    (hfew : (waiters script).length < Counter.size) :
    let t := run session outlet script
    (∀ k s, t.history.accepted[k]? = some s →
      (requestLines session (t.history.accepted.take k)).length < t.history.written.length →
      ∃ r ∈ t.history.taken, r.id = requestId session k ∧ r.request = s ∧
        (t.connection.inFlight.lookup r.id = some s.waiter ∨
          (∃ m, t.history.answer? r = some m ∧ (s.waiter, some m.toValue) ∈ t.history.replies) ∨
          t.connection.phase ≠ .running ∧ (s.waiter, none) ∈ t.history.replies)) ∧
      ((start session outlet).Causal session script →
        (∀ m reader id, t.connection.next? = some (.read (.message m) reader) →
          m.answers? = some id → (∀ earlier ∈ t.history.messages, earlier.answers? ≠ some id) →
          ∃ r ∈ t.history.taken, r.id = id ∧
            (t.connection.make (.read (.message m) reader)).1 =
              [.log (.replyReceived id), .reply r.request.waiter (some m.toValue)]) ∧
        (t.connection.phase = .draining ∨ t.connection.phase = .ended (.ok ()) →
          t.history.written = requestLines session (t.history.taken.map (·.request))) ∧
        (t.connection.phase = .draining → ∃ step, (step = .finished ∨ step = .failed shutdownText) ∧
          t.connection.next? = some (.drain step t.connection.writer t.connection.outlet))) := by
  intro t
  have hl : Ledger session t.connection t.history := ledger_run script hfew
  have hsent : Sent session t.connection t.history := (Sent.kept session).run outlet hfew
  have haccount : Account t.connection t.history := (Account.kept session).run outlet hfew
  refine ⟨?_, ?_⟩
  · intro k s hs hwritten
    obtain ⟨r, hr, rfl⟩ := hsent.taken_of_written hl hs hwritten
    have hmem := List.mem_of_getElem? hr
    exact ⟨r, hmem, hl.id_eq hr, rfl, hl.registered_or_told hmem⟩
  · intro hcausal
    have hb : Behind session t.connection t.history := behind_run hfew hcausal
    refine ⟨fun m reader id hm hid hfirst => hb.first_reply hl hm hid hfirst, ?_, ?_⟩
    · intro hwell
      exact (hb.all_written hl hsent (haccount.of_well hwell).1).1
    · intro hdrain
      obtain ⟨hanswered, hclosed⟩ := haccount.of_well (.inl hdrain)
      exact Connection.next?_drained hdrain hclosed (hb.all_written hl hsent hanswered).2

theorem registered_before_written_two_requests :
    let first := Message.request "s_0" "a" "s" .null
    let second := Message.request "s_1" "b" "s" .null
    let script : List (Event Nat) := [.submit ⟨"a", .null, 0⟩, .submit ⟨"b", .null, 1⟩, .drop,
      .turn, .turn, .turn, .turn, .peer (.feed (first.replyTo "r" .null).line), .turn,
      .peer (.widen none), .turn, .peer (.feed (second.replyTo "r" .null).line), .turn, .turn]
    let t := run "s" ⟨some 95, false, false⟩ script
    (waiters script).length < Counter.size ∧
      (start "s" ⟨some 95, false, false⟩).Causal "s" script ∧
      t.history.written = first.line ++ second.line ∧
      ∃ step, (step = .finished ∨ step = .failed shutdownText) ∧
        t.connection.next? = some (.drain step t.connection.writer t.connection.outlet) := by
  intro first second script
  have hfew : (waiters script).length < Counter.size := by decide
  have hcausal : (start "s" ⟨some 95, false, false⟩).Causal "s" script := by decide +kernel
  obtain ⟨-, hreplies⟩ := registered_before_written "s" ⟨some 95, false, false⟩ script hfew
  obtain ⟨-, hwritten, hdrained⟩ := hreplies hcausal
  exact ⟨hfew, hcausal, (hwritten (.inl (by decide +kernel))).trans (by decide +kernel),
    hdrained (by decide +kernel)⟩

end Traffic

end FormatBridge
