import FormatBridge.Proofs.Exchange
import Mathlib.Order.WellFounded

set_option autoImplicit false

/-! # Formatting with a backend that answers every request

A host asks for its buffers to be formatted and lets go of everything that could ask again; from then
on it is in an exchange with a backend that formats code by a function `F`. `Sound` holds all along;
an exchange that can go no further has ended well (`Sound.ended_of_rest`), and every act that changes
more than the backend's window comes closer to the end. So a schedule that neglects nobody comes to
the end, and then every buffer has the text that `F` gives for it (`formats_every_buffer`). -/

namespace FormatBridge

/-! ## The host -/

/-- A host whose dispatcher has sent all its buffers to be formatted and has been dropped, so that no
    handle is left. -/
def Host.formatAll (session kind : String) (outlet : Outlet) (buffers : List Buffer) : Host :=
  ((Host.start session outlet buffers true).obeyAll
    [.dispatcher (.handle 0) (some kind) false, .drop 0, .format 0,
      .dropDispatcher 0]).2.2.updateConnected

section Host

variable (session kind : String) (outlet : Outlet) (buffers : List Buffer)

/-- The dispatcher of such a host. -/
def Dispatcher.overConnection : Dispatcher := ⟨.handle .connection, kind, true⟩

/-- Its requests, one for each buffer. -/
def formatRequests : List (Submission Waiter) :=
  buffers.mapIdx fun i b => ⟨kind, b.request.payload, .buffer i true⟩

theorem formatAll_eq : Host.formatAll session kind outlet buffers =
    { Host.start session outlet buffers true with
      handles := [⟨.connection, false⟩]
      dispatchers := [⟨.overConnection kind, false⟩]
      connection := { Connection.start session outlet with
        queue := formatRequests kind buffers, connected := false } } := by
  let asked : Host := { Host.start session outlet buffers true with
    handles := [⟨.connection, false⟩]
    dispatchers := [⟨.overConnection kind, true⟩] }
  have hrequests : asked.selection.filterMap (asked.submission? (.overConnection kind)) =
      formatRequests kind buffers := Course.submissions_eq asked (.overConnection kind)
  have hformat := asked.formatSelection_eq (d := .overConnection kind) rfl rfl
  rw [hrequests] at hformat
  have hsteps : Host.formatAll session kind outlet buffers =
      (((asked.formatSelection (.overConnection kind)).2.2.obey
        (.dropDispatcher 0)).2.2).updateConnected := rfl
  rw [hsteps, hformat]
  rfl

theorem formatAll_ready (hfew : buffers.length < Counter.size) :
    Course.Ready session (Host.formatAll session kind outlet buffers) := by
  rw [formatAll_eq]
  refine ⟨⟨outlet, formatRequests kind buffers, rfl⟩, ?_⟩
  simpa [formatRequests] using hfew

theorem formatAll_asks :
    Course.AsksForAll (Host.formatAll session kind outlet buffers) (.overConnection kind) := by
  refine ⟨rfl, ?_⟩
  rw [Course.submissions_eq, formatAll_eq]
  rfl

end Host

/-- The message that asks for a buffer to be formatted. -/
def formatMessage (session kind : String) (number : Nat) (b : Buffer) : Message :=
  .request (requestId session number) kind session b.request.payload

/-! ## What a reply makes of a buffer -/

namespace FormatReply

/-- The text of a buffer behind its reply: the formatted code if the status is `ok` and there is one,
    and the text as it was otherwise. -/
def formatted (r : FormatReply) (text : String) : String :=
  if r.status = okText then r.code.getD text else text

/-- The failure of a buffer with a given label, when its reply gives no code. -/
def failure? (r : FormatReply) (label : String) : Option Failure :=
  match r.outcome with
  | .ok _ => none
  | .error error => some ⟨label, error⟩

theorem text_receive {r : FormatReply} {reply : Option Json.Value} (h : classify reply = r.outcome)
    (b : Buffer) : (b.receive reply).text = r.formatted b.text := by
  rw [Buffer.receive, h, outcome, formatted, Status.ofText]
  by_cases hok : r.status = okText
  · rw [if_pos hok, if_pos hok]
    cases r.code <;> rfl
  · rw [if_neg hok, if_neg hok]

theorem failure?_eq {r : FormatReply} {reply : Option Json.Value} (h : classify reply = r.outcome)
    (label : String) : Buffer.failure? label reply = r.failure? label := by
  cases hr : r.outcome <;> simp only [Buffer.failure?, failure?, h, hr]

end FormatReply

namespace Exchange

theorem answer_self {F : String → FormatReply} {e : Exchange} {number : Nat}
    (hmem : number ∉ e.unanswered) (id : String) : e.answer F number id = e := by
  rw [answer, if_neg hmem]

/-! ## What holds all along -/

/-- What holds all along an exchange that starts with the host `h`. -/
structure Sound (F : String → FormatReply) (session : String) (h : Host) (d : Dispatcher)
    (e : Exchange) : Prop where
  holds : Course.Holds session h e.course
  sent : Sent session e.connection e.course.history
  following : Following session e.connection e.course.history e.answers e.owed
  right : ∀ a ∈ e.answers, ∃ b id, h.buffers[a.number]? = some b ∧
    a.reply = (formatMessage session d.kind a.number b).replyTo id (F b.text).toValue

namespace Sound

variable {F : String → FormatReply} {session : String} {h : Host} {d : Dispatcher} {e : Exchange}

theorem start (hr : Course.Ready session h) (hbroken : h.connection.outlet.broken = false) :
    Sound F session h d (.start h) := by
  obtain ⟨outlet, requests, hconnection⟩ := hr.connection
  have hholds := Course.start_holds hr
  refine ⟨hholds, ?_, ?_, fun a ha => absurd ha List.not_mem_nil⟩
  · simp only [connection, Exchange.start, Course.start, hconnection]
    rfl
  · rw [hconnection] at hbroken
    simp only [connection, Exchange.start, Course.start, hconnection]
    exact
      { named := fun a ha => absurd ha List.not_mem_nil
        once := List.nodup_nil
        reading := ⟨[], rfl, List.not_mem_nil, fun m hm => absurd hm List.not_mem_nil, rfl⟩
        told := rfl
        unbroken := hbroken
        unfailed := rfl
        ended := fun hc => absurd hc Bool.false_ne_true
        phase := .inl rfl }

/-- A request that was taken up is that of its buffer. -/
theorem taken (hs : Sound F session h d e) (hasks : Course.AsksForAll h d) {k : Nat}
    {r : Taken Waiter} (hr : e.course.history.taken[k]? = some r) : ∃ b, h.buffers[k]? = some b ∧
      r.message session = formatMessage session d.kind k b ∧ r.request.waiter = .buffer k true := by
  have hlt := (List.getElem?_eq_some_iff.1 hr).1
  have hid := hs.holds.ledger.id_eq hr
  obtain ⟨hreports, hqueue⟩ := hasks
  have hrequest : h.connection.queue[k]? = some r.request := by
    obtain ⟨more, hmore⟩ := hs.holds.ledger.accepted
    rw [hs.holds.accepted] at hmore
    have hlen : k < (e.course.history.taken.map (·.request)).length := by simpa using hlt
    rw [← hmore, List.getElem?_append_left hlen, List.getElem?_map, hr, Option.map_some]
  rw [hqueue, Course.submissions_eq, List.getElem?_mapIdx] at hrequest
  obtain ⟨b, hb, heq⟩ := Option.map_eq_some_iff.1 hrequest
  refine ⟨b, hb, ?_, ?_⟩
  · rw [Taken.message, hid, ← heq]
    rfl
  · rw [← heq, hreports]

theorem readable (hs : Sound F session h d e) (hasks : Course.AsksForAll h d) :
    Readable (e.course.history.taken.map (·.message session)) := by
  intro m hm
  obtain ⟨r, hr, rfl⟩ := List.mem_map.1 hm
  obtain ⟨k, hk, hget⟩ := List.getElem_of_mem hr
  obtain ⟨b, -, hmessage, -⟩ := hs.taken hasks (List.getElem?_eq_some_iff.2 ⟨hk, hget⟩)
  rw [hmessage]
  exact b.request.fits_payload

/-- **The backend receives the requests that were taken up**, and all of them once all was written. -/
theorem received (hs : Sound F session h d e) (hasks : Course.AsksForAll h d) :
    e.requests <+: e.course.history.taken.map (·.message session) ∧
      (e.connection.writer.unsent = [] →
        e.requests = e.course.history.taken.map (·.message session)) :=
  messagesIn_of (hs.readable hasks) hs.sent

theorem answer_eq (hs : Sound F session h d e) (hasks : Course.AsksForAll h d) {number : Nat}
    (hmem : number ∈ e.unanswered) (id : String) : ∃ b, h.buffers[number]? = some b ∧
      (e.course.history.taken[number]?).map (·.request.waiter) = some (.buffer number true) ∧
      let reply := (formatMessage session d.kind number b).replyTo id (F b.text).toValue
      e.answer F number id = { e with
        answers := e.answers ++ [⟨number, reply⟩]
        owed := e.owed ++ reply.line } := by
  have hlt : number < e.requests.length := List.mem_range.1 (List.mem_filter.1 hmem).1
  obtain ⟨more, hmore⟩ := (hs.received hasks).1
  have hrequest : (e.course.history.taken.map (·.message session))[number]? =
      some e.requests[number] := by
    rw [← hmore, List.getElem?_append_left hlt, List.getElem?_eq_getElem hlt]
  rw [List.getElem?_map] at hrequest
  obtain ⟨r, hr, hmessage⟩ := Option.map_eq_some_iff.1 hrequest
  obtain ⟨b, hb, hformat, hwaiter⟩ := hs.taken hasks hr
  refine ⟨b, hb, by rw [hr, Option.map_some, hwaiter], ?_⟩
  have hreply : e.requests[number]?.bind (replyTo? F · id) =
      some ((formatMessage session d.kind number b).replyTo id (F b.text).toValue) := by
    rw [List.getElem?_eq_getElem hlt, Option.bind_some, ← hmessage, hformat, replyTo?]
    have hcode : ((formatMessage session d.kind number b).content.get? "code").bind
        Json.Value.text? = some b.text := b.request.code_payload
    rw [hcode, Option.map_some]
  simp only [Exchange.answer, if_pos hmem, hreply]

/-- **Every act keeps it.** -/
theorem meet (hs : Sound F session h d e) (hr : Course.Ready session h)
    (hasks : Course.AsksForAll h d) (a : Act) : Sound F session h d (e.meet F a) := by
  cases a with
  | turn =>
    have hholds := Course.meet_holds hr hs.holds .turn
    cases hm : e.course.host.connection.next? with
    | none =>
      have hself : e.meet F .turn = e := by rw [Exchange.meet, Course.turn_self hm]
      rw [hself]
      exact hs
    | some m =>
      obtain ⟨hconnection, hhistory⟩ := Course.turn_eq hm
      refine ⟨hholds, ?_, ?_, hs.right⟩
      · simp only [connection, Exchange.meet, hconnection, hhistory]
        exact hs.sent.make hs.holds.ledger hm
      · simp only [connection, Exchange.meet, hconnection, hhistory]
        exact hs.following.make hs.holds.ledger hs.holds.alone hm
  | widen n =>
    exact ⟨Course.meet_holds hr hs.holds (.peer (.widen n)), hs.sent, hs.following.widen n, hs.right⟩
  | answer number id =>
    by_cases hmem : number ∈ e.unanswered
    · obtain ⟨b, hb, hwaiter, heq⟩ := hs.answer_eq hasks hmem id
      have hnew : number ∉ e.answers.map (·.number) := by
        simpa using (List.mem_filter.1 hmem).2
      rw [Exchange.meet, heq]
      refine ⟨hs.holds, hs.sent, ?_, ?_⟩
      · exact hs.following.answer hs.holds.ledger hnew rfl hwaiter (F b.text).fits_toValue
      · intro a ha
        rcases List.mem_append.1 ha with ha | ha
        · exact hs.right a ha
        · rw [List.mem_singleton.1 ha]
          exact ⟨b, id, hb, rfl⟩
    · rw [Exchange.meet, answer_self hmem]
      exact hs
  | deliver n =>
    exact ⟨Course.meet_holds hr hs.holds (.peer (.feed _)), hs.sent, hs.following.deliver n,
      hs.right⟩
  | close =>
    rw [Exchange.meet]
    split
    · rename_i hserved
      simp only [isServed, Bool.and_eq_true, List.isEmpty_iff, decide_eq_true_eq] at hserved
      exact ⟨Course.meet_holds hr hs.holds (.peer .endInput), hs.sent,
        hs.following.close hserved.1 hserved.2, hs.right⟩
    · exact hs

/-- **The invariant of a whole exchange.** -/
theorem after (hr : Course.Ready session h) (hasks : Course.AsksForAll h d)
    (hbroken : h.connection.outlet.broken = false) (schedule : Nat → Act) (n : Nat) :
    Sound F session h d (Exchange.after F h schedule n) := by
  induction n with
  | zero => exact start hr hbroken
  | succ n ih => exact ih.meet hr hasks (schedule n)

/-! ## Where an exchange can rest -/

/-- **An exchange that can go no further has ended well:** the connection waits for nothing, the
    backend has answered what it has received, its answers have arrived, and it does not refuse what
    is written to it. -/
theorem ended_of_rest (hs : Sound F session h d e) (hasks : Course.AsksForAll h d)
    (hnext : e.connection.next? = none) (hanswered : e.unanswered = []) (howed : e.owed = [])
    (hopen : ¬e.isBlocked) : e.connection.phase = .ended (.ok ()) := by
  rcases hs.following.phase with hrun | ⟨hdrain, hclosed⟩ | hended
  · -- while it runs, everything was written, for nothing holds the writer up
    exfalso
    obtain ⟨hbusy, hsettled, hidle, hread⟩ := Connection.waits_of_running hrun hnext
    have hacc := hs.holds.alone.not_accepting hsettled
    have hwriting := (hs.holds.ledger.writing (Connection.isRunning_iff.2 hrun)).1
    have hstep : e.connection.writer.step e.connection.outlet = none := by
      simpa [Connection.write?, connection, hwriting] using hidle
    have hunsent : e.connection.writer.unsent = [] := by
      rcases Writer.step_eq_none hstep with ⟨hunsent, -⟩ | hblocked
      · exact hunsent
      · exact absurd hblocked hopen
    -- so the backend has all requests, and it has answered them
    have hlen : e.course.history.taken.length ≤ e.answers.length := by
      have hall : e.requests.length = e.course.history.taken.length := by
        rw [(hs.received hasks).2 hunsent, List.length_map]
      have hsub : List.range e.course.history.taken.length ⊆ e.answers.map (·.number) := by
        intro k hk
        rw [← hall] at hk
        simpa using List.filter_eq_nil_iff.1 hanswered k hk
      simpa using (List.subperm_of_subset List.nodup_range hsub).length_le
    -- and the connection has read all answers
    obtain ⟨rest, hreplies, hahead⟩ := hs.following.reading
    have hbytes : e.connection.reader.inbound.bytes = [] :=
      (LineReader.step_eq_none_iff.1 (Option.map_eq_none_iff.1 hread)).1
    rw [howed] at hahead
    rw [hahead.nil hbytes, List.append_nil] at hreplies
    have hquiet := hs.following.inFlight_nil hs.holds.ledger hs.holds.alone hlen hreplies.symm
    have hdone : e.connection.isDone = true := Connection.isDone_iff.2 ⟨hacc, hquiet⟩
    rw [hdone] at hbusy
    contradiction
  · exfalso
    have hstep : e.connection.writer.step e.connection.outlet = none := by
      simpa [Connection.next?, hdrain, Connection.drain?] using hnext
    rcases Writer.step_eq_none hstep with ⟨-, hopened⟩ | hblocked
    · rw [hclosed] at hopened
      contradiction
    · exact hopen hblocked
  · exact hended

/-! ## What comes of it -/

/-- Once the connection has ended, all requests were answered and all answers were read and told. -/
theorem all_read (hs : Sound F session h d e) (hasks : Course.AsksForAll h d)
    (hended : e.connection.phase = .ended (.ok ())) :
    e.answers.length = h.buffers.length ∧ e.course.history.messages = e.answers.map (·.reply) ∧
      e.course.history.replies = e.answers.map Answered.told ∧
      (e.answers.map (·.number)).Perm (List.range h.buffers.length) := by
  obtain ⟨htaken, hlen, hperm, -⟩ := Course.told_of_ended hs.holds hasks hended
  have htotal : e.course.history.taken.length = h.buffers.length := by
    rw [← hlen, List.length_map]
  -- each buffer was told something, and only answers that were read are told
  have hmany : min e.course.history.messages.length e.answers.length = h.buffers.length := by
    have hreplies := hperm.length_eq
    rw [hs.following.told] at hreplies
    simpa [Course.told, htotal] using hreplies
  have hfew : e.answers.length ≤ h.buffers.length := by
    have hsub : e.answers.map (·.number) ⊆ List.range h.buffers.length := fun k hk =>
      List.mem_range.2 (htotal ▸ hs.following.number_lt k hk)
    simpa using (List.subperm_of_subset hs.following.once hsub).length_le
  obtain ⟨rest, hreplies, -⟩ := hs.following.reading
  have hall : rest = [] := by
    have hlens := congrArg List.length hreplies
    simp only [List.length_map, List.length_append] at hlens
    exact List.length_eq_zero_iff.1 (by omega)
  rw [hall, List.append_nil] at hreplies
  refine ⟨by omega, hreplies.symm, ?_, ?_⟩
  · rw [hs.following.told, List.take_of_length_le (by omega)]
  · rw [← htotal]
    exact hs.following.numbers_perm (by omega)

/-- The answer to a buffer's request says what `F` makes of its text. -/
theorem classify_answer (hs : Sound F session h d e) {a : Answered} (ha : a ∈ e.answers) :
    ∃ b, h.buffers[a.number]? = some b ∧
      classify (some a.reply.toValue) = (F b.text).outcome := by
  obtain ⟨b, id, hb, hreply⟩ := hs.right a ha
  refine ⟨b, hb, ?_⟩
  rw [hreply]
  exact classify_replyTo _ id (F b.text)

theorem texts (hs : Sound F session h d e) (hasks : Course.AsksForAll h d)
    (hended : e.connection.phase = .ended (.ok ())) :
    e.course.host.buffers.map (·.text) = h.buffers.map fun b => (F b.text).formatted b.text := by
  obtain ⟨-, hlen, hperm, -⟩ := Course.told_of_ended hs.holds hasks hended
  obtain ⟨-, -, hreplies, hnumbers⟩ := hs.all_read hasks hended
  generalize (e.course.history.taken.map fun r =>
    (e.course.history.answer? r).map Message.toValue) = answers at hlen hperm
  rw [hs.holds.buffers hperm]
  refine List.ext_getElem (by simp) ?_
  intro i hi hi'
  have hlt : i < h.buffers.length := by simpa using hi'
  -- some answer has this number, and it is what the buffer was told
  obtain ⟨a, ha, hnumber⟩ := List.mem_map.1 (hnumbers.mem_iff.2 (List.mem_range.2 hlt))
  have htold : answers[i]? = some (some a.reply.toValue) := by
    have hmem : a.told ∈ Course.told answers := by
      rw [← hperm.mem_iff, hreplies]
      exact List.mem_map_of_mem ha
    obtain ⟨k, hk, heq⟩ := List.mem_mapIdx.1 hmem
    simp only [Answered.told, Prod.mk.injEq, Waiter.buffer.injEq, and_true] at heq
    rw [← hnumber, ← heq.1, List.getElem?_eq_getElem hk, heq.2]
  obtain ⟨b, hb, hclassify⟩ := hs.classify_answer ha
  rw [hnumber, List.getElem?_eq_getElem hlt] at hb
  obtain rfl := Option.some.inj hb
  simpa [htold] using FormatReply.text_receive hclassify h.buffers[i]

theorem failures (hs : Sound F session h d e) (hasks : Course.AsksForAll h d)
    (hended : e.connection.phase = .ended (.ok ())) (hnone : h.failures = []) :
    e.course.host.failures = e.answers.filterMap fun a =>
      h.buffers[a.number]?.bind fun b => (F b.text).failure? b.label := by
  obtain ⟨-, -, hreplies, -⟩ := hs.all_read hasks hended
  rw [hs.holds.failures, hnone, hreplies, List.nil_append, List.filterMap_map]
  refine List.filterMap_congr ?_
  intro a ha
  obtain ⟨b, hb, hclassify⟩ := hs.classify_answer ha
  simp only [Function.comp_apply, Answered.told, Host.failure?, hb, Option.map_some,
    Option.bind_some]
  exact FormatReply.failure?_eq hclassify b.label

end Sound

/-! ## How far an exchange is from its end -/

/-- What is left to be done: answers that the backend has to give, bytes that have to arrive, and the
    work of the connection. -/
def left (e : Exchange) : Nat × Nat × Nat × Nat × Nat × Nat × Nat :=
  (e.course.history.accepted.length - e.answers.length, e.owed.length, e.connection.work)

/-- Less is left: the order on `left`, leftmost component first. -/
def Closer (e' e : Exchange) : Prop := InvImage WellFoundedRelation.rel left e' e

theorem closer_wf : WellFounded Closer := InvImage.wf left WellFoundedRelation.wf

/-- Whether nothing has changed but how the backend takes what is written to it. -/
structure Still (e' e : Exchange) : Prop where
  left : e'.left = e.left
  unanswered : e'.unanswered = e.unanswered
  owed : e'.owed = e.owed
  blocked : e'.isBlocked → e.isBlocked

theorem Still.refl (e : Exchange) : Still e e := ⟨rfl, rfl, rfl, id⟩

theorem Still.trans {e'' e' e : Exchange} (h' : Still e'' e') (h : Still e' e) : Still e'' e :=
  ⟨h'.left.trans h.left, h'.unanswered.trans h.unanswered, h'.owed.trans h.owed, h.blocked ∘ h'.blocked⟩

theorem Closer.congr {e₁ e₂ e : Exchange} (h : Closer e e₁) (hleft : e₁.left = e₂.left) :
    Closer e e₂ := by
  rw [Closer, InvImage, ← hleft]
  exact h

theorem Still.not_closer {e' e : Exchange} (h : Still e' e) : ¬Closer e' e := fun hc =>
  closer_wf.irrefl.irrefl e' (hc.congr h.left.symm)

section

variable {F : String → FormatReply} {session : String} {h : Host} {d : Dispatcher} {e : Exchange}
  {schedule : Nat → Act}

theorem closer_turn {m : Move Waiter} (hm : e.connection.next? = some m) :
    Closer (e.meet F .turn) e := by
  obtain ⟨hconnection, hhistory⟩ := Course.turn_eq hm
  have hwork := Connection.less_make hm
  have hleft : (e.meet F .turn).left =
      (e.course.history.accepted.length - e.answers.length, e.owed.length,
        (e.connection.make m).2.work) := by
    simp only [left, meet, connection, hconnection, hhistory, History.accepted_after]
  rw [Closer, InvImage, hleft]
  exact .right _ (.right _ hwork)

theorem closer_answer (hs : Sound F session h d e) (hasks : Course.AsksForAll h d) {number : Nat}
    (hmem : number ∈ e.unanswered) (id : String) : Closer (e.meet F (.answer number id)) e := by
  obtain ⟨b, -, hwaiter, heq⟩ := hs.answer_eq hasks hmem id
  have hnew : number ∉ e.answers.map (·.number) := by
    simpa using (List.mem_filter.1 hmem).2
  obtain ⟨r, hr, -⟩ := Option.map_eq_some_iff.1 hwaiter
  have hlt := hs.following.length_lt (List.getElem?_eq_some_iff.1 hr).1 hnew
  have hle := hs.holds.ledger.accepted.length_le
  rw [List.length_map] at hle
  rw [meet, heq]
  have hless (a : Answered) : e.course.history.accepted.length - (e.answers ++ [a]).length <
      e.course.history.accepted.length - e.answers.length := by
    rw [List.length_append, List.length_singleton]
    omega
  exact .left _ _ (hless _)

theorem closer_deliver (howed : e.owed ≠ []) (n : Nat) : Closer (e.meet F (.deliver (n + 1))) e := by
  have hpos : 0 < e.owed.length := List.length_pos_iff.2 howed
  have hless : (e.owed.drop (n + 1)).length < e.owed.length := by
    rw [List.length_drop]
    omega
  exact .right _ (.left _ _ hless)

theorem deliver_nothing {n : Nat} (hnone : e.owed.take n = []) (hall : e.owed.drop n = e.owed) :
    e.meet F (.deliver n) = e := by
  have hfeed (c : Connection Waiter) : c.feed [] = c := by
    rw [Connection.feed, LineReader.feed, Inbound.feed, List.append_nil]
  rw [meet, hnone, hall, Course.meet, Connection.meet, hfeed]

/-- **Every act comes closer to the end or changes nothing but how the backend takes bytes.** -/
theorem closer_or_still (hs : Sound F session h d e) (hasks : Course.AsksForAll h d) (a : Act) :
    Closer (e.meet F a) e ∨ Still (e.meet F a) e := by
  cases a with
  | turn =>
    cases hm : e.connection.next? with
    | none =>
      have hself : e.meet F .turn = e := by rw [meet, Course.turn_self hm]
      rw [hself]
      exact .inr (.refl e)
    | some m => exact .inl (closer_turn hm)
  | widen n =>
    refine .inr ⟨rfl, rfl, rfl, ?_⟩
    rintro ⟨hunsent, hwindow⟩
    have hwidened : (e.connection.outlet.widen n).window = some 0 := hwindow
    refine ⟨hunsent, ?_⟩
    cases n with
    | none => simp [Outlet.widen] at hwidened
    | some n =>
      obtain ⟨w, hw, hzero⟩ := Option.map_eq_some_iff.1 hwidened
      rw [hw, show w = 0 by omega]
  | answer number id =>
    by_cases hmem : number ∈ e.unanswered
    · exact .inl (closer_answer hs hasks hmem id)
    · rw [meet, answer_self hmem]
      exact .inr (.refl e)
  | deliver n =>
    by_cases howed : e.owed = []
    · rw [deliver_nothing (by rw [howed, List.take_nil]) (by rw [howed, List.drop_nil])]
      exact .inr (.refl e)
    · cases n with
      | zero =>
        rw [deliver_nothing rfl rfl]
        exact .inr (.refl e)
      | succ n => exact .inl (closer_deliver howed n)
  | close =>
    rw [meet]
    split
    · exact .inr ⟨rfl, rfl, rfl, id⟩
    · exact .inr (.refl e)

/-- The end stays the end. -/
theorem ended_meet (hended : e.connection.phase = .ended (.ok ())) (a : Act) :
    (e.meet F a).connection.phase = .ended (.ok ()) := by
  cases a with
  | turn =>
    have hnone : e.course.host.connection.next? = none := by
      have hphase : e.course.host.connection.phase = .ended (.ok ()) := hended
      simp only [Connection.next?, hphase]
    rw [meet, Course.turn_self hnone]
    exact hended
  | widen n => exact hended
  | answer number id =>
    rw [meet, answer]
    split <;> exact hended
  | deliver n => exact hended
  | close =>
    rw [meet]
    split <;> exact hended

/-! ## The end -/

/-- Behind a stage that none comes closer than, nothing changes any more but how the backend takes
    bytes. -/
theorem still_of_minimal (hs : ∀ n, Sound F session h d (after F h schedule n))
    (hasks : Course.AsksForAll h d) {n : Nat}
    (hmin : ∀ m, ¬Closer (after F h schedule m) (after F h schedule n)) {m k : Nat} (hm : n ≤ m)
    (hk : m ≤ k) : Still (after F h schedule k) (after F h schedule m) := by
  have hone {i : Nat} (hi : Still (after F h schedule i) (after F h schedule n)) :
      Still (after F h schedule (i + 1)) (after F h schedule i) := by
    rcases closer_or_still (hs i) hasks (schedule i) with hcloser | hstill
    · exact absurd (hcloser.congr hi.left) (hmin (i + 1))
    · exact hstill
  have hfrom : ∀ i ≥ n, Still (after F h schedule i) (after F h schedule n) := by
    intro i hi
    induction hi with
    | refl => exact .refl _
    | step _ ih => exact (hone ih).trans ih
  induction hk with
  | refl => exact .refl _
  | @step k hk ih => exact (hone (hfrom k (Nat.le_trans hm hk))).trans ih

/-- **A schedule that neglects nobody comes to a good end.** -/
theorem ends_of_fair (hr : Course.Ready session h) (hasks : Course.AsksForAll h d)
    (hbroken : h.connection.outlet.broken = false) (hfair : Fair F h schedule) :
    ∃ n, ∀ m ≥ n, (after F h schedule m).connection.phase = .ended (.ok ()) := by
  have hs := Sound.after hr hasks hbroken schedule (F := F)
  obtain ⟨-, ⟨n, rfl⟩, hleast⟩ :=
    closer_wf.has_min (Set.range (after F h schedule)) (Set.range_nonempty _)
  have hmin : ∀ m, ¬Closer (after F h schedule m) (after F h schedule n) := fun m =>
    hleast _ (Set.mem_range_self m)
  have hstill {m k : Nat} (hm : n ≤ m) (hk : m ≤ k) := still_of_minimal hs hasks hmin hm hk
  have hnever {m : Nat} (hm : n ≤ m) :
      ¬Closer ((after F h schedule m).meet F (schedule m)) (after F h schedule m) :=
    (hstill hm (Nat.le_succ m)).not_closer
  -- what the backend could do is done
  have hanswered : (after F h schedule n).unanswered = [] := by
    obtain ⟨m, hm, hnone | ⟨number, hmem, id, hact⟩⟩ := hfair.answers n
    · rw [← (hstill (Nat.le_refl n) hm).unanswered, hnone]
    · have hcloser := closer_answer (hs m) hasks hmem id
      rw [← hact] at hcloser
      exact absurd hcloser (hnever hm)
  have howed : (after F h schedule n).owed = [] := by
    obtain ⟨m, hm, hnone | ⟨k, hact⟩⟩ := hfair.deliveries n
    · rw [← (hstill (Nat.le_refl n) hm).owed, hnone]
    · by_contra hne
      rw [← (hstill (Nat.le_refl n) hm).owed] at hne
      have hcloser := closer_deliver hne k (F := F)
      rw [← hact] at hcloser
      exact hnever hm hcloser
  -- and the connection finds nothing to do with its output open
  obtain ⟨m₁, hm₁, hopen⟩ := hfair.windows n
  obtain ⟨m₂, hm₂, hact⟩ := hfair.turns m₁
  have hm : n ≤ m₂ := Nat.le_trans hm₁ hm₂
  have hnext : (after F h schedule m₂).connection.next? = none := by
    cases hmove : (after F h schedule m₂).connection.next? with
    | none => rfl
    | some move =>
      have hcloser := closer_turn hmove (F := F)
      rw [← hact] at hcloser
      exact absurd hcloser (hnever hm)
  have hended := (hs m₂).ended_of_rest hasks hnext
    ((hstill (Nat.le_refl n) hm).unanswered.trans hanswered)
    ((hstill (Nat.le_refl n) hm).owed.trans howed)
    (fun hblocked => hopen ((hstill hm₁ hm₂).blocked hblocked))
  refine ⟨m₂, ?_⟩
  intro m hm
  induction hm with
  | refl => exact hended
  | @step m _ ih => exact ended_meet ih (schedule m)

/-- A schedule that goes on with turns where nothing is left to be done neglects nobody. -/
theorem fair_of_rest {n : Nat} (hturns : ∀ m ≥ n, schedule m = .turn)
    (hnext : (after F h schedule n).connection.next? = none)
    (hanswered : (after F h schedule n).unanswered = [])
    (howed : (after F h schedule n).owed = [])
    (hunsent : (after F h schedule n).connection.writer.unsent = []) : Fair F h schedule := by
  have hrest : ∀ m ≥ n, after F h schedule m = after F h schedule n := by
    intro m hm
    induction hm with
    | refl => rfl
    | @step m hm ih =>
      have hself : (after F h schedule n).meet F .turn = after F h schedule n := by
        rw [meet, Course.turn_self hnext]
      rw [after, hturns m hm, ih, hself]
  have hlater (k : Nat) : max k n ≥ n := Nat.le_max_right k n
  exact
    { turns := fun k => ⟨max k n, Nat.le_max_left k n, hturns _ (hlater k)⟩
      answers := fun k => ⟨max k n, Nat.le_max_left k n, .inl (by rw [hrest _ (hlater k), hanswered])⟩
      deliveries := fun k => ⟨max k n, Nat.le_max_left k n, .inl (by rw [hrest _ (hlater k), howed])⟩
      windows := fun k => ⟨max k n, Nat.le_max_left k n, fun hblocked => by
        rw [hrest _ (hlater k)] at hblocked
        exact hblocked.1 hunsent⟩ }

end

/-- **A correct backend formats every buffer.** Whatever function it formats with, in whatever order it
    answers, however its replies are cut and whenever it takes what is written to it: as long as
    nobody is neglected, the connection comes to a good end. Then every request was answered once and
    every answer was read; each buffer has the formatted code where its reply has any, and its own
    text otherwise; and the failures are those of the other buffers, in the order in which their
    replies were read. -/
theorem formats_every_buffer (F : String → FormatReply) (session kind : String)
    (window : Option Nat) (shutdownFails : Bool) (buffers : List Buffer) (schedule : Nat → Act)
    (hfew : buffers.length < Counter.size)
    (hfair : Fair F (Host.formatAll session kind ⟨window, false, shutdownFails⟩ buffers) schedule) :
    ∃ n, ∀ m ≥ n,
      let h := Host.formatAll session kind ⟨window, false, shutdownFails⟩ buffers
      let e := after F h schedule m
      e.connection.phase = .ended (.ok ()) ∧
        (e.answers.map (·.number)).Perm (List.range buffers.length) ∧
        e.course.history.messages = e.answers.map (·.reply) ∧
        e.course.host.buffers.map (·.text) =
          buffers.map (fun b => (F b.text).formatted b.text) ∧
        e.course.host.failures = e.answers.filterMap fun a =>
          buffers[a.number]?.bind fun b => (F b.text).failure? b.label := by
  have hr := formatAll_ready session kind ⟨window, false, shutdownFails⟩ buffers hfew
  have hasks := formatAll_asks session kind ⟨window, false, shutdownFails⟩ buffers
  have heq := formatAll_eq session kind ⟨window, false, shutdownFails⟩ buffers
  generalize Host.formatAll session kind ⟨window, false, shutdownFails⟩ buffers = h
    at hr hasks heq hfair
  have hbuffers : h.buffers = buffers := by rw [heq]; rfl
  have hnone : h.failures = [] := by rw [heq]; rfl
  have hbroken : h.connection.outlet.broken = false := by rw [heq]; rfl
  obtain ⟨n, hended⟩ := ends_of_fair hr hasks hbroken hfair
  refine ⟨n, ?_⟩
  intro m hm
  have hs := Sound.after hr hasks hbroken schedule m (F := F)
  obtain ⟨-, hmessages, -, hnumbers⟩ := hs.all_read hasks (hended m hm)
  have htexts := hs.texts hasks (hended m hm)
  have hfailures := hs.failures hasks (hended m hm) hnone
  rw [hbuffers] at hnumbers htexts hfailures
  exact ⟨hended m hm, hnumbers, hmessages, htexts, hfailures⟩

theorem formats_every_buffer_two_buffers :
    let F (code : String) : FormatReply :=
      if code = "a" then .ok "A" else ⟨"fail", none, none, none⟩
    let buffers : List Buffer := [⟨"cell-1", "a", 0⟩, ⟨"cell-2", "b", 0⟩]
    let h := Host.formatAll "s" "gofmt_request" ⟨some 40, false, false⟩ buffers
    let script : List Act := [.turn, .turn, .turn, .turn, .widen none, .turn, .answer 1 "r1",
      .deliver 30, .turn, .answer 0 "r0", .deliver 500, .turn, .turn, .turn, .turn]
    let schedule (n : Nat) : Act := script.getD n .turn
    buffers.length < Counter.size ∧ Fair F h schedule ∧ ∃ n, ∀ m ≥ n,
      (after F h schedule m).course.host.buffers.map (·.text) = ["A", "b"] := by
  intro F buffers h script schedule
  have hfew : buffers.length < Counter.size := by decide
  have hturns : ∀ m ≥ script.length, schedule m = .turn := by
    intro m hm
    rw [show schedule m = script.getD m .turn from rfl, List.getD_eq_getElem?_getD,
      List.getElem?_eq_none_iff.2 hm, Option.getD_none]
  have hfair : Fair F h schedule := by
    refine fair_of_rest hturns ?_ ?_ ?_ ?_
    · exact Option.isNone_iff_eq_none.1 (by decide +kernel)
    · decide +kernel
    · decide +kernel
    · decide +kernel
  obtain ⟨n, hall⟩ :=
    formats_every_buffer F "s" "gofmt_request" (some 40) false buffers schedule hfew hfair
  refine ⟨hfew, hfair, n, ?_⟩
  intro m hm
  obtain ⟨-, -, -, htexts, -⟩ := hall m hm
  exact htexts

end Exchange

end FormatBridge
