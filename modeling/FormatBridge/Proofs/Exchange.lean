import FormatBridge.Proofs.Course
import FormatBridge.Proofs.LineStream
import FormatBridge.Proofs.Writing
import Mathlib.Data.List.Perm.Subperm

set_option autoImplicit false

/-! # An exchange with a backend that formats

A backend formats code by a function `F`. It decodes each request line that it has received in full
and answers each request once, in any order, with a reply that carries what `F` makes of the code.
Its replies come in pieces of any size, and it takes the requests at its own pace. An `Exchange` is
the course of a host together with such a backend; an `Act` is what happens next.

`Following` says how far the connection has come with the replies, and every move keeps it as long as
nothing fails (`Following.make`). -/

namespace FormatBridge

open Json (Value)

/-! ## The backend and its host -/

/-- The reply to a request for code, under an id of its own. -/
def replyTo? (F : String → FormatReply) (request : Message) (id : String) : Option Message :=
  ((request.content.get? "code").bind Value.text?).map fun code =>
    request.replyTo id (F code).toValue

/-- A request that was answered, by its number, and the reply. -/
structure Answered where
  number : Nat
  reply : Message

/-- A host that is left to a backend that formats. -/
structure Exchange where
  course : Course
  /-- What the backend has answered, in order. -/
  answers : List Answered
  /-- What the backend has written and the host has not received. -/
  owed : Bytes

/-- What happens next. -/
inductive Act where
  /-- The connection makes its next move. -/
  | turn
  /-- The backend takes more bytes, or any number from now on. -/
  | widen (n : Option Nat)
  /-- The backend answers a request under an id of its own. -/
  | answer (number : Nat) (id : String)
  /-- Some bytes of what the backend has written arrive. -/
  | deliver (n : Nat)
  /-- The backend, which has answered all requests, closes its output. -/
  | close
  deriving DecidableEq, Repr

namespace Exchange

variable (F : String → FormatReply)

/-- An exchange in which nothing has happened. -/
def start (h : Host) : Exchange := ⟨.start h, [], []⟩

/-- The host's connection. -/
def connection (e : Exchange) : Connection Waiter := e.course.host.connection

/-- The requests that the backend has received in full. -/
def requests (e : Exchange) : List Message := messagesIn e.course.history.written

/-- The numbers of the requests that the backend has received and not answered. -/
def unanswered (e : Exchange) : List Nat :=
  (List.range e.requests.length).filter (· ∉ e.answers.map (·.number))

/-- The backend answers a request, if it has one with this number to answer. -/
def answer (e : Exchange) (number : Nat) (id : String) : Exchange :=
  match if number ∈ e.unanswered then e.requests[number]?.bind (replyTo? F · id) else none with
  | some reply => { e with answers := e.answers ++ [⟨number, reply⟩], owed := e.owed ++ reply.line }
  | none => e

/-- Whether all requests were answered and all answers have arrived. -/
def isServed (e : Exchange) : Bool :=
  e.owed.isEmpty && e.answers.length = e.course.history.accepted.length

/-- An exchange after something has happened. -/
def meet (e : Exchange) : Act → Exchange
  | .turn => { e with course := e.course.meet .turn }
  | .widen n => { e with course := e.course.meet (.peer (.widen n)) }
  | .answer number id => e.answer F number id
  | .deliver n => { e with
      course := e.course.meet (.peer (.feed (e.owed.take n)))
      owed := e.owed.drop n }
  | .close => if e.isServed then { e with course := e.course.meet (.peer .endInput) } else e

/-- The exchange after the first `n` acts of a schedule. -/
def after (h : Host) (schedule : Nat → Act) : Nat → Exchange
  | 0 => start h
  | n + 1 => (after h schedule n).meet F (schedule n)

/-- Whether the connection has something to write that the backend does not take. -/
def isBlocked (e : Exchange) : Prop :=
  e.connection.writer.unsent ≠ [] ∧ e.connection.outlet.window = some 0

/-- Whether a schedule neglects nobody: the connection moves again and again, the backend answers
    what it receives, what it writes arrives, and it takes what is written to it. -/
structure Fair (h : Host) (schedule : Nat → Act) : Prop where
  turns : ∀ n, ∃ m ≥ n, schedule m = .turn
  answers : ∀ n, ∃ m ≥ n, (after F h schedule m).unanswered = [] ∨
    ∃ number ∈ (after F h schedule m).unanswered, ∃ id, schedule m = .answer number id
  deliveries : ∀ n, ∃ m ≥ n, (after F h schedule m).owed = [] ∨ ∃ k, schedule m = .deliver (k + 1)
  windows : ∀ n, ∃ m ≥ n, ¬(after F h schedule m).isBlocked

end Exchange

/-! ## How far the connection has come with the replies -/

/-- Who is told what when an answer is read. -/
def Answered.told (a : Answered) : Waiter × Option Value :=
  (.buffer a.number true, some a.reply.toValue)

/-- What holds of a connection whose backend has given `answers` and still owes the bytes `owed`. -/
structure Following (session : String) (c : Connection Waiter) (h : History Waiter)
    (answers : List Answered) (owed : Bytes) : Prop where
  named : ∀ a ∈ answers, a.reply.answers? = some (requestId session a.number) ∧
    (h.taken[a.number]?).map (·.request.waiter) = some (.buffer a.number true)
  once : (answers.map (·.number)).Nodup
  reading : ∃ rest, answers.map (·.reply) = h.messages ++ rest ∧ c.reader.Ahead owed rest
  told : h.replies = (answers.take h.messages.length).map Answered.told
  unbroken : c.outlet.broken = false
  unfailed : c.reader.inbound.failures = []
  ended : c.reader.inbound.ended = true → owed = [] ∧ answers.length = h.accepted.length
  phase : c.phase = .running ∨ (c.phase = .draining ∧ c.writer.closed = true) ∨
    c.phase = .ended (.ok ())

namespace Following

variable {session : String} {c c' : Connection Waiter} {h h' : History Waiter}
  {answers : List Answered} {owed : Bytes}

theorem of_same (hf : Following session c h answers owed) (hreader : c'.reader = c.reader)
    (hbroken : c'.outlet.broken = c.outlet.broken)
    (hphase : c'.phase = .running ∨ (c'.phase = .draining ∧ c'.writer.closed = true) ∨
      c'.phase = .ended (.ok ()))
    (htaken : h.taken <+: h'.taken) (haccepted : h'.accepted = h.accepted)
    (hmessages : h'.messages = h.messages) (hreplies : h'.replies = h.replies) :
    Following session c' h' answers owed :=
  { named := by
      intro a ha
      obtain ⟨hanswers, hwaiter⟩ := hf.named a ha
      obtain ⟨r, hr, hmap⟩ := Option.map_eq_some_iff.1 hwaiter
      obtain ⟨more, hmore⟩ := htaken
      obtain ⟨hlt, -⟩ := List.getElem?_eq_some_iff.1 hr
      refine ⟨hanswers, ?_⟩
      rw [← hmore, List.getElem?_append_left hlt, hr, Option.map_some, hmap]
    once := hf.once
    reading := by
      rw [hmessages, hreader]
      exact hf.reading
    told := by
      rw [hmessages, hreplies]
      exact hf.told
    unbroken := hbroken.trans hf.unbroken
    unfailed := by
      rw [hreader]
      exact hf.unfailed
    ended := by
      rw [hreader, haccepted]
      exact hf.ended
    phase := hphase }

/-- The numbers of the answers are those of requests that were taken up. -/
theorem number_lt (hf : Following session c h answers owed) :
    ∀ n ∈ answers.map (·.number), n < h.taken.length := by
  intro n hn
  obtain ⟨a, ha, rfl⟩ := List.mem_map.1 hn
  obtain ⟨r, hr, -⟩ := Option.map_eq_some_iff.1 (hf.named a ha).2
  exact (List.getElem?_eq_some_iff.1 hr).1

/-- When there are as many answers as requests, each request has one. -/
theorem numbers_perm (hf : Following session c h answers owed)
    (hlen : h.taken.length ≤ answers.length) :
    (answers.map (·.number)).Perm (List.range h.taken.length) := by
  have hsub : answers.map (·.number) ⊆ List.range h.taken.length := fun n hn =>
    List.mem_range.2 (hf.number_lt n hn)
  refine (List.subperm_of_subset hf.once hsub).perm_of_length_le ?_
  rw [List.length_range, List.length_map]
  exact hlen

/-- While a request has no answer, there are fewer answers than requests. -/
theorem length_lt (hf : Following session c h answers owed) {number : Nat}
    (htaken : number < h.taken.length) (hnew : number ∉ answers.map (·.number)) :
    answers.length < h.taken.length := by
  by_contra hle
  exact hnew ((hf.numbers_perm (not_lt.1 hle)).mem_iff.2 (List.mem_range.2 htaken))

/-- When all answers were read and each request has one, nobody waits. -/
theorem inFlight_nil (hf : Following session c h answers owed) (hl : Ledger session c h)
    (ha : Alone c h) (hlen : h.taken.length ≤ answers.length)
    (hall : h.messages = answers.map (·.reply)) : c.inFlight = [] := by
  have hanswered : ∀ r ∈ h.taken, c.awaits h r = false := by
    intro r hr
    obtain ⟨k, hk, hget⟩ := List.getElem_of_mem hr
    have hid := hl.id_eq (List.getElem?_eq_some_iff.2 ⟨hk, hget⟩)
    have hmem : k ∈ answers.map (·.number) :=
      (hf.numbers_perm hlen).mem_iff.2 (List.mem_range.2 hk)
    obtain ⟨a, ha', rfl⟩ := List.mem_map.1 hmem
    have hfound : (h.answer? r).isSome = true := by
      rw [History.answer?, ha.since r hr, List.drop_zero, hall, List.find?_isSome]
      refine ⟨a.reply, List.mem_map_of_mem ha', ?_⟩
      rw [(hf.named a ha').1, hid]
      exact decide_eq_true rfl
    rw [Connection.awaits, Option.isNone_eq_false_iff.2 hfound, Bool.and_false]
  rw [hl.inFlight, List.filter_eq_nil_iff.2, List.map_nil]
  intro r hr
  rw [hanswered r hr]
  exact Bool.false_ne_true

/-! ### Moves -/

theorem stop (hf : Following session c h answers owed) (hl : Ledger session c h)
    (hrun : c.phase = .running) (hquiet : c.inFlight = []) :
    Following session (c.make .stop).2 (h.after c .stop) answers owed := by
  have hwriting := (hl.writing (Connection.isRunning_iff.2 hrun)).1
  have hmade : c.make .stop = ([], { c with
      writer := { c.writer with closed := true }, phase := .draining }) := by
    simp [Connection.make, Connection.leave, Connection.abandon, hquiet, hwriting]
  refine hf.of_same ?_ ?_ ?_ (List.prefix_refl _) rfl rfl ?_
  · rw [hmade]
  · rw [hmade]
  · rw [hmade]
    exact .inr (.inl ⟨rfl, rfl⟩)
  · rw [History.replies_after, hmade]
    exact List.append_nil _

theorem take (hf : Following session c h answers owed) (hl : Ledger session c h)
    (hrun : c.phase = .running) (s : Submission Waiter) (rest : List (Submission Waiter)) :
    Following session (c.make (.take s rest)).2 (h.after c (.take s rest)) answers owed := by
  have hmade : c.make (.take s rest) = _ := hl.take_eq hrun s rest
  refine hf.of_same ?_ ?_ ?_ (List.prefix_append ..) rfl rfl ?_
  · rw [hmade]
  · rw [hmade]
  · rw [hmade]
    exact .inl hrun
  · rw [History.replies_after, hmade]
    exact List.append_nil _

/-- While the connection runs, its writer cannot end, and nothing lets it fail. -/
theorem write (hf : Following session c h answers owed) (hl : Ledger session c h)
    (hrun : c.phase = .running) {step : Writer.Step} {writer : Writer} {outlet : Outlet}
    (hstep : c.writer.step c.outlet = some (step, writer, outlet)) :
    Following session (c.make (.write step writer outlet)).2
      (h.after c (.write step writer outlet)) answers owed := by
  have hopen := (hl.writing (Connection.isRunning_iff.2 hrun)).2
  rcases Writer.step_cases hstep with ⟨-, hclosed, -⟩ | ⟨-, hbroken, -⟩ |
      ⟨-, -, n, -, -, -, rfl, rfl⟩
  · -- the output is shut down only behind the end
    rw [hopen] at hclosed
    contradiction
  · rw [hf.unbroken] at hbroken
    contradiction
  · refine hf.of_same rfl rfl (.inl hrun) (List.prefix_refl _) rfl rfl ?_
    rw [History.replies_after]
    exact List.append_nil _

theorem drain (hf : Following session c h answers owed) (hdrain : c.phase = .draining)
    {step : Writer.Step} {writer : Writer} {outlet : Outlet}
    (hstep : c.writer.step c.outlet = some (step, writer, outlet)) :
    Following session (c.make (.drain step writer outlet)).2
      (h.after c (.drain step writer outlet)) answers owed := by
  have hclosed : c.writer.closed = true := by
    rcases hf.phase with hrun | ⟨-, hclosed⟩ | hended
    · rw [hdrain] at hrun
      contradiction
    · exact hclosed
    · rw [hdrain] at hended
      contradiction
  rcases Writer.step_cases hstep with ⟨-, -, rfl, rfl, rfl⟩ | ⟨-, hbroken, -⟩ |
      ⟨-, -, n, -, -, rfl, rfl, rfl⟩
  · -- the end is a good one also when shutting the output down fails
    have hreplies := Connection.replies_conclude c (.ok ())
    split
    · refine hf.of_same rfl rfl (.inr (.inr rfl)) (List.prefix_refl _) rfl rfl ?_
      rw [History.replies_after]
      exact (congrArg (h.replies ++ ·) hreplies).trans (List.append_nil _)
    · refine hf.of_same rfl rfl (.inr (.inr rfl)) (List.prefix_refl _) rfl rfl ?_
      rw [History.replies_after]
      exact (congrArg (h.replies ++ ·) hreplies).trans (List.append_nil _)
  · rw [hf.unbroken] at hbroken
    contradiction
  · refine hf.of_same rfl rfl (.inr (.inl ⟨hdrain, hclosed⟩)) (List.prefix_refl _) rfl rfl ?_
    rw [History.replies_after]
    exact List.append_nil _

/-- The end of the input is not met before the connection is done. -/
theorem input_open (hf : Following session c h answers owed) (hl : Ledger session c h)
    (ha : Alone c h) (hbusy : c.isDone = false) (hacc : c.accepting = false)
    (hbytes : c.reader.inbound.bytes = []) : c.reader.inbound.ended = false := by
  by_contra hended
  obtain ⟨howed, hlen⟩ := hf.ended (by simpa using hended)
  obtain ⟨rest, hreplies, hahead⟩ := hf.reading
  -- the backend has closed its output, so all answers have arrived, and all of them were read
  rw [howed] at hahead
  rw [hahead.nil hbytes, List.append_nil] at hreplies
  have htaken := congrArg List.length (ha.all hacc)
  rw [List.length_map] at htaken
  have hquiet := hf.inFlight_nil hl ha (by omega) hreplies.symm
  rw [Connection.isDone_iff.2 ⟨hacc, hquiet⟩] at hbusy
  contradiction

/-- **The next answer is told to the buffer whose request it answers.** -/
theorem route (hf : Following session c h answers owed) (hl : Ledger session c h)
    (hrun : c.phase = .running) {m : Message} {rest : List Message}
    (hreplies : answers.map (·.reply) = h.messages ++ m :: rest) (reader : LineReader) :
    ∃ a, answers.take (h.messages.length + 1) = answers.take h.messages.length ++ [a] ∧
      m = a.reply ∧
      c.make (.read (.message m) reader) =
        ([.log (.replyReceived (requestId session a.number)), .reply a.told.1 a.told.2], { c with
          reader := reader
          inFlight := c.inFlight.filter (·.1 ≠ requestId session a.number) }) := by
  have hlt : h.messages.length < answers.length := by
    have hlen := congrArg List.length hreplies
    simp only [List.length_map, List.length_append, List.length_cons] at hlen
    omega
  generalize ha' : answers[h.messages.length] = a
  have hreply : m = a.reply := by
    have hat := congrArg (·[h.messages.length]?) hreplies
    simpa [hlt, ha'] using hat.symm
  have hmem : a ∈ answers := ha' ▸ List.getElem_mem hlt
  obtain ⟨hanswers, hwaiter⟩ := hf.named a hmem
  obtain ⟨r, hr, hwaiter⟩ := Option.map_eq_some_iff.1 hwaiter
  have hid := hl.id_eq hr
  refine ⟨a, by rw [List.take_add_one, List.getElem?_eq_getElem hlt, ha']; rfl, hreply, ?_⟩
  -- the request still waits, since every earlier answer has another number
  have hawaits : c.awaits h r = true := by
    have hrun' : c.isRunning = true := Connection.isRunning_iff.2 hrun
    rw [Connection.awaits, hrun', Bool.true_and, Option.isNone_iff_eq_none, History.answer?,
      List.find?_eq_none]
    intro m' hm'
    have hm' := List.mem_of_mem_drop hm'
    obtain ⟨i, hi, hget'⟩ := List.getElem_of_mem hm'
    have hlt' : i < answers.length := Nat.lt_trans hi hlt
    have hearlier : answers[i].reply = m' := by
      have hat := congrArg (·[i]?) hreplies
      simp only [List.getElem?_append_left hi, List.getElem?_map, List.getElem?_eq_getElem hlt',
        List.getElem?_eq_getElem hi, hget'] at hat
      exact Option.some.inj hat
    have hother := (hf.named answers[i] (List.getElem_mem _)).1
    rw [hearlier] at hother
    simp only [hother, hid, Option.some.injEq, requestId_inj, decide_eq_true_eq]
    intro hsame
    have hi' : i < (answers.map (·.number)).length := by simpa using hlt'
    have hj' : h.messages.length < (answers.map (·.number)).length := by simpa using hlt
    have hnumbers : (answers.map (·.number))[i] = (answers.map (·.number))[h.messages.length] := by
      simpa [ha'] using hsame
    exact Nat.ne_of_lt hi (hf.once.getElem_inj_iff.1 hnumbers)
  have hlookup := hl.lookup_inFlight (List.mem_of_getElem? hr) hawaits
  rw [hid, hwaiter] at hlookup
  simp only [Connection.make, Connection.afterRead, Connection.route, hreply, hanswers, hlookup]
  rfl

theorem read (hf : Following session c h answers owed) (hl : Ledger session c h) (ha : Alone c h)
    (hrun : c.phase = .running) (hbusy : c.isDone = false) (hacc : c.accepting = false)
    {reading : LineReader.Reading} {reader : LineReader}
    (hstep : c.reader.step = some (reading, reader)) :
    Following session (c.make (.read reading reader)).2 (h.after c (.read reading reader)) answers
      owed := by
  obtain ⟨rest, hreplies, hahead⟩ := hf.reading
  obtain ⟨hfail, hended, hreading⟩ :=
    hahead.step hf.unfailed (hf.input_open hl ha hbusy hacc) hstep
  rcases hreading with ⟨rfl, hnext⟩ | ⟨m, rest, rfl, rfl, hnext⟩
  · exact
      { named := hf.named
        once := hf.once
        reading := ⟨rest, hreplies, hnext⟩
        told := by
          rw [History.replies_after]
          exact (List.append_nil _).trans hf.told
        unbroken := hf.unbroken
        unfailed := hfail
        ended := fun h => hf.ended (hended ▸ h)
        phase := .inl hrun }
  · obtain ⟨a, htake, rfl, hmade⟩ := hf.route hl hrun hreplies reader
    have hmessages : (h.after c (.read (.message a.reply) reader)).messages =
        h.messages ++ [a.reply] := rfl
    exact
      { named := hf.named
        once := hf.once
        reading := by
          refine ⟨rest, ?_, ?_⟩
          · rw [hreplies, hmessages, List.append_assoc]
            rfl
          · rw [hmade]
            exact hnext
        told := by
          rw [History.replies_after, hmade, hmessages, List.length_append, List.length_singleton,
            htake, List.map_append, ← hf.told]
          rfl
        unbroken := by
          rw [hmade]
          exact hf.unbroken
        unfailed := by
          rw [hmade]
          exact hfail
        ended := by
          rw [hmade]
          exact fun h => hf.ended (hended ▸ h)
        phase := by
          rw [hmade]
          exact .inl hrun }

/-- **Every move keeps it.** -/
theorem make (hf : Following session c h answers owed) (hl : Ledger session c h) (ha : Alone c h)
    {m : Move Waiter} (hm : c.next? = some m) :
    Following session (c.make m).2 (h.after c m) answers owed := by
  cases Connection.chosen_of_next hm with
  | stop hrun hsealed hquiet => exact hf.stop hl hrun hquiet
  | @take s rest hrun haccepting hqueue => exact hf.take hl hrun s rest
  | close hrun haccepting hqueue halone =>
    refine hf.of_same rfl rfl (.inl hrun) (List.prefix_refl _) rfl rfl ?_
    rw [History.replies_after]
    exact List.append_nil _
  | write hrun hbusy hsettled hwriting hstep => exact hf.write hl hrun hstep
  | read hrun hbusy hsettled hidle hstep =>
    exact hf.read hl ha hrun hbusy (ha.not_accepting hsettled) hstep
  | drain hdrain hstep => exact hf.drain hdrain hstep

/-! ### What the backend does -/

theorem widen (hf : Following session c h answers owed) (n : Option Nat) :
    Following session (c.meet (.widen n)) h answers owed := by
  refine hf.of_same rfl ?_ hf.phase (List.prefix_refl _) rfl rfl rfl
  cases n <;> rfl

theorem deliver (hf : Following session c h answers owed) (n : Nat) :
    Following session (c.meet (.feed (owed.take n))) h answers (owed.drop n) := by
  obtain ⟨rest, hreplies, hahead⟩ := hf.reading
  exact
    { named := hf.named
      once := hf.once
      reading := ⟨rest, hreplies, hahead.feed n⟩
      told := hf.told
      unbroken := hf.unbroken
      unfailed := hf.unfailed
      ended := by
        intro hc
        obtain ⟨hnil, hlen⟩ := hf.ended hc
        exact ⟨by rw [hnil, List.drop_nil], hlen⟩
      phase := hf.phase }

theorem close (hf : Following session c h answers owed) (howed : owed = [])
    (hlen : answers.length = h.accepted.length) :
    Following session (c.meet .endInput) h answers owed := by
  obtain ⟨rest, hreplies, hahead⟩ := hf.reading
  exact
    { named := hf.named
      once := hf.once
      reading := ⟨rest, hreplies, hahead.inside, hahead.readable, hahead.bytes⟩
      told := hf.told
      unbroken := hf.unbroken
      unfailed := hf.unfailed
      ended := fun _ => ⟨howed, hlen⟩
      phase := hf.phase }

theorem answer (hf : Following session c h answers owed) (hl : Ledger session c h) {a : Answered}
    (hnew : a.number ∉ answers.map (·.number))
    (hanswers : a.reply.answers? = some (requestId session a.number))
    (hwaiter : (h.taken[a.number]?).map (·.request.waiter) = some (.buffer a.number true))
    (hfits : a.reply.content.Fits (Json.maxDepth - 1)) :
    Following session c h (answers ++ [a]) (owed ++ a.reply.line) := by
  obtain ⟨rest, hreplies, hahead⟩ := hf.reading
  have hle : h.messages.length ≤ answers.length := by
    have hlen := congrArg List.length hreplies
    simp only [List.length_map, List.length_append] at hlen
    omega
  exact
    { named := by
        intro b hb
        rcases List.mem_append.1 hb with hb | hb
        · exact hf.named b hb
        · rw [List.mem_singleton.1 hb]
          exact ⟨hanswers, hwaiter⟩
      once := by
        rw [List.map_append, List.map_singleton, ← List.concat_eq_append]
        exact hf.once.concat hnew
      reading := by
        refine ⟨rest ++ [a.reply], ?_, hahead.write hfits⟩
        rw [List.map_append, hreplies, List.append_assoc]
        rfl
      told := by
        rw [List.take_append_of_le_length hle]
        exact hf.told
      unbroken := hf.unbroken
      unfailed := hf.unfailed
      ended := by
        intro hc
        -- all requests have been answered when the backend has closed its output
        obtain ⟨-, hlen⟩ := hf.ended hc
        obtain ⟨r, hr, -⟩ := Option.map_eq_some_iff.1 hwaiter
        have hlt := hf.length_lt (List.getElem?_eq_some_iff.1 hr).1 hnew
        have hle := hl.accepted.length_le
        rw [List.length_map] at hle
        omega
      phase := hf.phase }

end Following

end FormatBridge
