import FormatBridge.Proofs.OwnReplies

set_option autoImplicit false

/-! # Every failure is reported once

Dispatchers that report failures share the queue of their host, and whoever shows failures takes all
that lie in it, at any moment. A reply, or none, that is given to a request which waits for one
either sets the text of the buffer that the request was made from, once, or adds one failure to the
queue (`Balanced.one_effect`). A `Register` notes these deliveries beside the chronicle. What was
taken and what still lies in the queue are together the failures of the deliveries, in their order
(`Presentation.reports_every_failure_once`). -/

namespace FormatBridge

open Json (Value)

/-! ## Taking failures -/

/-- What happens at a desk whose failures are taken now and then. -/
inductive Occurrence where
  | deed (deed : Deed)
  /-- A request is let go of without a reply, so nobody will ever be told. -/
  | forget (request : Nat)
  /-- All failures in the queue are taken. -/
  | take

/-- A desk together with the lists of failures that were taken, in order. -/
structure Presentation where
  desk : Desk
  taken : List (List Failure)

namespace Presentation

/-- A desk with dispatchers of these kinds, which all report to its queue. -/
def start (buffers : List Buffer) (kinds : List String) : Presentation :=
  ⟨.start buffers (kinds.map (·, true)), []⟩

/-- What one occurrence leaves. -/
def meet (follows : Nat → Nat) (p : Presentation) : Occurrence → Presentation
  | .deed deed => { p with desk := p.desk.meet follows deed }
  | .forget request => { p with desk := (p.desk.obey 0 (.forget request)).2 }
  | .take =>
    let (failures, host) := p.desk.host.takeFailures
    ⟨{ p.desk with host := host }, p.taken ++ [failures]⟩

/-- What many occurrences leave. -/
def run (follows : Nat → Nat) (buffers : List Buffer) (kinds : List String)
    (script : List Occurrence) : Presentation :=
  script.foldl (meet follows) (start buffers kinds)

theorem run_append_singleton (follows : Nat → Nat) (buffers : List Buffer) (kinds : List String)
    (script : List Occurrence) (o : Occurrence) : run follows buffers kinds (script ++ [o]) =
      (run follows buffers kinds script).meet follows o := by
  simp [run]

/-- A take gives all that lies in the queue and leaves nothing there. -/
theorem meet_take (follows : Nat → Nat) (p : Presentation) :
    (p.meet follows .take).taken = p.taken ++ [p.desk.host.failures] ∧
      (p.meet follows .take).desk.host.failures = [] := by
  obtain ⟨hall, hnone⟩ := p.desk.host.takeFailures_all
  exact ⟨congrArg (p.taken ++ [·]) hall, hnone⟩

/-- All failures that were reported: those taken and those still in the queue. -/
def reported (p : Presentation) : List Failure := p.taken.flatten ++ p.desk.host.failures

end Presentation

/-! ## Deliveries -/

/-- The buffer that a request was made from, as long as the request waits for a reply. -/
def Chronicle.waiting? (past : Chronicle) (request : Nat) : Option Nat :=
  if request ∈ past.answered then none else past.origins[request]?

/-- A request is let go of. -/
def Chronicle.forget (past : Chronicle) (request : Nat) : Chronicle :=
  match past.waiting? request with
  | none => past
  | some _ => { past with answered := request :: past.answered }

/-- A reply, or none, that was given to whoever waited for it. -/
structure Delivery where
  request : Nat
  /-- The buffer that the request was made from. -/
  origin : Nat
  reply : Option Value

/-- The failure that a delivery has to report. -/
def Delivery.failure? (buffers : List Buffer) (x : Delivery) : Option Failure :=
  buffers[x.origin]?.bind fun b => Buffer.failure? b.label x.reply

/-- The chronicle together with the deliveries, in order. -/
structure Register where
  past : Chronicle
  delivered : List Delivery

namespace Register

/-- The delivery that a deed is. -/
def delivery? (past : Chronicle) : Deed → Option Delivery
  | .deliver request reply => (past.waiting? request).map (⟨request, ·, reply⟩)
  | .select .. | .clear _ | .setText .. | .format _ => none

/-- An occurrence is noted, in a place with so many buffers and dispatchers. -/
def note (follows : Nat → Nat) (buffers dispatchers : Nat) (a : Register) : Occurrence → Register
  | .deed deed =>
    ⟨a.past.note follows buffers dispatchers deed, a.delivered ++ (delivery? a.past deed).toList⟩
  | .forget request => { a with past := a.past.forget request }
  | .take => a

/-- The register of many occurrences. -/
def run (follows : Nat → Nat) (buffers dispatchers : Nat) (script : List Occurrence) : Register :=
  script.foldl (note follows buffers dispatchers) ⟨.empty, []⟩

theorem run_append_singleton (follows : Nat → Nat) (buffers dispatchers : Nat)
    (script : List Occurrence) (o : Occurrence) :
    run follows buffers dispatchers (script ++ [o]) =
      (run follows buffers dispatchers script).note follows buffers dispatchers o := by
  simp [run]

theorem note_deed {follows : Nat → Nat} {buffers dispatchers : Nat} {a : Register} {deed : Deed}
    (hnone : delivery? a.past deed = none) : a.note follows buffers dispatchers (.deed deed) =
      { a with past := a.past.note follows buffers dispatchers deed } := by
  rw [note, hnone, Option.toList_none, List.append_nil]

end Register

namespace Chronicle

theorem waiting?_eq_some_iff {past : Chronicle} {request origin : Nat} :
    past.waiting? request = some origin ↔
      past.origins[request]? = some origin ∧ request ∉ past.answered := by
  unfold waiting?
  split <;> simp_all

theorem waiting?_eq_none_iff {past : Chronicle} {request : Nat} :
    past.waiting? request = none ↔
      past.origins[request]? = none ∨ request ∈ past.answered := by
  unfold waiting?
  split <;> simp_all

theorem note_deliver (follows : Nat → Nat) (buffers dispatchers : Nat) (past : Chronicle)
    (request : Nat) (reply : Option Value) :
    past.note follows buffers dispatchers (.deliver request reply) =
      match past.waiting? request with
      | none => past
      | some origin => { past with
        answered := request :: past.answered
        writes := past.writes ++ written origin reply } := by
  rw [note, waiting?]
  by_cases hanswered : request ∈ past.answered <;> cases past.origins[request]? <;>
    simp [hanswered]

end Chronicle

/-! ## The queue agrees with the deliveries -/

/-- Whether a desk and the lists taken from its queue agree with the register of what has
    happened. -/
structure Balanced (buffers : List Buffer) (kinds : List String) (p : Presentation) (a : Register) :
    Prop where
  agrees : Agrees buffers (kinds.map (·, true)) p.desk a.past
  /-- Every request was made from a buffer. -/
  made : ∀ origin ∈ a.past.origins, origin < buffers.length
  /-- Whoever waits for a reply reports failures. -/
  reporting : ∀ q ∈ p.desk.host.outbox, ∀ i reports, q.waiter = some (.buffer i reports) →
    reports = true
  reported : p.reported = a.delivered.filterMap (·.failure? buffers)
  given : ∀ x ∈ a.delivered,
    a.past.origins[x.request]? = some x.origin ∧ x.request ∈ a.past.answered
  once : (a.delivered.map (·.request)).Nodup

namespace Balanced

variable {follows : Nat → Nat} {buffers : List Buffer} {kinds : List String} {p : Presentation}
  {a : Register}

theorem start (buffers : List Buffer) (kinds : List String) :
    Balanced buffers kinds (.start buffers kinds) ⟨.empty, []⟩ where
  agrees := Agrees.start buffers _
  made := by simp [Chronicle.empty]
  reporting := by simp [Presentation.start, Desk.start, Host.start]
  reported := rfl
  given := by simp
  once := List.nodup_nil

/-- The label of a buffer stays. -/
theorem label_eq (ha : Balanced buffers kinds p a) (i : Nat) :
    p.desk.host.buffers[i]?.map (·.label) = buffers[i]?.map (·.label) := by
  rw [ha.agrees.texts, List.getElem?_mapIdx, Option.map_map]
  rfl

/-! ### Replies -/

/-- The host once a request has been marked as answered. -/
def settled (d : Desk) (request : Nat) : Host :=
  { d.host with
    selection := d.selections 0
    outbox := d.host.outbox.modify request fun q => { q with waiter := none } }

theorem takePosted_eq (ha : Balanced buffers kinds p a) {request origin : Nat}
    (hwaits : a.past.waiting? request = some origin) :
    Host.takePosted { p.desk.host with selection := p.desk.selections 0 } request =
      .ok (.buffer origin true, settled p.desk request) := by
  obtain ⟨horigin, hopen⟩ := Chronicle.waiting?_eq_some_iff.1 hwaits
  obtain ⟨q, reports, hq, hwaiter, htake⟩ :=
    (ha.agrees.at_hand (p.desk.selections 0)).takePosted_waiting horigin hopen
  obtain rfl := ha.reporting q (List.mem_of_getElem? hq) origin reports hwaiter
  exact htake

/-- The desk after a command that is refused. -/
def refused (d : Desk) : Desk := { d with host := { d.host with selection := d.selections 0 } }

/-- What is asked of a request that does not wait is refused. -/
theorem obey_gone (ha : Balanced buffers kinds p a) {request : Nat}
    (hgone : a.past.waiting? request = none) {command : Command}
    (hrefuses : ∀ (h : Host) (reason : Refusal), h.takePosted request = .error reason →
      h.obey command = h.refuse reason) : (p.desk.obey 0 command).2 = refused p.desk := by
  obtain ⟨reason, htake⟩ := (ha.agrees.at_hand (p.desk.selections 0)).takePosted_refused
    (Chronicle.waiting?_eq_none_iff.1 hgone)
  have hobey : p.desk.obey 0 command = (.refused reason, refused p.desk) :=
    Agrees.obey_eq (by rw [hrefuses _ reason htake]; rfl) rfl
  exact congrArg Prod.snd hobey

theorem deliver_gone (ha : Balanced buffers kinds p a) (follows : Nat → Nat) {request : Nat}
    (hgone : a.past.waiting? request = none) (reply : Option Value) :
    p.desk.meet follows (.deliver request reply) = refused p.desk :=
  ha.obey_gone hgone fun h reason htake => by simp only [Deed.command, Host.obey, htake]

theorem forget_gone (ha : Balanced buffers kinds p a) {request : Nat}
    (hgone : a.past.waiting? request = none) :
    (p.desk.obey 0 (.forget request)).2 = refused p.desk :=
  ha.obey_gone hgone fun h reason htake => by simp only [Host.obey, htake]

theorem forget_waiting (ha : Balanced buffers kinds p a) {request origin : Nat}
    (hwaits : a.past.waiting? request = some origin) :
    (p.desk.obey 0 (.forget request)).2 = ⟨settled p.desk request, p.desk.selections⟩ := by
  have htake := ha.takePosted_eq hwaits
  have hobey : p.desk.obey 0 (.forget request) =
      (.nothing, ⟨settled p.desk request, p.desk.selections⟩) :=
    Agrees.obey_eq (by simp only [Host.obey, htake, Host.perform]) rfl
  exact congrArg Prod.snd hobey

/-- **What a reply does:** the buffer that the request was made from receives it, and its failure,
    if it is one, is reported. -/
theorem deliver_waiting (ha : Balanced buffers kinds p a) (follows : Nat → Nat)
    {request origin : Nat} (hwaits : a.past.waiting? request = some origin)
    (reply : Option Value) : p.desk.meet follows (.deliver request reply) =
      ⟨{ settled p.desk request with
          buffers := p.desk.host.buffers.mapIdx fun i b =>
            if origin = i then b.receive reply else b
          failures := p.desk.host.failures ++
            (Delivery.failure? buffers ⟨request, origin, reply⟩).toList },
        p.desk.selections⟩ := by
  have hobey : p.desk.meet follows (.deliver request reply) = _ :=
    congrArg Prod.snd (Agrees.obey_reply (ha.takePosted_eq hwaits) rfl reply)
  have htell : ((settled p.desk request).tell (.buffer origin true) reply).2.2 = _ :=
    (settled p.desk request).applyReply_eq origin true reply
  have hfailure : (settled p.desk request).failure? (.buffer origin true, reply) =
      Delivery.failure? buffers ⟨request, origin, reply⟩ := by
    have hlabel := congrArg (·.bind (Buffer.failure? · reply)) (ha.label_eq origin)
    exact hlabel.trans (Option.bind_map ..)
  rw [hobey, htell, hfailure]
  rfl

/-! ### Steps -/

/-- What is not waited for changes nothing. -/
theorem refuse (ha : Balanced buffers kinds p a) :
    Balanced buffers kinds { p with desk := refused p.desk } a :=
  { ha with agrees := ha.agrees.at_hand _ }

theorem reporting_settled (ha : Balanced buffers kinds p a) {request : Nat} :
    ∀ q ∈ (settled p.desk request).outbox, ∀ i reports, q.waiter = some (.buffer i reports) →
      reports = true := by
  intro q hq i reports hwaiter
  obtain ⟨k, hk⟩ := List.mem_iff_getElem?.1 hq
  simp only [settled, List.getElem?_modify] at hk
  obtain ⟨q', hq', rfl⟩ := Option.map_eq_some_iff.1 hk
  by_cases hsame : request = k
  · simp [hsame] at hwaiter
  · rw [if_neg hsame] at hwaiter
    exact ha.reporting q' (List.mem_of_getElem? hq') i reports hwaiter

/-- A request is marked as answered, but nobody is told. -/
theorem forget (ha : Balanced buffers kinds p a) (request : Nat) :
    Balanced buffers kinds { p with desk := (p.desk.obey 0 (.forget request)).2 }
      { a with past := a.past.forget request } := by
  rw [Chronicle.forget]
  cases hwaits : a.past.waiting? request with
  | none =>
    rw [ha.forget_gone hwaits]
    exact ha.refuse
  | some origin =>
    rw [ha.forget_waiting hwaits]
    obtain ⟨horigin, -⟩ := Chronicle.waiting?_eq_some_iff.1 hwaits
    have hissued : request < a.past.origins.length := (List.getElem?_eq_some_iff.1 horigin).1
    exact
      { ha with
        agrees := (ha.agrees.at_hand (p.desk.selections 0)).settle hissued
        reporting := ha.reporting_settled
        given := fun x hx => ⟨(ha.given x hx).1, List.mem_cons_of_mem _ (ha.given x hx).2⟩ }

/-- A reply is given to a request. -/
theorem deliver (ha : Balanced buffers kinds p a) (follows : Nat → Nat) (request : Nat)
    (reply : Option Value) :
    Balanced buffers kinds (p.meet follows (.deed (.deliver request reply)))
      (a.note follows buffers.length kinds.length (.deed (.deliver request reply))) := by
  have hagrees := ha.agrees.meet follows (.deliver request reply)
  rw [List.length_map] at hagrees
  rw [Register.note, Register.delivery?, Presentation.meet]
  cases hwaits : a.past.waiting? request with
  | none =>
    simp only [Chronicle.note_deliver, hwaits, ha.deliver_gone follows hwaits, Option.map_none,
      Option.toList_none, List.append_nil]
    exact ha.refuse
  | some origin =>
    obtain ⟨horigin, hopen⟩ := Chronicle.waiting?_eq_some_iff.1 hwaits
    simp only [Chronicle.note_deliver, hwaits, Option.map_some, Option.toList_some] at hagrees ⊢
    have hanswered : ∀ x ∈ a.delivered, x.request ∈ a.past.answered := fun x hx => (ha.given x hx).2
    refine
      { agrees := hagrees
        made := ha.made
        reporting := ?reporting
        reported := ?reported
        given := ?given
        once := ?once }
    case reporting =>
      rw [ha.deliver_waiting follows hwaits reply]
      exact ha.reporting_settled
    case reported =>
      rw [List.filterMap_append, ← ha.reported, ha.deliver_waiting follows hwaits reply]
      simp only [Presentation.reported, List.append_assoc, List.filterMap_cons, List.filterMap_nil]
      cases Delivery.failure? buffers ⟨request, origin, reply⟩ <;> rfl
    case given =>
      intro x hx
      rcases List.mem_append.1 hx with hx | hx
      · exact ⟨(ha.given x hx).1, List.mem_cons_of_mem _ (hanswered x hx)⟩
      · obtain rfl := List.mem_singleton.1 hx
        exact ⟨horigin, List.mem_cons_self ..⟩
    case once =>
      have hnew : request ∉ a.delivered.map (·.request) := by
        intro hmem
        obtain ⟨x, hx, rfl⟩ := List.mem_map.1 hmem
        exact hopen (hanswered x hx)
      rw [List.map_append]
      exact List.nodup_append.2 ⟨ha.once, by simp, by simpa using hnew⟩

/-- A deed by which nobody is told and no request is made. -/
theorem aside (ha : Balanced buffers kinds p a) {d : Desk} {past : Chronicle}
    (hagrees : Agrees buffers (kinds.map (·, true)) d past)
    (hhost : d.host.failures = p.desk.host.failures ∧ d.host.outbox = p.desk.host.outbox)
    (hpast : past.origins = a.past.origins ∧ past.answered = a.past.answered) :
    Balanced buffers kinds { p with desk := d } { a with past := past } where
  agrees := hagrees
  made := hpast.1 ▸ ha.made
  reporting := hhost.2 ▸ ha.reporting
  reported := by rw [← ha.reported, Presentation.reported, Presentation.reported, hhost.1]
  given := by
    simp only [hpast.1, hpast.2]
    exact ha.given
  once := ha.once

/-- Requests are made for selected buffers. -/
theorem post (ha : Balanced buffers kinds p a) (kind : String) {selected : List Nat}
    (hvalid : ∀ b ∈ selected, b < buffers.length) :
    Balanced buffers kinds
      { p with desk := ⟨p.desk.host.posting (selected.filterMap (p.desk.host.posting? kind true)),
        p.desk.selections⟩ }
      { a with past := { a.past with origins := a.past.origins ++ selected } } where
  agrees := ha.agrees.post kind true hvalid
  made := List.forall_mem_append.2 ⟨ha.made, hvalid⟩
  reporting := by
    intro q hq i reports hwaiter
    rcases List.mem_append.1 hq with hq | hq
    · exact ha.reporting q hq i reports hwaiter
    · obtain ⟨j, -, hj⟩ := List.mem_filterMap.1 hq
      obtain ⟨b, -, rfl⟩ := Option.map_eq_some_iff.1 hj
      simp only [Option.some.injEq, Waiter.buffer.injEq] at hwaiter
      exact hwaiter.2.symm
  reported := ha.reported
  given := by
    intro x hx
    obtain ⟨horigin, hanswered⟩ := ha.given x hx
    have hold : x.request < a.past.origins.length := (List.getElem?_eq_some_iff.1 horigin).1
    exact ⟨(List.getElem?_append_left hold).trans horigin, hanswered⟩
  once := ha.once

theorem format (ha : Balanced buffers kinds p a) (follows : Nat → Nat) (i : Nat) :
    Balanced buffers kinds { p with desk := p.desk.meet follows (.format i) }
      { a with past := a.past.note follows buffers.length kinds.length (.format i) } := by
  rw [Chronicle.note, Desk.meet, Deed.command, Deed.selection]
  cases hkind : kinds[i]? with
  | none =>
    have hheld := ha.agrees.held_outbox i
    rw [List.getElem?_map, hkind, Option.map_none, Option.map_none] at hheld
    have hobey : p.desk.obey (follows i) (.format i) = (.refused .noDispatcher,
        ⟨{ p.desk.host with selection := p.desk.selections (follows i) }, p.desk.selections⟩) :=
      Agrees.obey_eq (by simp only [Host.obey, Host.withHeld, hheld, Host.refuse, Host.answer]) rfl
    rw [if_neg (Nat.not_lt.2 (List.getElem?_eq_none_iff.1 hkind)), hobey]
    exact { ha with agrees := ha.agrees.at_hand _ }
  | some kind =>
    have hsender : (kinds.map (·, true))[i]? = some (kind, true) := by
      rw [List.getElem?_map, hkind, Option.map_some]
    rw [if_pos (List.getElem?_eq_some_iff.1 hkind).1, ha.agrees.obey_format follows hsender]
    have hposted := ha.post kind (ha.agrees.valid (follows i))
    exact { hposted with agrees := hposted.agrees.at_hand _ }

/-- All failures in the queue are taken. -/
theorem take (ha : Balanced buffers kinds p a) (follows : Nat → Nat) :
    Balanced buffers kinds (p.meet follows .take) a :=
  { ha with
    agrees := { ha.agrees with }
    reported := by
      obtain ⟨htaken, hleft⟩ := Presentation.meet_take follows p
      rw [← ha.reported, Presentation.reported, Presentation.reported, htaken, hleft]
      simp }

/-- **Every occurrence keeps the queue in agreement with the register.** -/
theorem meet (ha : Balanced buffers kinds p a) (follows : Nat → Nat) (o : Occurrence) :
    Balanced buffers kinds (p.meet follows o) (a.note follows buffers.length kinds.length o) := by
  cases o with
  | forget request => exact ha.forget request
  | take => exact ha.take follows
  | deed deed =>
    have hagrees := ha.agrees.meet follows deed
    rw [List.length_map] at hagrees
    cases deed with
    | deliver request reply => exact ha.deliver follows request reply
    | format i =>
      rw [Register.note_deed rfl]
      exact ha.format follows i
    | clear i =>
      rw [Register.note_deed rfl]
      exact ha.aside hagrees ⟨rfl, rfl⟩ ⟨rfl, rfl⟩
    | select i selected =>
      rw [Register.note_deed rfl]
      refine ha.aside hagrees ?_ ?_
      · simp only [Desk.meet, Deed.command, Desk.obey, Host.obey]
        split <;> exact ⟨rfl, rfl⟩
      · rw [Chronicle.note]
        split <;> exact ⟨rfl, rfl⟩
    | setText i text =>
      rw [Register.note_deed rfl]
      refine ha.aside hagrees ?_ ?_
      · simp only [Desk.meet, Deed.command, Desk.obey, Host.obey]
        split <;> exact ⟨rfl, rfl⟩
      · rw [Chronicle.note]
        split <;> exact ⟨rfl, rfl⟩

/-- **The queue agrees with the register of the whole script.** -/
theorem run (follows : Nat → Nat) (buffers : List Buffer) (kinds : List String)
    (script : List Occurrence) : Balanced buffers kinds (.run follows buffers kinds script)
      (.run follows buffers.length kinds.length script) := by
  induction script using List.reverseRecOn with
  | nil => exact start buffers kinds
  | append_singleton script o ih =>
    rw [Presentation.run_append_singleton, Register.run_append_singleton]
    exact ih.meet follows o

/-! ### One reply -/

theorem modify_eq_mapIdx {α : Type} (l : List α) (i : Nat) (f : α → α) :
    l.modify i f = l.mapIdx fun j b => if i = j then f b else b := by
  refine List.ext_getElem? fun j => ?_
  rw [List.getElem?_modify, List.getElem?_mapIdx]
  rfl

/-- What becomes of the buffers, the queue and the lists taken from it when a request is given a
    reply, or none. A request that does not wait for one leaves all as it is. Otherwise either the
    text of the buffer that the request was made from is set once, and nothing is reported, or no
    buffer is changed, and one failure is reported with the label of this buffer and the error. -/
theorem one_effect (ha : Balanced buffers kinds p a) (follows : Nat → Nat) (request : Nat)
    (reply : Option Value) :
    let now := p.meet follows (.deed (.deliver request reply))
    now.taken = p.taken ∧
    match a.past.waiting? request with
    | none =>
      now.desk.host.buffers = p.desk.host.buffers ∧ now.desk.host.failures = p.desk.host.failures
    | some origin => ∃ b, buffers[origin]? = some b ∧
      match classify reply with
      | .ok code =>
        now.desk.host.buffers = p.desk.host.buffers.modify origin (·.setText code) ∧
          now.desk.host.failures = p.desk.host.failures
      | .error error =>
        now.desk.host.buffers = p.desk.host.buffers ∧
          now.desk.host.failures = p.desk.host.failures ++ [⟨b.label, error⟩] := by
  intro now
  refine ⟨rfl, ?_⟩
  cases hwaits : a.past.waiting? request with
  | none =>
    have hnow : now.desk = refused p.desk := ha.deliver_gone follows hwaits reply
    rw [hnow]
    exact ⟨rfl, rfl⟩
  | some origin =>
    have hnow : now.desk = _ := ha.deliver_waiting follows hwaits reply
    have hmade : origin < buffers.length := ha.made origin
      (List.mem_of_getElem? (Chronicle.waiting?_eq_some_iff.1 hwaits).1)
    have hbuffer := List.getElem?_eq_getElem hmade
    refine ⟨buffers[origin], hbuffer, ?_⟩
    have hreceive (b : Buffer) : b.receive reply =
        match classify reply with | .ok code => b.setText code | .error _ => b := rfl
    have hfailure : Delivery.failure? buffers ⟨request, origin, reply⟩ =
        Buffer.failure? buffers[origin].label reply := by
      rw [Delivery.failure?, hbuffer, Option.bind_some]
    rw [hnow, hfailure, Buffer.failure?]
    simp only [hreceive]
    cases classify reply with
    | ok code => exact ⟨(modify_eq_mapIdx ..).symm, List.append_nil _⟩
    | error error => exact ⟨Host.mapIdx_eq_self fun _ _ _ => ite_self _, rfl⟩

end Balanced

/-- **Every reply has one effect, and every failure is reported once.** At any point of any script,
    a reply, or none, that is given to a request which waits for one either sets the text of the
    buffer that the request was made from, once, and reports nothing, or changes no buffer and
    reports one failure, with the label of this buffer and the error that classification gives; and
    a request that does not wait is told nothing. A take gives all that lies in the queue and leaves
    nothing there. All lists that were taken from the queue, and behind them what still lies in it,
    are the failures of the deliveries in their order. Each request is told at most once, and the
    buffer it was made from is the one that is noted. -/
theorem Presentation.reports_every_failure_once (follows : Nat → Nat) (buffers : List Buffer)
    (kinds : List String) (script : List Occurrence) :
    let p := Presentation.run follows buffers kinds script
    let a := Register.run follows buffers.length kinds.length script
    let shown := p.meet follows .take
    (∀ request reply,
      let now := p.meet follows (.deed (.deliver request reply))
      now.taken = p.taken ∧
      match a.past.waiting? request with
      | none =>
        now.desk.host.buffers = p.desk.host.buffers ∧
          now.desk.host.failures = p.desk.host.failures
      | some origin => ∃ b, buffers[origin]? = some b ∧
        match classify reply with
        | .ok code =>
          now.desk.host.buffers = p.desk.host.buffers.modify origin (·.setText code) ∧
            now.desk.host.failures = p.desk.host.failures
        | .error error =>
          now.desk.host.buffers = p.desk.host.buffers ∧
            now.desk.host.failures = p.desk.host.failures ++ [⟨b.label, error⟩]) ∧
    (shown.taken = p.taken ++ [p.desk.host.failures] ∧ shown.desk.host.failures = [] ∧
      shown.desk.host.buffers = p.desk.host.buffers) ∧
    p.taken.flatten ++ p.desk.host.failures =
      a.delivered.filterMap (fun x => buffers[x.origin]?.bind fun b =>
        match classify x.reply with
        | .ok _ => none
        | .error error => some ⟨b.label, error⟩) ∧
    (a.delivered.map (·.request)).Nodup ∧
    ∀ x ∈ a.delivered, a.past.origins[x.request]? = some x.origin := by
  intro p a shown
  have ha : Balanced buffers kinds p a := .run follows buffers kinds script
  obtain ⟨htaken, hleft⟩ := Presentation.meet_take follows p
  exact ⟨ha.one_effect follows, ⟨htaken, hleft, rfl⟩, ha.reported, ha.once,
    fun x hx => (ha.given x hx).1⟩

end FormatBridge
