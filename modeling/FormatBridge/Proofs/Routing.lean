import FormatBridge.Proofs.Traffic
import Mathlib.Data.List.Induction
import Mathlib.Data.List.Nodup

set_option autoImplicit false

/-! # Every request that is taken up is told exactly once

While a connection runs, a request that was taken up waits until a message is read that names its
id; then its waiter is told that message, and once the connection has ended whoever waited is told
that there is no reply. The invariant `Ledger` says this about a connection and its history; every
move keeps it (`Ledger.make`), and so does all that happens outside. -/

namespace FormatBridge

variable {κ : Type}

namespace Connection

/-! ## What the invariant looks at -/

/-- Whether requests are taken up and replies are read. -/
def isRunning (c : Connection κ) : Bool :=
  match c.phase with
  | .running => true
  | .draining | .ended _ | .aborted => false

/-- Whether a request that was taken up still waits for its reply. -/
def awaits (c : Connection κ) (h : History κ) (r : Taken κ) : Bool :=
  c.isRunning && (h.answer? r).isNone

theorem isRunning_iff {c : Connection κ} : c.isRunning = true ↔ c.phase = .running := by
  unfold isRunning
  cases c.phase <;> simp

theorem isClosed_of_running {c : Connection κ} (h : c.phase = .running) : c.isClosed = false := by
  simp [isClosed, h]

theorem awaits_of_not_running {c : Connection κ} (h : c.isRunning = false) (t : History κ)
    (r : Taken κ) : c.awaits t r = false := by
  simp [awaits, h]

@[simp]
theorem replies_conclude (c : Connection κ) (result : Except TransportError Unit) :
    Effect.replies (c.conclude result).1 = [] := by
  simp [conclude, Effect.replies]

/-- **Leaving tells everyone who waits that there is no reply.** -/
theorem leave_spec (c : Connection κ) (result : Except TransportError Unit) :
    let m := c.leave result
    m.2.ids = c.ids ∧ m.2.inFlight = [] ∧ m.2.isRunning = false ∧
      (m.2.isClosed = false → m.2.queue = c.queue) ∧
      Effect.replies m.1 = c.inFlight.map fun p => (p.2, none) := by
  have htold : Effect.replies c.abandon.1 = c.inFlight.map fun p => (p.2, none) := by
    unfold abandon
    split
    · rename_i h
      simp [Effect.replies, List.isEmpty_iff.1 h]
    · simp [Effect.replies, List.filterMap_map]
  have hempty : c.abandon.2 = { c with inFlight := [] } := by
    unfold abandon
    split
    · rename_i h
      rw [← List.isEmpty_iff.1 h]
    · rfl
  unfold leave
  simp only [hempty]
  cases result with
  | ok u =>
    dsimp only
    split
    · exact ⟨rfl, rfl, rfl, fun _ => rfl, htold⟩
    · refine ⟨rfl, rfl, rfl, ?_, ?_⟩
      · intro h
        simp [conclude, isClosed] at h
      · simp [Effect.replies, conclude] at htold ⊢
        exact htold
  | error e =>
    refine ⟨rfl, rfl, rfl, ?_, ?_⟩
    · intro h
      simp [conclude, isClosed] at h
    · simp [Effect.replies, conclude] at htold ⊢
      exact htold

end Connection

/-! ## The invariant -/

/-- What holds between a connection of a session and its history. -/
structure Ledger (session : String) (c : Connection κ) (h : History κ) : Prop where
  source : c.ids = ⟨session, ⟨h.taken.length⟩⟩
  numbered : h.taken.map (·.id) = (List.range h.taken.length).map (requestId session)
  since_le : ∀ r ∈ h.taken, r.since ≤ h.messages.length
  accepted : h.taken.map (·.request) <+: h.accepted
  queued : c.isClosed = false → h.taken.map (·.request) ++ c.queue = h.accepted
  writing : c.isRunning = true → c.writing = true ∧ c.writer.closed = false
  inFlight : c.inFlight = (h.taken.filter (c.awaits h)).map fun r => (r.id, r.request.waiter)
  told : h.replies.Perm ((h.taken.filter (!c.awaits h ·)).map fun r =>
    (r.request.waiter, (h.answer? r).map Message.toValue))

namespace Ledger

variable {session : String} {c c' : Connection κ} {h h' : History κ}

theorem start (session : String) (outlet : Outlet) :
    Ledger session (.start session outlet : Connection κ) .empty := by
  constructor <;> simp [Connection.start, History.empty, IdSource.ofSession, History.replies,
    Effect.replies, Writer.empty]

/-- The ids of the requests that were taken up differ. -/
theorem nodup_ids (hl : Ledger session c h) : (h.taken.map (·.id)).Nodup := by
  rw [hl.numbered]
  exact List.Nodup.map (fun _ _ => requestId_inj.1) List.nodup_range

/-- A request's id tells how many were taken up before it. -/
theorem id_eq (hl : Ledger session c h) {k : Nat} {r : Taken κ} (hr : h.taken[k]? = some r) :
    r.id = requestId session k := by
  have hids := congrArg (·[k]?) hl.numbered
  simp only [List.getElem?_map, hr, Option.map_some] at hids
  rw [List.getElem?_range (List.getElem?_eq_some_iff.1 hr).1, Option.map_some] at hids
  exact Option.some.inj hids

theorem fresh (hl : Ledger session c h) :
    ∀ r ∈ h.taken, r.id ≠ requestId session h.taken.length := by
  intro r hr hid
  have hmem : r.id ∈ (List.range h.taken.length).map (requestId session) :=
    hl.numbered ▸ List.mem_map_of_mem hr
  obtain ⟨n, hn, heq⟩ := List.mem_map.1 hmem
  rw [hid, requestId_inj] at heq
  rw [heq] at hn
  simp at hn

/-- Requests whose answers stay as they are and that go on waiting, or not, are told the same. -/
theorem told_congr {l : List (Taken κ)} (hawaits : ∀ r ∈ l, c'.awaits h' r = c.awaits h r)
    (hanswer : ∀ r ∈ l, h'.answer? r = h.answer? r) :
    ((l.filter (!c'.awaits h' ·)).map fun r =>
        (r.request.waiter, (h'.answer? r).map Message.toValue)) =
      (l.filter (!c.awaits h ·)).map fun r =>
        (r.request.waiter, (h.answer? r).map Message.toValue) := by
  rw [List.filter_congr fun r hr => congrArg (!·) (hawaits r hr)]
  exact List.map_congr_left fun r hr => by rw [hanswer r (List.mem_filter.1 hr).1]

/-- Requests under other ids go on waiting, or not, when the waiter under one id is taken out. -/
theorem inFlight_congr {l : List (Taken κ)} {id : String}
    (hawaits : ∀ r ∈ l, c'.awaits h' r = c.awaits h r) (hothers : ∀ r ∈ l, r.id ≠ id) :
    ((l.filter (c.awaits h)).map fun r => (r.id, r.request.waiter)).filter (·.1 ≠ id) =
      (l.filter (c'.awaits h')).map fun r => (r.id, r.request.waiter) := by
  rw [List.filter_congr hawaits, List.filter_eq_self]
  intro p hp
  obtain ⟨r, hr, rfl⟩ := List.mem_map.1 hp
  exact decide_eq_true (hothers r (List.mem_filter.1 hr).1)

/-- What tells nobody anything, takes nothing up and changes no answer keeps the invariant. -/
theorem of_same (hl : Ledger session c h) (htaken : h'.taken = h.taken)
    (haccepted : h'.accepted = h.accepted) (hlen : h.messages.length ≤ h'.messages.length)
    (hanswer : ∀ r ∈ h.taken, h'.answer? r = h.answer? r) (hreplies : h'.replies = h.replies)
    (hids : c'.ids = c.ids) (hflight : c'.inFlight = c.inFlight) (hrun : c'.isRunning = c.isRunning)
    (hqueue : c'.isClosed = false → c.isClosed = false ∧ c'.queue = c.queue)
    (hwriting : c'.isRunning = true → c'.writing = true ∧ c'.writer.closed = false) :
    Ledger session c' h' := by
  have hawaits : ∀ r ∈ h.taken, c'.awaits h' r = c.awaits h r := by
    intro r hr
    rw [Connection.awaits, Connection.awaits, hrun, hanswer r hr]
  have hfilter : h.taken.filter (c'.awaits h') = h.taken.filter (c.awaits h) :=
    List.filter_congr hawaits
  exact
    { source := by rw [hids, htaken]; exact hl.source
      numbered := by rw [htaken]; exact hl.numbered
      since_le := by
        rw [htaken]
        exact fun r hr => Nat.le_trans (hl.since_le r hr) hlen
      accepted := by rw [htaken, haccepted]; exact hl.accepted
      queued := by
        intro hc
        obtain ⟨hopen, heq⟩ := hqueue hc
        rw [heq, htaken, haccepted]
        exact hl.queued hopen
      writing := hwriting
      inFlight := by rw [hflight, htaken, hfilter]; exact hl.inFlight
      told := by
        rw [hreplies, htaken, told_congr hawaits hanswer]
        exact hl.told }

/-- Leaving keeps the invariant. -/
theorem leave (hl : Ledger session c h) (hrun : c.phase = .running) {d : Connection κ}
    (hids : d.ids = c.ids) (hflight : d.inFlight = c.inFlight) (hqueue : d.queue = c.queue)
    (result : Except TransportError Unit) :
    Ledger session (d.leave result).2 (h.did (d.leave result).1) := by
  obtain ⟨hlids, hlflight, hlrun, hlqueue, hlreplies⟩ := d.leave_spec result
  have hnone (t : History κ) : (d.leave result).2.awaits t = fun _ => false :=
    funext (Connection.awaits_of_not_running hlrun t)
  have hrun' : c.isRunning = true := Connection.isRunning_iff.2 hrun
  exact
    { source := by rw [hlids, hids]; exact hl.source
      numbered := hl.numbered
      since_le := hl.since_le
      accepted := hl.accepted
      queued := by
        intro hc
        rw [hlqueue hc, hqueue]
        exact hl.queued (Connection.isClosed_of_running hrun)
      writing := by
        intro hc
        rw [hlrun] at hc
        contradiction
      inFlight := by rw [hlflight, hnone]; simp
      told := by
        -- whoever waited is told `none`, which is what the history says about their answers
        have hmissed : c.inFlight.map (fun p => (p.2, (none : Option Json.Value))) =
            (h.taken.filter (c.awaits h)).map fun r =>
              (r.request.waiter, (h.answer? r).map Message.toValue) := by
          rw [hl.inFlight, List.map_map]
          refine List.map_congr_left ?_
          intro r hr
          have hr := (List.mem_filter.1 hr).2
          simp only [Connection.awaits, hrun', Bool.true_and, Option.isNone_iff_eq_none] at hr
          simp [hr]
        rw [History.replies_did, hlreplies, hflight, hmissed, hnone]
        simp only [Bool.not_false, List.filter_true]
        refine (hl.told.append_right _).trans ?_
        rw [← List.map_append]
        refine List.Perm.map _ (List.perm_append_comm.trans ?_)
        exact List.filter_append_perm .. }

/-- The request that is taken up next: nobody waits under its id yet. -/
theorem inFlight_fresh (hl : Ledger session c h) :
    ∀ p ∈ c.inFlight, p.1 ≠ requestId session h.taken.length := by
  intro p hp
  rw [hl.inFlight] at hp
  obtain ⟨r, hr, rfl⟩ := List.mem_map.1 hp
  exact hl.fresh r (List.mem_filter.1 hr).1

theorem register_fresh (hl : Ledger session c h) (waiter : κ) (d : Connection κ)
    (hd : d.inFlight = c.inFlight) :
    d.register (requestId session h.taken.length) waiter =
      ([], { d with inFlight := c.inFlight ++ [(requestId session h.taken.length, waiter)] }) := by
  have hfresh := hl.inFlight_fresh
  have hnone : c.inFlight.filter (·.1 = requestId session h.taken.length) = [] :=
    List.filter_eq_nil_iff.2 fun p hp => by simpa using hfresh p hp
  have hall : c.inFlight.filter (·.1 ≠ requestId session h.taken.length) = c.inFlight :=
    List.filter_eq_self.2 fun p hp => by simpa using hfresh p hp
  simp only [Connection.register, hd, hnone, hall, List.map_nil]

/-- Taking a request up: it gets the next id, its line is handed to the writer, and its waiter is
    registered. -/
theorem take_eq (hl : Ledger session c h) (hrun : c.phase = .running) (s : Submission κ)
    (rest : List (Submission κ)) :
    let id := requestId session h.taken.length
    c.take s rest = ([.log (.requestQueued id s.kind)], { c with
      ids := ⟨session, ⟨(h.taken.length + 1) % Counter.size⟩⟩
      queue := rest
      writer := c.writer.push (Message.request id s.kind session s.payload).line
      inFlight := c.inFlight ++ [(id, s.waiter)] }) := by
  intro id
  have hwriting := (hl.writing (Connection.isRunning_iff.2 hrun)).1
  unfold Connection.take
  simp only [hl.source, IdSource.take, Counter.take, hwriting, if_true]
  rw [hl.register_fresh]
  rfl

theorem take (hl : Ledger session c h) (hrun : c.phase = .running) {s : Submission κ}
    {rest : List (Submission κ)} (hqueue : c.queue = s :: rest)
    (hfew : h.accepted.length < Counter.size) :
    Ledger session (c.make (.take s rest)).2 (h.after c (.take s rest)) := by
  have hrun' : c.isRunning = true := Connection.isRunning_iff.2 hrun
  have hqueued := hl.queued (Connection.isClosed_of_running hrun)
  have hid : c.ids.take.1 = requestId session h.taken.length := by rw [hl.source]; rfl
  have hlt : h.taken.length + 1 < Counter.size := by
    have hlen := congrArg List.length hqueued
    simp only [List.length_append, List.length_map, hqueue, List.length_cons] at hlen
    omega
  have hreplies : (h.after c (.take s rest)).replies = h.replies := by
    simp [History.replies_after, Connection.make, hl.take_eq hrun s rest, Effect.replies]
  have hawaits : (c.make (.take s rest)).2.awaits (h.after c (.take s rest)) = c.awaits h := by
    funext r
    simp [Connection.awaits, Connection.make, hl.take_eq hrun s rest, Connection.isRunning,
      History.after, History.answer?, History.did]
  have hanswer : (h.after c (.take s rest)).answer? = h.answer? := rfl
  have hnew : c.awaits h ⟨requestId session h.taken.length, s, h.messages.length⟩ = true := by
    simp [Connection.awaits, hrun', History.answer?]
  have htaken : (h.after c (.take s rest)).taken =
      h.taken ++ [⟨requestId session h.taken.length, s, h.messages.length⟩] := by
    simp [History.after, hid]
  have hmade : (c.make (.take s rest)).2 = (c.take s rest).2 := rfl
  rw [hl.take_eq hrun s rest] at hmade
  exact
    { source := by
        rw [hmade, htaken]
        simp [Nat.mod_eq_of_lt hlt]
      numbered := by
        rw [htaken]
        simp [hl.numbered, List.range_succ]
      since_le := by
        rw [htaken]
        intro r hr
        rcases List.mem_append.1 hr with hr | hr
        · exact hl.since_le r hr
        · rw [List.mem_singleton.1 hr]
          exact Nat.le_refl _
      accepted := by
        rw [htaken]
        refine ⟨rest, ?_⟩
        rw [hqueue] at hqueued
        simpa [History.after, History.did] using hqueued
      queued := by
        intro _
        rw [hqueue] at hqueued
        rw [htaken, hmade]
        simpa [History.after, History.did] using hqueued
      writing := by
        intro _
        rw [hmade]
        simpa [Writer.push] using hl.writing hrun'
      inFlight := by
        rw [hawaits, htaken, List.filter_append, List.map_append, ← hl.inFlight, hmade]
        simp [hnew]
      told := by
        rw [hawaits, hreplies, hanswer, htaken, List.filter_append, List.map_append]
        simpa [hnew] using hl.told }

/-! ### Reading a message -/

theorem answer?_read (h : History κ) (c : Connection κ) (m : Message) (reader : LineReader)
    {r : Taken κ} (hr : r.since ≤ h.messages.length) :
    (h.after c (.read (.message m) reader)).answer? r =
      (h.answer? r).or (if m.answers? = some r.id then some m else none) := by
  simp only [History.after, History.answer?]
  rw [List.drop_append_of_le_length hr, List.find?_append]
  by_cases hm : m.answers? = some r.id <;> simp [hm]

/-- A message that answers nobody who waits changes nothing. -/
theorem read_other (hl : Ledger session c h) (hrun : c.phase = .running) {m : Message}
    {reader : LineReader}
    (hother : ∀ r ∈ h.taken, m.answers? = some r.id → (h.answer? r).isSome = true)
    (hmade : (c.make (.read (.message m) reader)).2 = { c with reader := reader })
    (hreplies : Effect.replies (c.make (.read (.message m) reader)).1 = []) :
    Ledger session (c.make (.read (.message m) reader)).2
      (h.after c (.read (.message m) reader)) := by
  rw [hmade]
  refine hl.of_same rfl rfl (by simp [History.after]) ?_ ?_ rfl rfl rfl (fun hc => ⟨hc, rfl⟩)
    (fun _ => hl.writing (Connection.isRunning_iff.2 hrun))
  · intro r hr
    rw [answer?_read h c m reader (hl.since_le r hr)]
    by_cases hm : m.answers? = some r.id
    · obtain ⟨first, hfirst⟩ := Option.isSome_iff_exists.1 (hother r hr hm)
      rw [hfirst, Option.some_or]
    · rw [if_neg hm, Option.or_none]
  · rw [History.replies_after, hreplies, List.append_nil]

/-- A request that waits is the only one with its id. -/
theorem split_at (hl : Ledger session c h) {id : String} {waiter : κ}
    (hmem : (id, waiter) ∈ c.inFlight) : ∃ front r back, h.taken = front ++ r :: back ∧
      r.id = id ∧ r.request.waiter = waiter ∧ c.awaits h r = true ∧
      ∀ other ∈ front ++ back, other.id ≠ id := by
  rw [hl.inFlight] at hmem
  obtain ⟨r, hr, heq⟩ := List.mem_map.1 hmem
  obtain ⟨hid, hwaiter⟩ := Prod.mk.inj heq
  obtain ⟨htaken, hawaits⟩ := List.mem_filter.1 hr
  obtain ⟨front, back, hsplit⟩ := List.append_of_mem htaken
  refine ⟨front, r, back, hsplit, hid, hwaiter, hawaits, ?_⟩
  have hnodup := hl.nodup_ids
  rw [hsplit, List.map_append, List.map_cons, List.nodup_middle] at hnodup
  intro other hother hsame
  refine (List.nodup_cons.1 hnodup).1 ?_
  rw [← List.map_append, hid, ← hsame]
  exact List.mem_map_of_mem hother

/-- **A message that answers a request that waits is given to its waiter**, and the request waits no
    longer. -/
theorem read_answer (hl : Ledger session c h) (hrun : c.phase = .running) {m : Message} {id : String}
    {waiter : κ} {reader : LineReader} (hm : m.answers? = some id)
    (hmem : (id, waiter) ∈ c.inFlight)
    (hmade : c.make (.read (.message m) reader) =
      ([.log (.replyReceived id), .reply waiter (some m.toValue)],
        { c with reader := reader, inFlight := c.inFlight.filter (·.1 ≠ id) })) :
    Ledger session (c.make (.read (.message m) reader)).2
      (h.after c (.read (.message m) reader)) := by
  obtain ⟨front, r, back, hsplit, hid, hwaiter, hawaits, hothers⟩ := hl.split_at hmem
  have hrun' : c.isRunning = true := Connection.isRunning_iff.2 hrun
  have hnone : h.answer? r = none := by simpa [Connection.awaits, hrun'] using hawaits
  have hsince : ∀ other ∈ h.taken, other.since ≤ h.messages.length := hl.since_le
  generalize hh : h.after c (.read (.message m) reader) = h'
  generalize hc : (c.make (.read (.message m) reader)).2 = c'
  have hanswer : ∀ other ∈ front ++ back, h'.answer? other = h.answer? other := by
    intro other hother
    have htaken : other ∈ h.taken := by
      rw [hsplit]
      rcases List.mem_append.1 hother with hother | hother
      · exact List.mem_append_left _ hother
      · exact List.mem_append_right _ (List.mem_cons_of_mem _ hother)
    rw [← hh, answer?_read h c m reader (hsince other htaken), hm, if_neg, Option.or_none]
    exact fun he => hothers other hother (Option.some.inj he).symm
  have hfirst : h'.answer? r = some m := by
    rw [← hh, answer?_read h c m reader (hsince r (by simp [hsplit])), hnone, hm, hid, if_pos rfl,
      Option.none_or]
  have hrunning : c'.isRunning = c.isRunning := by
    rw [← hc, hmade]
    rfl
  have hstill : ∀ other ∈ front ++ back, c'.awaits h' other = c.awaits h other := by
    intro other hother
    rw [Connection.awaits, Connection.awaits, hrunning, hanswer other hother]
  have hdone : c'.awaits h' r = false := by simp [Connection.awaits, hfirst]
  have hwaiting (l : List (Taken κ)) (hl : l ⊆ front ++ back) :=
    inFlight_congr (fun other hother => hstill other (hl hother))
      (fun other hother => hothers other (hl hother))
  have hsettled (l : List (Taken κ)) (hl : l ⊆ front ++ back) :=
    told_congr (fun other hother => hstill other (hl hother))
      (fun other hother => hanswer other (hl hother))
  have htaken : h'.taken = front ++ r :: back := by rw [← hh]; exact hsplit
  have hreplies : h'.replies = h.replies ++ [(waiter, some m.toValue)] := by
    rw [← hh, History.replies_after, hmade]
    rfl
  exact
    { source := by
        rw [← hc, hmade, htaken, ← hsplit]
        exact hl.source
      numbered := by
        rw [htaken, ← hsplit]
        exact hl.numbered
      since_le := by
        rw [htaken, ← hsplit, ← hh]
        intro other hother
        exact Nat.le_trans (hsince other hother) (by simp [History.after])
      accepted := by
        rw [htaken, ← hsplit, ← hh]
        exact hl.accepted
      queued := by
        intro _
        rw [htaken, ← hsplit, ← hh, ← hc, hmade]
        exact hl.queued (Connection.isClosed_of_running hrun)
      writing := by
        intro _
        rw [← hc, hmade]
        exact hl.writing hrun'
      inFlight := by
        have hflight : c'.inFlight = c.inFlight.filter (·.1 ≠ id) := by rw [← hc, hmade]
        rw [hflight, hl.inFlight, hsplit, htaken]
        simp only [List.filter_append, List.filter_cons, hawaits, hdone, if_true, Bool.false_eq_true,
          if_false, List.map_append, List.map_cons, hid]
        rw [hwaiting front (List.subset_append_left ..), hwaiting back (List.subset_append_right ..)]
        simp
      told := by
        have hold := hl.told
        rw [hsplit] at hold
        rw [hreplies, htaken]
        simp only [List.filter_append, List.filter_cons, hawaits, hdone, Bool.not_true,
          Bool.not_false, Bool.false_eq_true, if_true, if_false, List.map_append, List.map_cons,
          hfirst, hwaiter, Option.map_some] at hold ⊢
        rw [hsettled front (List.subset_append_left ..), hsettled back (List.subset_append_right ..)]
        refine (hold.append_right _).trans ?_
        rw [List.append_assoc]
        exact (List.perm_append_singleton _ _).append_left _ }

theorem read (hl : Ledger session c h) (hrun : c.phase = .running) (m : Message)
    (reader : LineReader) :
    Ledger session (c.make (.read (.message m) reader)).2
      (h.after c (.read (.message m) reader)) := by
  have hrun' : c.isRunning = true := Connection.isRunning_iff.2 hrun
  cases hm : m.answers? with
  | none =>
    have hmade : c.make (.read (.message m) reader) =
        ([.log .messageIgnored], { c with reader := reader }) := by
      simp [Connection.make, Connection.afterRead, Connection.route, hm]
    refine hl.read_other hrun ?_ (by rw [hmade]) (by rw [hmade]; rfl)
    intro r _ hr
    rw [hm] at hr
    contradiction
  | some id =>
    cases hlookup : c.inFlight.lookup id with
    | some waiter =>
      have hmade : c.make (.read (.message m) reader) =
          ([.log (.replyReceived id), .reply waiter (some m.toValue)],
            { c with reader := reader, inFlight := c.inFlight.filter (·.1 ≠ id) }) := by
        simp [Connection.make, Connection.afterRead, Connection.route, hm, hlookup]
      obtain ⟨front, back, hsplit, -⟩ := List.lookup_eq_some_iff.1 hlookup
      exact hl.read_answer hrun hm (by simp [hsplit]) hmade
    | none =>
      have hmade : c.make (.read (.message m) reader) =
          ([.log (.replyUnmatched id)], { c with reader := reader }) := by
        simp [Connection.make, Connection.afterRead, Connection.route, hm, hlookup]
      refine hl.read_other hrun ?_ (by rw [hmade]) (by rw [hmade]; rfl)
      intro r hr hid
      -- were it not answered yet, it would be in flight
      by_contra hnone
      have hawaits : c.awaits h r = true := by
        simp only [Connection.awaits, hrun', Bool.true_and]
        simpa using hnone
      have hmem : (r.id, r.request.waiter) ∈ c.inFlight := by
        rw [hl.inFlight]
        exact List.mem_map_of_mem (List.mem_filter.2 ⟨hr, hawaits⟩)
      rw [hm] at hid
      rw [Option.some.inj hid] at hlookup
      have hne := List.lookup_eq_none_iff.1 hlookup _ hmem
      simp at hne

/-! ### Every move -/

theorem write (hl : Ledger session c h) (hrun : c.phase = .running) {step : Writer.Step}
    {writer : Writer} {outlet : Outlet} (hstep : c.writer.step c.outlet = some (step, writer, outlet)) :
    Ledger session (c.make (.write step writer outlet)).2
      (h.after c (.write step writer outlet)) := by
  obtain ⟨hwriting, hclosed⟩ := hl.writing (Connection.isRunning_iff.2 hrun)
  cases step with
  | wrote bytes =>
    refine hl.of_same rfl rfl (Nat.le_refl _) (fun _ _ => rfl) ?_ rfl rfl rfl
      (fun hc => ⟨hc, rfl⟩) (fun _ => ⟨hwriting, ?_⟩)
    · simp [History.replies_after, Connection.make, Connection.afterWrite, Effect.replies]
    · rw [← hclosed]
      exact Writer.closed_step hstep
  | finished =>
    -- the writer cannot end while more may be handed to it
    exact absurd (Writer.closed_of_finished hstep) (by simp [hclosed])
  | failed error =>
    exact hl.leave (d := { c with writer := writer, outlet := outlet, writing := false }) hrun rfl
      rfl rfl (.error (.io error))

theorem drain (hl : Ledger session c h) (hdrain : c.phase = .draining) (step : Writer.Step)
    (writer : Writer) (outlet : Outlet) :
    Ledger session (c.make (.drain step writer outlet)).2
      (h.after c (.drain step writer outlet)) := by
  have hrun : c.isRunning = false := by simp [Connection.isRunning, hdrain]
  have hopen : c.isClosed = false := by simp [Connection.isClosed, hdrain]
  have hreplies : Effect.replies (c.make (.drain step writer outlet)).1 = [] := by
    cases step <;> simp [Connection.make, Connection.afterDrain, Connection.conclude, Effect.replies]
  refine hl.of_same rfl rfl (Nat.le_refl _) (fun _ _ => rfl) ?_ ?_ ?_ ?_ ?_ ?_
  · rw [History.replies_after, hreplies, List.append_nil]
  · cases step <;> rfl
  · cases step <;> rfl
  · rw [hrun]
    cases step <;> simp [Connection.make, Connection.afterDrain, Connection.conclude,
      Connection.isRunning, hdrain]
  · intro hc
    refine ⟨hopen, ?_⟩
    cases step with
    | wrote bytes => rfl
    | finished => simp [Connection.make, Connection.afterDrain, Connection.conclude,
        Connection.isClosed] at hc
    | failed error => simp [Connection.make, Connection.afterDrain, Connection.conclude,
        Connection.isClosed] at hc
  · intro hc
    cases step <;> simp [Connection.make, Connection.afterDrain, Connection.conclude,
      Connection.isRunning, hdrain] at hc

/-- **Every move keeps the invariant.** -/
theorem make (hl : Ledger session c h) {m : Move κ} (hm : c.next? = some m)
    (hfew : h.accepted.length < Counter.size) :
    Ledger session (c.make m).2 (h.after c m) := by
  cases Connection.chosen_of_next hm with
  | stop hrun hsealed hquiet => exact hl.leave hrun rfl rfl rfl _
  | take hrun haccepting hqueue => exact hl.take hrun hqueue hfew
  | close hrun haccepting hqueue halone =>
    refine hl.of_same rfl rfl (Nat.le_refl _) (fun _ _ => rfl) ?_ rfl rfl rfl
      (fun hc => ⟨hc, rfl⟩) hl.writing
    simp [History.replies_after, Connection.make, Effect.replies]
  | write hrun hbusy hsettled hwriting hstep => exact hl.write hrun hstep
  | @read reading reader hrun hbusy hsettled hidle hstep =>
    have hsame (c' : Connection κ) (hc' : c' = { c with reader := reader })
        (effects : List (Effect κ)) (heffects : Effect.replies effects = []) :
        Ledger session c' (h.did effects) := by
      subst hc'
      exact hl.of_same rfl rfl (Nat.le_refl _) (fun _ _ => rfl)
        (by rw [History.replies_did, heffects, List.append_nil]) rfl rfl rfl (fun hc => ⟨hc, rfl⟩)
        hl.writing
    cases reading with
    | nothing => exact hsame _ rfl _ rfl
    | message m => exact hl.read hrun m reader
    | undecodable => exact hsame _ rfl _ rfl
    | failed error =>
      exact hl.leave (d := { c with reader := reader }) hrun rfl rfl rfl (.error (.io error))
    | ended => exact hl.leave (d := { c with reader := reader }) hrun rfl rfl rfl _
  | drain hdrain hstep => exact hl.drain hdrain _ _ _

/-! ### What happens outside -/

theorem peer (hl : Ledger session c h) (e : PeerEvent) : Ledger session (c.meet e) h := by
  cases e <;>
    exact hl.of_same rfl rfl (Nat.le_refl _) (fun _ _ => rfl) rfl rfl rfl rfl (fun hc => ⟨hc, rfl⟩)
      hl.writing

theorem disconnect (hl : Ledger session c h) : Ledger session c.disconnect h :=
  hl.of_same rfl rfl (Nat.le_refl _) (fun _ _ => rfl) rfl rfl rfl rfl (fun hc => ⟨hc, rfl⟩) hl.writing

/-- A request is accepted. -/
theorem accept (hl : Ledger session c h) (hopen : c.isClosed = false) (s : Submission κ) :
    Ledger session { c with queue := c.queue ++ [s] } { h with accepted := h.accepted ++ [s] } :=
  { source := hl.source
    numbered := hl.numbered
    since_le := hl.since_le
    accepted := hl.accepted.trans (List.prefix_append ..)
    queued := by
      intro _
      simp only
      rw [← List.append_assoc, hl.queued hopen]
    writing := hl.writing
    inFlight := hl.inFlight
    told := hl.told }

/-! ### What it says about one request -/

theorem mem_inFlight (hl : Ledger session c h) {r : Taken κ} (hr : r ∈ h.taken)
    (hawaits : c.awaits h r = true) : (r.id, r.request.waiter) ∈ c.inFlight := by
  rw [hl.inFlight]
  exact List.mem_map_of_mem (List.mem_filter.2 ⟨hr, hawaits⟩)

theorem nodup_inFlight (hl : Ledger session c h) : (c.inFlight.map (·.1)).Nodup := by
  rw [hl.inFlight, List.map_map]
  exact hl.nodup_ids.sublist (List.filter_sublist.map _)

theorem lookup_inFlight (hl : Ledger session c h) {r : Taken κ} (hr : r ∈ h.taken)
    (hawaits : c.awaits h r = true) : c.inFlight.lookup r.id = some r.request.waiter := by
  obtain ⟨front, back, hsplit⟩ := List.append_of_mem (hl.mem_inFlight hr hawaits)
  rw [List.lookup_eq_some_iff]
  refine ⟨front, back, hsplit, ?_⟩
  intro p hp
  have hnodup := hl.nodup_inFlight
  rw [hsplit, List.map_append, List.map_cons, List.nodup_middle, List.nodup_cons] at hnodup
  simp only [bne_iff_ne]
  intro hsame
  have hmem : p.1 ∈ front.map (·.1) := List.mem_map_of_mem hp
  rw [← hsame] at hmem
  exact hnodup.1 (List.mem_append_left _ hmem)

/-- A request is told nothing while it waits, and then once. -/
theorem told_eq [DecidableEq κ] (hl : Ledger session c h)
    (hown : (h.taken.map (·.request.waiter)).Nodup) {r : Taken κ} (hr : r ∈ h.taken) :
    h.told r.request.waiter =
      if c.awaits h r then [] else [(h.answer? r).map Message.toValue] := by
  obtain ⟨front, back, hsplit⟩ := List.append_of_mem hr
  have hothers : ∀ other ∈ front ++ back, other.request.waiter ≠ r.request.waiter := by
    rw [hsplit, List.map_append, List.map_cons, List.nodup_middle, List.nodup_cons] at hown
    intro other hother hsame
    refine hown.1 ?_
    rw [← List.map_append, ← hsame]
    exact List.mem_map_of_mem hother
  have hnobody (l : List (Taken κ)) (hl : l ⊆ front ++ back) :
      ((l.filter (!c.awaits h ·)).map fun r =>
        (r.request.waiter, (h.answer? r).map Message.toValue)).filter
          (·.1 = r.request.waiter) = [] := by
    refine List.filter_eq_nil_iff.2 ?_
    intro p hp
    obtain ⟨other, hother, rfl⟩ := List.mem_map.1 hp
    simpa using hothers other (hl (List.mem_filter.1 hother).1)
  have hperm := (hl.told.filter (·.1 = r.request.waiter)).map (·.2)
  rw [hsplit, List.filter_append, List.filter_cons] at hperm
  split
  · rename_i hawaits
    simp only [hawaits, Bool.not_true, Bool.false_eq_true, if_false, List.map_append,
      List.filter_append] at hperm
    rw [hnobody front (List.subset_append_left ..), hnobody back (List.subset_append_right ..)] at hperm
    exact hperm.eq_nil
  · rename_i hawaits
    simp only [hawaits, Bool.not_false, if_true, List.map_append, List.map_cons,
      List.filter_append, List.filter_cons, decide_true] at hperm
    rw [hnobody front (List.subset_append_left ..), hnobody back (List.subset_append_right ..)] at hperm
    exact hperm.eq_singleton

end Ledger

namespace Traffic

variable {session : String} {outlet : Outlet}

theorem run_append (script : List (Event κ)) (e : Event κ) :
    run session outlet (script ++ [e]) = (run session outlet script).meet e := by
  rw [run, List.foldl_append]
  rfl

theorem waiters_append (script : List (Event κ)) (e : Event κ) :
    waiters (script ++ [e]) = waiters script ++ waiters [e] := List.filterMap_append

theorem accepted_submit (t : Traffic κ) (s : Submission κ) :
    (t.submit s).history.accepted =
      if t.connection.isClosed then t.history.accepted else t.history.accepted ++ [s] := by
  unfold submit Connection.submit
  by_cases hc : t.connection.isClosed = true
  · simp [hc, History.did]
  · simp [hc]

theorem accepted_meet (t : Traffic κ) (e : Event κ) : ∃ more,
    (t.meet e).history.accepted = t.history.accepted ++ more ∧
      (more.map (·.waiter)).Sublist (waiters [e]) := by
  cases e with
  | submit s =>
    simp only [meet]
    split
    · exact ⟨[], by simp⟩
    · rw [accepted_submit]
      split
      · exact ⟨[], by simp⟩
      · exact ⟨[s], by simp [waiters]⟩
  | clone =>
    simp only [meet]
    split <;> exact ⟨[], by simp⟩
  | drop =>
    simp only [meet]
    split <;> exact ⟨[], by simp⟩
  | peer e => exact ⟨[], by simp [meet]⟩
  | turn =>
    refine ⟨[], ?_, by simp⟩
    simp only [meet, turn]
    split <;> simp

theorem accepted_run (script : List (Event κ)) :
    ((run session outlet script).history.accepted.map (·.waiter)).Sublist (waiters script) := by
  induction script using List.reverseRecOn with
  | nil => simp [run, start, History.empty]
  | append_singleton script e ih =>
    obtain ⟨more, haccepted, hmore⟩ := accepted_meet (run session outlet script) e
    rw [run_append, haccepted, waiters_append, List.map_append]
    exact ih.append hmore

theorem ledger_meet {t : Traffic κ} (hl : Ledger session t.connection t.history)
    (hfew : t.history.accepted.length < Counter.size) (e : Event κ) :
    Ledger session (t.meet e).connection (t.meet e).history := by
  cases e with
  | submit s =>
    simp only [meet]
    split
    · exact hl
    · unfold submit Connection.submit
      by_cases hc : t.connection.isClosed = true
      · simp only [hc, if_true]
        exact hl.of_same rfl rfl (Nat.le_refl _) (fun _ _ => rfl) (by simp [Effect.replies]) rfl rfl
          rfl (fun hc => ⟨hc, rfl⟩) hl.writing
      · simpa [hc, History.did] using hl.accept (by simpa using hc) s
  | clone =>
    simp only [meet]
    split <;> exact hl
  | drop =>
    simp only [meet]
    split
    · exact hl
    · exact hl.disconnect
    · exact hl
  | peer e => exact hl.peer e
  | turn =>
    simp only [meet, turn]
    split
    · exact hl
    · rename_i m hm
      exact hl.make hm hfew

/-- **The invariant of a whole run.** -/
theorem ledger_run (script : List (Event κ)) (hfew : (waiters script).length < Counter.size) :
    Ledger session (run session outlet script).connection (run session outlet script).history := by
  induction script using List.reverseRecOn with
  | nil => exact Ledger.start session outlet
  | append_singleton script e ih =>
    rw [waiters_append, List.length_append] at hfew
    have hlen := (@accepted_run κ session outlet script).length_le
    rw [List.length_map] at hlen
    rw [run_append]
    exact ledger_meet (ih (by omega)) (by omega) e

/-! ## What becomes of a request -/

/-- What can become of a request that was taken up. -/
inductive Fate where
  /-- Its waiter is registered under its id and was told nothing. -/
  | waiting
  /-- Its waiter was told once: the first message read since then that names its id. -/
  | answered
  /-- The connection runs no more, and its waiter was told once that there is no reply. -/
  | abandoned

/-- Whether something became of a request. -/
def Meets [DecidableEq κ] (t : Traffic κ) (r : Taken κ) : Fate → Prop
  | .waiting =>
    t.connection.inFlight.lookup r.id = some r.request.waiter ∧
      t.history.told r.request.waiter = []
  | .answered => ∃ m, t.history.answer? r = some m ∧
      t.history.told r.request.waiter = [some m.toValue]
  | .abandoned => t.connection.phase ≠ .running ∧ t.history.told r.request.waiter = [none]

variable [DecidableEq κ]

theorem meets_waiting_iff {t : Traffic κ} (hl : Ledger session t.connection t.history)
    (hown : (t.history.taken.map (·.request.waiter)).Nodup) {r : Taken κ}
    (hr : r ∈ t.history.taken) :
    t.Meets r .waiting ↔ t.connection.awaits t.history r = true := by
  have htold := hl.told_eq hown hr
  constructor
  · rintro ⟨-, hnothing⟩
    rw [hnothing] at htold
    by_contra hawaits
    rw [if_neg hawaits] at htold
    contradiction
  · intro hawaits
    rw [if_pos hawaits] at htold
    exact ⟨hl.lookup_inFlight hr hawaits, htold⟩

theorem one_fate {t : Traffic κ} (hl : Ledger session t.connection t.history)
    (hown : (t.history.taken.map (·.request.waiter)).Nodup) {r : Taken κ}
    (hr : r ∈ t.history.taken) : ∃! fate, t.Meets r fate := by
  have htold := hl.told_eq hown hr
  by_cases hawaits : t.connection.awaits t.history r = true
  · refine ⟨.waiting, (meets_waiting_iff hl hown hr).2 hawaits, ?_⟩
    intro fate hfate
    rw [if_pos hawaits] at htold
    cases fate <;> simp_all [Meets]
  rw [if_neg hawaits] at htold
  cases hanswer : t.history.answer? r with
  | some m =>
    rw [hanswer, Option.map_some] at htold
    refine ⟨.answered, ⟨m, hanswer, htold⟩, ?_⟩
    intro fate hfate
    cases fate <;> simp_all [Meets]
  | none =>
    have hstopped : t.connection.phase ≠ .running := by
      intro hrun
      simp [Connection.awaits, Connection.isRunning_iff.2 hrun, hanswer] at hawaits
    rw [hanswer, Option.map_none] at htold
    refine ⟨.abandoned, ⟨hstopped, htold⟩, ?_⟩
    intro fate hfate
    cases fate <;> simp_all [Meets]

/-- **Exactly-once routing.** In every state of every run in which each request has its own waiter
    and the ids do not run out, the requests that were taken up have different ids, exactly one
    thing became of each of them, no waiter was told a message that names another request's id, and
    the connection holds exactly the ids of those that wait. -/
theorem routes_exactly_once (session : String) (outlet : Outlet) (script : List (Event κ))
    (hown : (waiters script).Nodup) (hfew : (waiters script).length < Counter.size) :
    let t := run session outlet script
    (t.history.taken.map (·.id)).Nodup ∧
      (∀ r ∈ t.history.taken, ∃! fate, t.Meets r fate) ∧
      (∀ waiter reply, (waiter, some reply) ∈ t.history.replies →
        ∃ r ∈ t.history.taken, r.request.waiter = waiter ∧
          ∃ m ∈ t.history.messages, m.answers? = some r.id ∧ reply = m.toValue) ∧
      (t.connection.inFlight.map (·.1)).Nodup ∧
      ∀ id, id ∈ t.connection.inFlight.map (·.1) ↔
        ∃ r ∈ t.history.taken, r.id = id ∧ t.Meets r .waiting := by
  intro t
  have hl : Ledger session t.connection t.history := ledger_run script hfew
  have hown : (t.history.taken.map (·.request.waiter)).Nodup := by
    have haccepted : (t.history.accepted.map (·.waiter)).Nodup := hown.sublist (accepted_run script)
    have htaken := (hl.accepted.map (·.waiter)).sublist
    rw [List.map_map] at htaken
    exact haccepted.sublist htaken
  refine ⟨hl.nodup_ids, fun r hr => one_fate hl hown hr, ?_, hl.nodup_inFlight, ?_⟩
  · intro waiter reply hmem
    obtain ⟨r, hr, heq⟩ := List.mem_map.1 (hl.told.mem_iff.1 hmem)
    obtain ⟨hwaiter, hreply⟩ := Prod.mk.inj heq
    obtain ⟨m, hanswer, hvalue⟩ := Option.map_eq_some_iff.1 hreply
    refine ⟨r, (List.mem_filter.1 hr).1, hwaiter, m, ?_, ?_, hvalue.symm⟩
    · exact List.mem_of_mem_drop (List.mem_of_find?_eq_some hanswer)
    · simpa using List.find?_some hanswer
  · intro id
    constructor
    · intro hid
      rw [hl.inFlight, List.map_map] at hid
      obtain ⟨r, hr, heq⟩ := List.mem_map.1 hid
      obtain ⟨htaken, hawaits⟩ := List.mem_filter.1 hr
      exact ⟨r, htaken, heq, (meets_waiting_iff hl hown htaken).2 hawaits⟩
    · rintro ⟨r, hr, rfl, hwaits⟩
      exact List.mem_map_of_mem (f := Prod.fst)
        (hl.mem_inFlight hr ((meets_waiting_iff hl hown hr).1 hwaits))

theorem routes_exactly_once_two_requests :
    let reply := Message.replyTo (.request "s_1" "b" "s" .null) "r" .null
    let script : List (Event Nat) := [.submit ⟨"a", .null, 0⟩, .clone, .submit ⟨"b", .null, 1⟩,
      .turn, .turn, .turn, .peer (.feed reply.line), .turn, .peer .endInput, .turn, .turn]
    let t := run "s" .unlimited script
    (waiters script).Nodup ∧ (waiters script).length < Counter.size ∧
      t.history.replies.map (fun p => (p.1, p.2.isSome)) = [(1, true), (0, false)] ∧
      ∀ r ∈ t.history.taken, ∃! fate, t.Meets r fate := by
  intro reply script
  have hown : (waiters script).Nodup := by decide
  have hfew : (waiters script).length < Counter.size := by decide
  have hroutes := routes_exactly_once "s" .unlimited script hown hfew
  refine ⟨hown, hfew, by decide +kernel, ?_⟩
  exact hroutes.2.1

end Traffic

end FormatBridge
