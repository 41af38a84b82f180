import FormatBridge.Proofs.Delivery
import Mathlib.Data.List.Basic
import Mathlib.Data.List.Induction
import Mathlib.Logic.Function.Basic

set_option autoImplicit false

/-! # Buffers follow only their own replies

Dispatchers put their requests into the outbox, where each waits for a reply; in between the
selections change, the host sets texts, and buffers are sent again. A `Desk` is a host with all its
selections, of which each dispatcher follows one, and a `Deed` is what happens next. The `Chronicle`
of what has happened says which buffer each request was made from and what was written to each
buffer, without looking at a host. The host agrees with it all along (`Agrees.meet`). -/

namespace FormatBridge

open Json (Value)

/-! ## A desk -/

/-- A host with several selections. -/
structure Desk where
  host : Host
  /-- The places of the selected buffers, for each selection. -/
  selections : Nat → List Nat

/-- What happens at a desk. -/
inductive Deed where
  | select (selection : Nat) (buffers : List Nat)
  | clear (selection : Nat)
  | setText (buffer : Nat) (text : String)
  /-- A dispatcher sends its selection to be formatted. -/
  | format (dispatcher : Nat)
  /-- A request in the outbox is given a reply, or none, unless it was given one before. -/
  | deliver (request : Nat) (reply : Option Value)

/-- A deed as a command to the host. -/
def Deed.command : Deed → Command
  | .select _ buffers => .select buffers
  | .clear _ => .clear
  | .setText buffer text => .setText buffer text
  | .format dispatcher => .format dispatcher
  | .deliver request reply => .reply request (some reply)

/-- The selection that a deed is about; for the others any will do. -/
def Deed.selection (follows : Nat → Nat) : Deed → Nat
  | .select selection _ | .clear selection => selection
  | .format dispatcher => follows dispatcher
  | .setText .. | .deliver .. => 0

namespace Desk

/-- A desk with dispatchers over the outbox, of which a kind is given and whether they report
    failures; nothing is selected. -/
def start (buffers : List Buffer) (dispatchers : List (String × Bool)) : Desk where
  host := { Host.start "" .unlimited buffers false with
    dispatchers := dispatchers.map fun (kind, reports) => ⟨⟨.outbox, kind, reports⟩, true⟩ }
  selections _ := []

/-- The host obeys a command with one of the selections at hand. -/
def obey (d : Desk) (selection : Nat) (command : Command) : Answer × Desk :=
  let (_, answer, h) := Host.obey { d.host with selection := d.selections selection } command
  (answer, ⟨h, Function.update d.selections selection h.selection⟩)

/-- A desk after a deed. Which selection a dispatcher follows is given. -/
def meet (follows : Nat → Nat) (d : Desk) (deed : Deed) : Desk :=
  (d.obey (deed.selection follows) deed.command).2

/-- A desk after many deeds. -/
def run (follows : Nat → Nat) (buffers : List Buffer) (dispatchers : List (String × Bool))
    (script : List Deed) : Desk :=
  script.foldl (meet follows) (start buffers dispatchers)

theorem run_append_singleton (follows : Nat → Nat) (buffers : List Buffer)
    (dispatchers : List (String × Bool)) (script : List Deed) (deed : Deed) :
    run follows buffers dispatchers (script ++ [deed]) =
      (run follows buffers dispatchers script).meet follows deed := by
  simp [run]

end Desk

/-! ## What deeds mean -/

/-- What has happened, apart from any host. -/
structure Chronicle where
  selections : Nat → List Nat
  /-- The buffer that each request was made from, in the order of the requests. -/
  origins : List Nat
  /-- The requests that were given a reply, or none. -/
  answered : List Nat
  /-- What was written to which buffer, in order. -/
  writes : List (Nat × String)

namespace Chronicle

/-- Nothing has happened. -/
def empty : Chronicle := ⟨fun _ => [], [], [], []⟩

/-- The texts that were written to a buffer, in order. -/
def writesTo (past : Chronicle) (buffer : Nat) : List String :=
  past.writes.filterMap fun (i, text) => if i = buffer then some text else none

/-- What the delivery of a reply to a request from `origin` writes. -/
def written (origin : Nat) (reply : Option Value) : List (Nat × String) :=
  match classify reply with
  | .ok code => [(origin, code)]
  | .error _ => []

/-- A deed is noted, in a place with so many buffers and dispatchers. -/
def note (follows : Nat → Nat) (buffers dispatchers : Nat) (past : Chronicle) : Deed → Chronicle
  | .select i selected =>
    if ∀ b ∈ selected, b < buffers then
      { past with selections := Function.update past.selections i selected }
    else past
  | .clear i => { past with selections := Function.update past.selections i [] }
  | .setText b text => if b < buffers then { past with writes := past.writes ++ [(b, text)] } else past
  | .format i =>
    if i < dispatchers then { past with origins := past.origins ++ past.selections (follows i) }
    else past
  | .deliver request reply =>
    match past.origins[request]? with
    | none => past
    | some origin =>
      if request ∈ past.answered then past
      else { past with
        answered := request :: past.answered
        writes := past.writes ++ written origin reply }

/-- The chronicle of many deeds. -/
def run (follows : Nat → Nat) (buffers dispatchers : Nat) (script : List Deed) : Chronicle :=
  script.foldl (note follows buffers dispatchers) empty

theorem run_append_singleton (follows : Nat → Nat) (buffers dispatchers : Nat)
    (script : List Deed) (deed : Deed) : run follows buffers dispatchers (script ++ [deed]) =
      (run follows buffers dispatchers script).note follows buffers dispatchers deed := by
  simp [run]

end Chronicle

/-- A buffer to which texts were written, in order. -/
def Buffer.after (b : Buffer) (texts : List String) : Buffer :=
  { b with text := texts.getLast?.getD b.text, writes := b.writes + texts.length }

theorem Buffer.after_append (b : Buffer) (texts : List String) (text : String) :
    b.after (texts ++ [text]) = (b.after texts).setText text := by
  simp [after, setText, Nat.add_assoc]

/-- The kind and payload of every request that was put into the outbox. -/
def Host.requests (h : Host) : List (String × Value) := h.outbox.map fun p => (p.kind, p.payload)

/-- A request to format a buffer as it is now, as it stands in the outbox. -/
def Host.posting? (h : Host) (kind : String) (reports : Bool) (i : Nat) : Option Posted :=
  h.buffers[i]?.map fun b =>
    ⟨kind, .ofMembers [("code", .string b.text)], some (.buffer i reports)⟩

namespace Host

/-! ## Sending into the outbox -/

/-- Requests are put into the outbox. -/
def posting (h : Host) (requests : List Posted) : Host :=
  { h with outbox := h.outbox ++ requests }

theorem formatBuffer_outbox (h : Host) {d : Dispatcher} (hd : d.channel = .outbox) (i : Nat) :
    (h.formatBuffer d i).2.2 = h.posting (h.posting? d.kind d.reports i).toList := by
  unfold formatBuffer posting? posting
  cases h.buffers[i]? with
  | none => simp
  | some b =>
    simp only [hd, sendOver]
    rfl

/-- **Formatting buffers over the outbox only puts their requests there, in order.** -/
theorem formatBuffers_outbox (h : Host) {d : Dispatcher} (hd : d.channel = .outbox)
    (indices : List Nat) : (h.formatBuffers d indices).2.2 =
      h.posting (indices.filterMap (h.posting? d.kind d.reports)) := by
  induction indices generalizing h with
  | nil => simp [formatBuffers, posting]
  | cons i indices ih =>
    have hone := formatBuffer_outbox h hd i
    have hrest : (h.formatBuffers d (i :: indices)).2.2 =
        ((h.formatBuffer d i).2.2.formatBuffers d indices).2.2 := rfl
    rw [hrest, hone, ih (h.posting (h.posting? d.kind d.reports i).toList)]
    have hsame : (h.posting (h.posting? d.kind d.reports i).toList).posting? = h.posting? := rfl
    rw [hsame, List.filterMap_cons]
    cases h.posting? d.kind d.reports i <;> simp [posting]

theorem formatSelection_outbox (h : Host) {d : Dispatcher} (hd : d.channel = .outbox) :
    (h.formatSelection d).2 = (h.selection.length,
      h.posting (h.selection.filterMap (h.posting? d.kind d.reports))) := by
  unfold formatSelection
  split
  · rename_i hempty
    rw [List.isEmpty_iff.1 hempty]
    simp [posting]
  · exact congrArg (Prod.mk h.selection.length) (formatBuffers_outbox h hd h.selection)

/-! ## Answering in the outbox -/

theorem requests_takePosted {h g : Host} {i : Nat} {waiter : Waiter}
    (htake : h.takePosted i = .ok (waiter, g)) : g.requests = h.requests := by
  unfold takePosted at htake
  split at htake
  · contradiction
  · contradiction
  · obtain ⟨-, rfl⟩ := Prod.mk.inj (Except.ok.inj htake)
    refine List.ext_getElem? fun j => ?_
    simp only [requests, List.getElem?_map, List.getElem?_modify]
    by_cases hij : i = j <;> cases h.outbox[j]? <;> simp [hij]

theorem requests_tell (h : Host) (waiter : Waiter) (reply : Option Value) :
    (h.tell waiter reply).2.2.requests = h.requests := by
  rw [tell_eq h (waiter, reply)]
  rfl

end Host

/-! ## The host agrees with the chronicle -/

/-- Whether a desk, which started with these buffers and dispatchers, agrees with what has
    happened. -/
structure Agrees (buffers : List Buffer) (dispatchers : List (String × Bool)) (d : Desk)
    (past : Chronicle) : Prop where
  chosen : d.selections = past.selections
  valid : ∀ i, ∀ b ∈ past.selections i, b < buffers.length
  senders : d.host.dispatchers =
    dispatchers.map fun (kind, reports) => ⟨⟨.outbox, kind, reports⟩, true⟩
  texts : d.host.buffers = buffers.mapIdx fun i b => b.after (past.writesTo i)
  issued : d.host.outbox.length = past.origins.length
  answered : ∀ k ∈ past.answered, k < past.origins.length
  waiting : ∀ (k : Nat) (p : Posted) (origin : Nat), d.host.outbox[k]? = some p →
    past.origins[k]? = some origin →
    if k ∈ past.answered then p.waiter = none
    else ∃ reports, p.waiter = some (.buffer origin reports)

namespace Agrees

variable {follows : Nat → Nat} {buffers : List Buffer} {dispatchers : List (String × Bool)}
  {d : Desk} {past : Chronicle}

theorem start (buffers : List Buffer) (dispatchers : List (String × Bool)) :
    Agrees buffers dispatchers (.start buffers dispatchers) .empty := by
  have htexts : buffers.mapIdx (fun i b => b.after (Chronicle.empty.writesTo i)) = buffers :=
    Host.mapIdx_eq_self fun _ _ _ => rfl
  exact
    { chosen := rfl
      valid := by simp [Chronicle.empty]
      senders := rfl
      texts := htexts.symm
      issued := rfl
      answered := by simp [Chronicle.empty]
      waiting := by simp [Chronicle.empty] }

theorem length_buffers (ha : Agrees buffers dispatchers d past) :
    d.host.buffers.length = buffers.length := by
  rw [ha.texts, List.length_mapIdx]

/-- Which selection the host has at hand does not matter. -/
theorem at_hand (ha : Agrees buffers dispatchers d past) (selection : List Nat) :
    Agrees buffers dispatchers ⟨{ d.host with selection := selection }, d.selections⟩ past :=
  { ha with }

/-- A selection is replaced. -/
theorem choose (ha : Agrees buffers dispatchers d past) (i : Nat) {selected : List Nat}
    (hvalid : ∀ b ∈ selected, b < buffers.length) :
    Agrees buffers dispatchers
      ⟨{ d.host with selection := selected }, Function.update d.selections i selected⟩
      { past with selections := Function.update past.selections i selected } :=
  { ha with
    chosen := by rw [ha.chosen]
    valid := by
      intro j
      by_cases hj : j = i
      · subst hj
        simpa using hvalid
      · simpa [Function.update_of_ne hj] using ha.valid j }

theorem writesTo_append (past : Chronicle) (i j : Nat) (text : String) :
    { past with writes := past.writes ++ [(i, text)] }.writesTo j =
      past.writesTo j ++ if i = j then [text] else [] := by
  by_cases hij : i = j <;> simp [Chronicle.writesTo, hij]

/-- A text is written to a buffer. -/
theorem write (ha : Agrees buffers dispatchers d past) (i : Nat) (text : String) :
    Agrees buffers dispatchers
      ⟨{ d.host with
        buffers := d.host.buffers.mapIdx fun j b => if i = j then b.setText text else b },
        d.selections⟩
      { past with writes := past.writes ++ [(i, text)] } := by
  have htexts : (d.host.buffers.mapIdx fun j b => if i = j then b.setText text else b) =
      buffers.mapIdx fun j b =>
        b.after ({ past with writes := past.writes ++ [(i, text)] }.writesTo j) := by
    rw [ha.texts, List.mapIdx_mapIdx]
    congr 1
    funext j b
    rw [Function.comp_apply, writesTo_append]
    by_cases hij : i = j <;> simp [hij, Buffer.after_append]
  exact { ha with texts := htexts }

/-- Every selected buffer exists, so a request is put into the outbox for each. -/
theorem postings (ha : Agrees buffers dispatchers d past) (kind : String) (reports : Bool)
    {selected : List Nat} (hvalid : ∀ b ∈ selected, b < buffers.length) :
    (selected.filterMap (d.host.posting? kind reports)).map some =
      selected.map (d.host.posting? kind reports) := by
  rw [List.map_filterMap, ← List.filterMap_eq_map]
  refine List.filterMap_congr ?_
  intro b hb
  have hlt : b < d.host.buffers.length := ha.length_buffers.symm ▸ hvalid b hb
  simp [Host.posting?, List.getElem?_eq_getElem hlt]

/-- Requests are put into the outbox for selected buffers. -/
theorem post (ha : Agrees buffers dispatchers d past) (kind : String) (reports : Bool)
    {selected : List Nat} (hvalid : ∀ b ∈ selected, b < buffers.length) :
    Agrees buffers dispatchers
      ⟨d.host.posting (selected.filterMap (d.host.posting? kind reports)), d.selections⟩
      { past with origins := past.origins ++ selected } := by
  have hposted := ha.postings kind reports hvalid
  generalize selected.filterMap (d.host.posting? kind reports) = posted at hposted
  have hlength : posted.length = selected.length := by
    simpa using congrArg List.length hposted
  have hnew : ∀ (k : Nat) (p : Posted) (origin : Nat), posted[k]? = some p →
      selected[k]? = some origin → p.waiter = some (.buffer origin reports) := by
    intro k p origin hp horigin
    have hsame := congrArg (·[k]?) hposted
    simp only [List.getElem?_map, hp, horigin, Option.map_some, Option.some.injEq] at hsame
    obtain ⟨b, -, rfl⟩ := Option.map_eq_some_iff.1 hsame.symm
    rfl
  exact
    { ha with
      issued := by simp [Host.posting, ha.issued, hlength]
      answered := by
        intro k hk
        rw [List.length_append]
        exact Nat.lt_of_lt_of_le (ha.answered k hk) (Nat.le_add_right ..)
      waiting := by
        intro k p origin hp horigin
        simp only [Host.posting] at hp
        by_cases hk : k < past.origins.length
        · rw [List.getElem?_append_left (ha.issued.symm ▸ hk)] at hp
          rw [List.getElem?_append_left hk] at horigin
          exact ha.waiting k p origin hp horigin
        · -- nobody has answered a request that was just made
          rw [List.getElem?_append_right (ha.issued ▸ Nat.not_lt.1 hk), ha.issued] at hp
          rw [List.getElem?_append_right (Nat.not_lt.1 hk)] at horigin
          rw [if_neg fun h => hk (ha.answered k h)]
          exact ⟨reports, hnew _ p origin hp horigin⟩ }

/-- A request is marked as answered. -/
theorem settle (ha : Agrees buffers dispatchers d past) {request : Nat}
    (hissued : request < past.origins.length) :
    Agrees buffers dispatchers
      ⟨{ d.host with outbox := d.host.outbox.modify request fun p => { p with waiter := none } },
        d.selections⟩
      { past with answered := request :: past.answered } :=
  { ha with
    issued := by simp [ha.issued]
    answered := by
      intro k hk
      rcases List.mem_cons.1 hk with rfl | hk
      · exact hissued
      · exact ha.answered k hk
    waiting := by
      intro k p origin hp horigin
      simp only [List.getElem?_modify] at hp
      by_cases hk : request = k
      · subst hk
        obtain ⟨p', -, rfl⟩ := Option.map_eq_some_iff.1 (by simpa using hp)
        simp
      · have hp : d.host.outbox[k]? = some p := by simpa [hk] using hp
        simpa [Ne.symm hk] using ha.waiting k p origin hp horigin }

/-- What a reply writes to the buffer that its request was made from. -/
theorem receive (ha : Agrees buffers dispatchers d past) (origin : Nat) (reports : Bool)
    (reply : Option Value) :
    Agrees buffers dispatchers ⟨(d.host.tell (.buffer origin reports) reply).2.2, d.selections⟩
      { past with writes := past.writes ++ Chronicle.written origin reply } := by
  have htell : (d.host.tell (.buffer origin reports) reply).2.2 = _ :=
    d.host.applyReply_eq origin reports reply
  rw [htell]
  cases hreply : classify reply with
  | ok code =>
    simp only [Chronicle.written, Buffer.receive, hreply]
    exact { ha.write origin code with }
  | error error =>
    simp only [Chronicle.written, Buffer.receive, hreply, ite_self, List.append_nil]
    rw [Host.mapIdx_eq_self fun _ _ _ => rfl]
    exact { ha with }

/-- A command that leaves the selection at hand changes no selection. -/
theorem obey_eq {d : Desk} {i : Nat} {command : Command} {answer : Answer} {h : Host}
    (hobey : (Host.obey { d.host with selection := d.selections i } command).2 = (answer, h))
    (hkept : h.selection = d.selections i) : d.obey i command = (answer, ⟨h, d.selections⟩) := by
  have hdesk : d.obey i command =
      (answer, ⟨h, Function.update d.selections i h.selection⟩) := by
    rw [Desk.obey]
    exact congrArg (fun p : Answer × Host =>
      (p.1, (⟨p.2, Function.update d.selections i p.2.selection⟩ : Desk))) hobey
  rw [hdesk, hkept, Function.update_eq_self]

theorem held_outbox (ha : Agrees buffers dispatchers d past) (i : Nat) :
    Host.held? d.host.dispatchers i =
      dispatchers[i]?.map fun (kind, reports) => ⟨.outbox, kind, reports⟩ := by
  rw [Host.held?, ha.senders, List.getElem?_map]
  cases dispatchers[i]? <;> rfl

/-- **What formatting does:** it gives the number of selected buffers and puts a request into the
    outbox for each, as the buffer is now. -/
theorem obey_format (ha : Agrees buffers dispatchers d past) (follows : Nat → Nat) {i : Nat}
    {kind : String} {reports : Bool} (hi : dispatchers[i]? = some (kind, reports)) :
    d.obey (follows i) (.format i) = (.number (past.selections (follows i)).length,
      ⟨{ d.host with selection := past.selections (follows i) }.posting
        ((past.selections (follows i)).filterMap (d.host.posting? kind reports)),
        d.selections⟩) := by
  refine obey_eq ?_ (congrFun ha.chosen _).symm
  have hheld := ha.held_outbox i
  rw [hi, Option.map_some] at hheld
  have hformat := Host.formatSelection_outbox
    { d.host with selection := d.selections (follows i) } (d := ⟨.outbox, kind, reports⟩) rfl
  rw [ha.chosen] at hformat ⊢
  simp only [Host.obey, Host.withHeld, hheld, hformat]
  rfl

/-- A deed that is refused changes nothing but the selection at hand. -/
theorem refused (ha : Agrees buffers dispatchers d past) {i : Nat} {command : Command}
    (answer : Answer)
    (hobey : (Host.obey { d.host with selection := d.selections i } command).2 =
      (answer, { d.host with selection := d.selections i })) :
    Agrees buffers dispatchers (d.obey i command).2 past := by
  rw [obey_eq hobey rfl]
  exact ha.at_hand _

theorem select (ha : Agrees buffers dispatchers d past) (i : Nat) (selected : List Nat) :
    Agrees buffers dispatchers (d.obey i (.select selected)).2
      (past.note follows buffers.length dispatchers.length (.select i selected)) := by
  have hlength := ha.length_buffers
  by_cases hvalid : ∀ b ∈ selected, b < buffers.length
  · have hall : selected.all (· < d.host.buffers.length) = true := by simpa [hlength] using hvalid
    have hobey : (d.obey i (.select selected)).2 =
        ⟨{ d.host with selection := selected }, Function.update d.selections i selected⟩ := by
      simp only [Desk.obey, Host.obey, hall, if_true, Host.answer]
    rw [hobey, Chronicle.note, if_pos hvalid]
    exact ha.choose i hvalid
  · have hall : selected.all (· < d.host.buffers.length) = false := by
      simpa [hlength] using hvalid
    rw [Chronicle.note, if_neg hvalid]
    refine ha.refused (.refused .noBuffer) ?_
    simp only [Host.obey, hall, Bool.false_eq_true, if_false, Host.refuse, Host.answer]

theorem setText (ha : Agrees buffers dispatchers d past) (i : Nat) (text : String) :
    Agrees buffers dispatchers (d.obey 0 (.setText i text)).2
      (past.note follows buffers.length dispatchers.length (.setText i text)) := by
  have hlength := ha.length_buffers
  by_cases hi : i < buffers.length
  · have hb : d.host.buffers[i]? = some d.host.buffers[i] :=
      List.getElem?_eq_getElem (hlength ▸ hi)
    have hset := Host.set_eq_mapIdx hb (·.setText text)
    have hobey : (Host.obey { d.host with selection := d.selections 0 } (.setText i text)).2 =
        (.nothing, { d.host with
          selection := d.selections 0
          buffers := d.host.buffers.set i (d.host.buffers[i].setText text) }) := by
      simp only [Host.obey, hb, Host.answer]
    rw [obey_eq hobey rfl, hset, Chronicle.note, if_pos hi]
    exact (ha.write i text).at_hand _
  · have hb : d.host.buffers[i]? = none := List.getElem?_eq_none (hlength ▸ Nat.not_lt.1 hi)
    rw [Chronicle.note, if_neg hi]
    refine ha.refused (.refused .noBuffer) ?_
    simp only [Host.obey, hb, Host.refuse, Host.answer]

theorem format (ha : Agrees buffers dispatchers d past) (follows : Nat → Nat) (i : Nat) :
    Agrees buffers dispatchers (d.obey (follows i) (.format i)).2
      (past.note follows buffers.length dispatchers.length (.format i)) := by
  by_cases hi : i < dispatchers.length
  · rw [ha.obey_format follows (List.getElem?_eq_getElem hi), Chronicle.note, if_pos hi]
    exact (ha.post _ _ (ha.valid (follows i))).at_hand _
  · have hheld := ha.held_outbox i
    rw [List.getElem?_eq_none (Nat.not_lt.1 hi), Option.map_none] at hheld
    rw [Chronicle.note, if_neg hi]
    refine ha.refused (.refused .noDispatcher) ?_
    simp only [Host.obey, Host.withHeld, hheld, Host.refuse, Host.answer]

/-- A request that nobody has answered is there with its waiter. -/
theorem takePosted_waiting (ha : Agrees buffers dispatchers d past) {request origin : Nat}
    (horigin : past.origins[request]? = some origin) (hwaits : request ∉ past.answered) :
    ∃ p reports, d.host.outbox[request]? = some p ∧ p.waiter = some (.buffer origin reports) ∧
      d.host.takePosted request = .ok (.buffer origin reports, { d.host with
        outbox := d.host.outbox.modify request fun p => { p with waiter := none } }) := by
  have hissued : request < past.origins.length := (List.getElem?_eq_some_iff.1 horigin).1
  obtain ⟨p, hp⟩ : ∃ p, d.host.outbox[request]? = some p :=
    ⟨_, List.getElem?_eq_getElem (ha.issued.symm ▸ hissued)⟩
  have hwaiting := ha.waiting request p origin hp horigin
  rw [if_neg hwaits] at hwaiting
  obtain ⟨kind, payload, waiter⟩ := p
  obtain ⟨reports, rfl⟩ := hwaiting
  exact ⟨_, reports, hp, rfl, by simp only [Host.takePosted, hp]⟩

/-- No waiter is there for a request that was never made, or that was answered. -/
theorem takePosted_refused (ha : Agrees buffers dispatchers d past) {request : Nat}
    (hgone : past.origins[request]? = none ∨ request ∈ past.answered) :
    ∃ reason, d.host.takePosted request = .error reason := by
  cases horigin : past.origins[request]? with
  | none =>
    have hnone : d.host.outbox[request]? = none := by
      rw [List.getElem?_eq_none_iff] at horigin ⊢
      exact ha.issued.symm ▸ horigin
    exact ⟨.noRequest, by simp only [Host.takePosted, hnone]⟩
  | some origin =>
    have hanswered := hgone.resolve_left (by simp [horigin])
    have hissued : request < past.origins.length := (List.getElem?_eq_some_iff.1 horigin).1
    obtain ⟨p, hp⟩ : ∃ p, d.host.outbox[request]? = some p :=
      ⟨_, List.getElem?_eq_getElem (ha.issued.symm ▸ hissued)⟩
    have hwaiting := ha.waiting request p origin hp horigin
    rw [if_pos hanswered] at hwaiting
    obtain ⟨kind, payload, waiter⟩ := p
    obtain rfl : waiter = none := hwaiting
    exact ⟨.alreadyAnswered, by simp only [Host.takePosted, hp]⟩

/-- A reply that finds its waiter is told. -/
theorem obey_reply {d : Desk} {request origin : Nat} {reports : Bool} {h : Host}
    (htake : Host.takePosted { d.host with selection := d.selections 0 } request =
      .ok (.buffer origin reports, h)) (hkept : h.selection = d.selections 0)
    (reply : Option Value) : d.obey 0 (.reply request (some reply)) =
      (.nothing, ⟨(h.tell (.buffer origin reports) reply).2.2, d.selections⟩) := by
  refine obey_eq (by simp only [Host.obey, htake]) ?_
  rw [Host.tell_eq h (.buffer origin reports, reply)]
  exact hkept

/-- A reply to a request that waits for one goes to the buffer that the request was made from. -/
theorem deliver (ha : Agrees buffers dispatchers d past) (request : Nat) (reply : Option Value) :
    Agrees buffers dispatchers (d.obey 0 (.reply request (some reply))).2
      (past.note follows buffers.length dispatchers.length (.deliver request reply)) := by
  have hhand := ha.at_hand (d.selections 0)
  have hrefused (hgone : past.origins[request]? = none ∨ request ∈ past.answered) :
      Agrees buffers dispatchers (d.obey 0 (.reply request (some reply))).2 past := by
    obtain ⟨reason, htake⟩ := hhand.takePosted_refused hgone
    exact ha.refused (.refused reason) (by simp only [Host.obey, htake, Host.refuse, Host.answer])
  rw [Chronicle.note]
  cases horigin : past.origins[request]? with
  | none => exact hrefused (.inl horigin)
  | some origin =>
    have hissued : request < past.origins.length := (List.getElem?_eq_some_iff.1 horigin).1
    by_cases hanswered : request ∈ past.answered
    · simp only [if_pos hanswered]
      exact hrefused (.inr hanswered)
    · simp only [if_neg hanswered]
      obtain ⟨_, reports, -, -, htake⟩ := hhand.takePosted_waiting horigin hanswered
      rw [obey_reply htake rfl]
      exact (hhand.settle hissued).receive origin reports reply

/-- **Every deed keeps the host in agreement with the chronicle.** -/
theorem meet (ha : Agrees buffers dispatchers d past) (follows : Nat → Nat) (deed : Deed) :
    Agrees buffers dispatchers (d.meet follows deed)
      (past.note follows buffers.length dispatchers.length deed) := by
  cases deed with
  | select i selected => exact ha.select i selected
  | clear i => exact ha.choose i (by simp)
  | setText i text => exact ha.setText i text
  | format i => exact ha.format follows i
  | deliver request reply => exact ha.deliver request reply

/-- **The host agrees with the chronicle of the whole script.** -/
theorem run (follows : Nat → Nat) (buffers : List Buffer) (dispatchers : List (String × Bool))
    (script : List Deed) : Agrees buffers dispatchers (.run follows buffers dispatchers script)
      (.run follows buffers.length dispatchers.length script) := by
  induction script using List.reverseRecOn with
  | nil => exact start buffers dispatchers
  | append_singleton script deed ih =>
    rw [Desk.run_append_singleton, Chronicle.run_append_singleton]
    exact ih.meet follows deed

/-! ## Requests stay as they were made -/

/-- What formatting adds to the requests. -/
theorem requests_format (ha : Agrees buffers dispatchers d past) (follows : Nat → Nat) {i : Nat}
    {kind : String} {reports : Bool} (hi : dispatchers[i]? = some (kind, reports)) :
    (d.obey (follows i) (.format i)).2.host.requests.map some =
      d.host.requests.map some ++ (past.selections (follows i)).map fun b =>
        d.host.buffers[b]?.map fun b => (kind, .ofMembers [("code", .string b.text)]) := by
  have hposted := congrArg (List.map (Option.map fun p : Posted => (p.kind, p.payload)))
    (ha.postings kind reports (ha.valid (follows i)))
  simp only [List.map_map, Function.comp_def, Option.map_some, Host.posting?, Option.map_map]
    at hposted
  rw [ha.obey_format follows hi]
  simp only [Host.requests, Host.posting, List.map_append, List.map_map, Function.comp_def,
    Host.posting?, hposted]

/-- No deed takes a request back or changes its kind or payload. -/
theorem requests_meet (ha : Agrees buffers dispatchers d past) (follows : Nat → Nat)
    (deed : Deed) : d.host.requests <+: (d.meet follows deed).host.requests := by
  cases deed with
  | clear i => exact List.prefix_rfl
  | select i selected =>
    simp only [Desk.meet, Deed.command, Desk.obey, Host.obey]
    split <;> exact List.prefix_rfl
  | setText i text =>
    simp only [Desk.meet, Deed.command, Desk.obey, Host.obey]
    split <;> exact List.prefix_rfl
  | format i =>
    cases hi : dispatchers[i]? with
    | none =>
      have hheld := ha.held_outbox i
      rw [hi, Option.map_none] at hheld
      simp only [Desk.meet, Deed.command, Desk.obey, Host.obey, Host.withHeld, hheld]
      exact List.prefix_rfl
    | some sender =>
      rw [Desk.meet, Deed.command, Deed.selection, ha.obey_format follows hi]
      simp only [Host.requests, Host.posting, List.map_append]
      exact List.prefix_append ..
  | deliver request reply =>
    simp only [Desk.meet, Deed.command, Desk.obey, Host.obey]
    split
    · exact List.prefix_rfl
    · rename_i waiter h htake
      have hsame : (h.tell waiter reply).2.2.requests = d.host.requests := by
        rw [Host.requests_tell, Host.requests_takePosted htake]
        rfl
      exact hsame ▸ List.prefix_rfl

end Agrees

/-- **Buffers follow only their own replies.** After any deeds, every buffer has the text that was
    last written to it, by the host or by a reply with code to a request made from that buffer, and
    counts these writes. To format a selection gives its length and makes a request for each of its
    buffers, in order, with the text it has now; nothing that happens later changes a request. -/
theorem Desk.buffers_follow_own_replies (follows : Nat → Nat) (buffers : List Buffer)
    (dispatchers : List (String × Bool)) (script : List Deed) :
    let d := Desk.run follows buffers dispatchers script
    let past := Chronicle.run follows buffers.length dispatchers.length script
    d.host.buffers = buffers.mapIdx (fun i b => b.after (past.writesTo i)) ∧
      (∀ i kind reports, dispatchers[i]? = some (kind, reports) →
        let selection := past.selections (follows i)
        let now := d.obey (follows i) (.format i)
        now.1 = .number selection.length ∧
          now.2.host.requests.map some = d.host.requests.map some ++ selection.map fun b =>
            d.host.buffers[b]?.map fun b => (kind, .ofMembers [("code", .string b.text)])) ∧
      ∀ more, d.host.requests <+:
        (Desk.run follows buffers dispatchers (script ++ more)).host.requests := by
  intro d past
  have ha : Agrees buffers dispatchers d past := .run follows buffers dispatchers script
  refine ⟨ha.texts, ?_, ?_⟩
  · intro i kind reports hi
    have hanswer := congrArg Prod.fst (ha.obey_format follows hi)
    exact ⟨hanswer, ha.requests_format follows hi⟩
  · intro more
    induction more using List.reverseRecOn with
    | nil => simp [d]
    | append_singleton more deed ih =>
      rw [← List.append_assoc, Desk.run_append_singleton]
      exact ih.trans ((Agrees.run follows buffers dispatchers (script ++ more)).requests_meet
        follows deed)

end FormatBridge
