import FormatBridge.Host.Command
import FormatBridge.Proofs.Traffic

set_option autoImplicit false

/-! # What replies do to a host

The effects of a connection change a host only by the replies among them, and a reply changes only
the buffer that its request was made from and the queue of failures (`deliver_eq`). Formatting
buffers over an open connection only adds their requests to its queue (`formatBuffers_eq`). -/

namespace FormatBridge

open Json (Value)

namespace Buffer

/-- A buffer once a reply, or none, has come for it. -/
def receive (b : Buffer) (reply : Option Value) : Buffer :=
  match classify reply with
  | .ok code => b.setText code
  | .error _ => b

/-- The failure of a buffer with a given label, when a reply, or none, gives no code. -/
def failure? (label : String) (reply : Option Value) : Option Failure :=
  match classify reply with
  | .ok _ => none
  | .error error => some ⟨label, error⟩

@[simp]
theorem label_receive (b : Buffer) (reply : Option Value) : (b.receive reply).label = b.label := by
  unfold receive
  split <;> rfl

@[simp]
theorem label_foldl_receive (b : Buffer) (replies : List (Option Value)) :
    (replies.foldl receive b).label = b.label := by
  induction replies generalizing b with
  | nil => rfl
  | cons reply replies ih => rw [List.foldl_cons, ih, label_receive]

end Buffer

namespace Host

/-! ## Replies -/

/-- A host once waiters were told replies, in order. -/
def deliver (h : Host) (replies : List (Waiter × Option Value)) : Host :=
  replies.foldl (fun h p => (h.tell p.1 p.2).2.2) h

/-- The replies that are for one buffer, in order. -/
def own (i : Nat) (replies : List (Waiter × Option Value)) : List (Option Value) :=
  replies.filterMap fun
    | (.buffer j _, reply) => if j = i then some reply else none
    | (.caller _, _) => none

/-- The failure that is reported when a waiter is told a reply. -/
def failure? (h : Host) : Waiter × Option Value → Option Failure
  | (.buffer i true, reply) => (h.buffers[i]?.map (·.label)).bind (Buffer.failure? · reply)
  | (.buffer _ false, _) | (.caller _, _) => none

theorem perform_host (h : Host) (e : Effect Waiter) :
    (h.perform e).2.2 = h.deliver (Effect.replies [e]) := by
  cases e with
  | dropped waiter => cases waiter <;> rfl
  | _ => rfl

theorem performAll_host (h : Host) (effects : List (Effect Waiter)) :
    (h.performAll effects).2.2 = h.deliver (Effect.replies effects) := by
  induction effects generalizing h with
  | nil => rfl
  | cons e effects ih =>
    have hcons : Effect.replies (e :: effects) = Effect.replies [e] ++ Effect.replies effects :=
      Effect.replies_append [e] effects
    rw [performAll, ih, perform_host, hcons, deliver, deliver, deliver, List.foldl_append]

theorem failure?_of_labels {g h : Host}
    (hlabels : g.buffers.map (·.label) = h.buffers.map (·.label)) : g.failure? = h.failure? := by
  funext ⟨waiter, reply⟩
  unfold failure?
  split
  · rename_i i _ heq
    rw [← List.getElem?_map, ← List.getElem?_map, hlabels]
  · rfl
  · rfl

theorem mapIdx_eq_self {α : Type} {l : List α} {f : Nat → α → α}
    (hf : ∀ i a, l[i]? = some a → f i a = a) : l.mapIdx f = l := by
  refine List.ext_getElem? ?_
  intro i
  rw [List.getElem?_mapIdx]
  cases ha : l[i]? with
  | none => rfl
  | some a => rw [Option.map_some, hf i a ha]

/-- To replace one element is to change the one in its place. -/
theorem set_eq_mapIdx {α : Type} {l : List α} {i : Nat} {a : α} (ha : l[i]? = some a)
    (f : α → α) : l.set i (f a) = l.mapIdx fun j b => if i = j then f b else b := by
  refine List.ext_getElem? ?_
  intro j
  rw [List.getElem?_mapIdx, List.getElem?_set]
  by_cases hij : i = j
  · subst hij
    have hlt : i < l.length := (List.getElem?_eq_some_iff.1 ha).1
    rw [ha, if_pos rfl, if_pos hlt, Option.map_some, if_pos rfl]
  · simp [hij]

/-- A reply to a buffer. -/
theorem applyReply_eq (h : Host) (i : Nat) (reports : Bool) (reply : Option Value) :
    (h.applyReply i reports reply).2.2 = { h with
      buffers := h.buffers.mapIdx fun j b => if i = j then b.receive reply else b
      failures := h.failures ++ (h.failure? (.buffer i reports, reply)).toList } := by
  unfold applyReply
  cases hb : h.buffers[i]? with
  | none =>
    have hbuffers : (h.buffers.mapIdx fun j b => if i = j then b.receive reply else b) =
        h.buffers := by
      refine mapIdx_eq_self fun j b hj => if_neg ?_
      rintro rfl
      rw [hb] at hj
      contradiction
    rw [hbuffers]
    cases reports <;> simp [failure?, hb]
  | some buffer =>
    dsimp only [Buffer.applicationOf]
    cases hreply : classify reply with
    | ok code =>
      have hbuffers : (h.buffers.mapIdx fun j b => if i = j then b.receive reply else b) =
          h.buffers.set i (buffer.setText code) := by
        rw [set_eq_mapIdx hb (·.setText code)]
        simp only [Buffer.receive, hreply]
      rw [hbuffers]
      cases reports <;> simp [failure?, Buffer.failure?, hb, hreply]
    | error e =>
      have hbuffers : (h.buffers.mapIdx fun j b => if i = j then b.receive reply else b) =
          h.buffers := by
        refine mapIdx_eq_self ?_
        intro j b hj
        rw [Buffer.receive, hreply, ite_self]
      rw [hbuffers]
      cases reports <;> simp [failure?, Buffer.failure?, hb, hreply]

theorem tell_eq (h : Host) (p : Waiter × Option Value) : (h.tell p.1 p.2).2.2 = { h with
    buffers := h.buffers.mapIdx fun i b => (own i [p]).foldl Buffer.receive b
    failures := h.failures ++ (h.failure? p).toList } := by
  obtain ⟨waiter, reply⟩ := p
  cases waiter with
  | caller tag =>
    have hbuffers : (h.buffers.mapIdx fun i b =>
        (own i [(.caller tag, reply)]).foldl Buffer.receive b) = h.buffers :=
      mapIdx_eq_self fun _ _ _ => rfl
    rw [hbuffers]
    simp [tell, failure?]
  | buffer j reports =>
    have hown : (fun (i : Nat) (b : Buffer) =>
        (own i [(.buffer j reports, reply)]).foldl Buffer.receive b) =
          fun i b => if j = i then b.receive reply else b := by
      funext i b
      by_cases hij : j = i <;> simp [own, hij]
    rw [hown]
    exact applyReply_eq h j reports reply

theorem own_cons (i : Nat) (p : Waiter × Option Value) (replies : List (Waiter × Option Value)) :
    own i (p :: replies) = own i [p] ++ own i replies := List.filterMap_append (l := [p])

/-- **What replies do:** each buffer receives its own, in order, and failures are reported. -/
theorem deliver_eq (h : Host) (replies : List (Waiter × Option Value)) : h.deliver replies = { h with
    buffers := h.buffers.mapIdx fun i b => (own i replies).foldl Buffer.receive b
    failures := h.failures ++ replies.filterMap h.failure? } := by
  induction replies generalizing h with
  | nil =>
    have hbuffers : (h.buffers.mapIdx fun i b => (own i []).foldl Buffer.receive b) = h.buffers :=
      mapIdx_eq_self fun _ _ _ => rfl
    rw [hbuffers]
    simp [deliver]
  | cons p replies ih =>
    have hcons : h.deliver (p :: replies) = ((h.tell p.1 p.2).2.2).deliver replies := rfl
    have hlabels : (h.tell p.1 p.2).2.2.failure? = h.failure? := by
      refine failure?_of_labels (List.ext_getElem? fun i => ?_)
      rw [tell_eq, List.getElem?_map, List.getElem?_mapIdx, List.getElem?_map, Option.map_map]
      simp only [Function.comp_def, Buffer.label_foldl_receive]
    rw [hcons, ih, hlabels, tell_eq]
    have hbuffers : (fun (i : Nat) (b : Buffer) => (own i (p :: replies)).foldl Buffer.receive b) =
        fun i b => (own i replies).foldl Buffer.receive ((own i [p]).foldl Buffer.receive b) := by
      funext i b
      rw [own_cons, List.foldl_append]
    rw [hbuffers]
    simp only [List.mapIdx_mapIdx, Function.comp_def, List.filterMap_cons, List.append_assoc]
    cases h.failure? p <;> rfl

/-! ## Requests -/

/-- The request to format a buffer. -/
def submission? (h : Host) (d : Dispatcher) (i : Nat) : Option (Submission Waiter) :=
  h.buffers[i]?.map fun b => ⟨d.kind, b.request.payload, .buffer i d.reports⟩

/-- Requests are queued. -/
def queueing (h : Host) (requests : List (Submission Waiter)) : Host :=
  { h with connection := { h.connection with queue := h.connection.queue ++ requests } }

theorem formatBuffer_eq (h : Host) {d : Dispatcher} (hd : d.channel = .handle .connection)
    (hopen : h.connection.isClosed = false) (i : Nat) :
    (h.formatBuffer d i).2.2 = h.queueing (h.submission? d i).toList := by
  unfold formatBuffer submission? queueing
  cases h.buffers[i]? with
  | none => simp
  | some b =>
    simp [hd, sendOver, Connection.send, Connection.submit, hopen, moved, performAll]

/-- **Formatting buffers over an open connection only queues their requests, in order.** -/
theorem formatBuffers_eq (h : Host) {d : Dispatcher} (hd : d.channel = .handle .connection)
    (hopen : h.connection.isClosed = false) (indices : List Nat) :
    (h.formatBuffers d indices).2.2 = h.queueing (indices.filterMap (h.submission? d)) := by
  induction indices generalizing h with
  | nil => simp [formatBuffers, queueing]
  | cons i indices ih =>
    have hone := formatBuffer_eq h hd hopen i
    have hrest : (h.formatBuffers d (i :: indices)).2.2 =
        ((h.formatBuffer d i).2.2.formatBuffers d indices).2.2 := rfl
    rw [hrest, hone, ih (h.queueing (h.submission? d i).toList) hopen]
    have hsame : (h.queueing (h.submission? d i).toList).submission? d = h.submission? d := rfl
    rw [hsame, List.filterMap_cons]
    cases h.submission? d i <;> simp [queueing]

theorem formatSelection_eq (h : Host) {d : Dispatcher} (hd : d.channel = .handle .connection)
    (hopen : h.connection.isClosed = false) :
    (h.formatSelection d).2.2 = h.queueing (h.selection.filterMap (h.submission? d)) := by
  unfold formatSelection
  split
  · rename_i hempty
    rw [List.isEmpty_iff.1 hempty, List.filterMap_nil, queueing, List.append_nil]
  · exact formatBuffers_eq h hd hopen h.selection

end Host

end FormatBridge
