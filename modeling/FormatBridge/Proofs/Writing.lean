import FormatBridge.Proofs.Steps

set_option autoImplicit false

/-! # What a connection writes

The line of a request is handed to the writer when the request is taken up, and the writer writes
what it was handed in order. So the bytes that were written and those that are still to be written
are together the lines of the requests that were taken up (`Sent`), however the peer takes them. -/

namespace FormatBridge

variable {κ : Type}

/-- The bytes that are written, in order. -/
def Effect.written (effects : List (Effect κ)) : Bytes :=
  effects.flatMap fun
    | .wrote bytes => bytes
    | _ => []

/-- The bytes that were written, in order. -/
def History.written (h : History κ) : Bytes := Effect.written h.effects

/-- The message that was sent for a request. -/
def Taken.message (session : String) (r : Taken κ) : Message :=
  .request r.id r.request.kind session r.request.payload

/-- Whether what was written and what is still to be written are the lines of the requests that were
    taken up. -/
def Sent (session : String) (c : Connection κ) (h : History κ) : Prop :=
  h.written ++ c.writer.unsent = (h.taken.map (·.message session)).flatMap Message.line

theorem Effect.written_append (a b : List (Effect κ)) :
    Effect.written (a ++ b) = Effect.written a ++ Effect.written b := List.flatMap_append

theorem Effect.written_eq_nil {effects : List (Effect κ)}
    (h : ∀ bytes, .wrote bytes ∉ effects) : Effect.written effects = [] := by
  refine List.flatMap_eq_nil_iff.2 ?_
  intro e he
  cases e with
  | wrote bytes => exact absurd he (h bytes)
  | _ => rfl

@[simp]
theorem History.written_did (h : History κ) (effects : List (Effect κ)) :
    (h.did effects).written = h.written ++ Effect.written effects :=
  Effect.written_append h.effects effects

/-- Whoever is told and forgotten when a connection fails, nothing is written. -/
theorem Connection.wrote_not_mem_farewell (c : Connection κ) (bytes : Bytes) :
    .wrote bytes ∉ c.farewell := by
  intro h
  rcases mem_farewell h with h | ⟨waiter, h⟩ | ⟨waiter, h⟩ <;> contradiction

/-- The bytes that a step of a writer writes. -/
def Writer.Step.bytes : Writer.Step → Bytes
  | .wrote bytes => bytes
  | .finished | .failed _ => []

/-- What a step writes is taken off what is still to be written. -/
theorem Writer.unsent_step {w w' : Writer} {o o' : Outlet} {s : Writer.Step}
    (h : w.step o = some (s, w', o')) : s.bytes ++ w'.unsent = w.unsent := by
  rcases step_cases h with ⟨-, -, rfl, -, rfl⟩ | ⟨-, -, rfl, -, rfl⟩ | ⟨-, -, n, -, -, rfl, -, rfl⟩
  · split <;> rfl
  · rfl
  · exact List.take_append_drop n w.unsent

namespace Sent

variable {session : String} {c c' : Connection κ} {h h' : History κ}

theorem of_same (hs : Sent session c h) (htaken : h'.taken = h.taken) (bytes : Bytes)
    (hwritten : h'.written = h.written ++ bytes)
    (hunsent : bytes ++ c'.writer.unsent = c.writer.unsent) : Sent session c' h' := by
  rw [Sent, htaken, hwritten, List.append_assoc, hunsent]
  exact hs

/-- What writes nothing keeps it. -/
theorem of_silent (hs : Sent session c h) (htaken : h'.taken = h.taken)
    {effects : List (Effect κ)} (heffects : h'.effects = h.effects ++ effects)
    (hnone : ∀ bytes, .wrote bytes ∉ effects) (hunsent : c'.writer.unsent = c.writer.unsent) :
    Sent session c' h' := by
  refine hs.of_same htaken [] ?_ hunsent
  rw [History.written, heffects, Effect.written_append, Effect.written_eq_nil hnone]
  rfl

/-- **Every move keeps it.** -/
theorem advance (hs : Sent session c h) {m : Move κ} (ha : Advance session c h m c' h') :
    Sent session c' h' := by
  cases ha with
  | @take s rest hrun haccepting hqueue ids =>
    -- the new line stands behind all that was handed to the writer before
    refine (congrArg (· ++ _) ((History.written_did h _).trans (List.append_nil _))).trans ?_
    rw [List.map_append, List.flatMap_append, ← hs]
    simp [Writer.push, Taken.message, Submission.message]
  | write hrun hstep =>
    exact hs.of_same rfl _ (by simp [Effect.written, Writer.Step.bytes]) (Writer.unsent_step hstep)
  | flush hdrain hstep =>
    exact hs.of_same rfl _ (by simp [Effect.written, Writer.Step.bytes]) (Writer.unsent_step hstep)
  | fail hrun hfails writing => exact hs.of_silent rfl rfl c.wrote_not_mem_farewell rfl
  | _ => exact hs.of_silent rfl rfl (by simp) rfl

theorem make (hs : Sent session c h) (hl : Ledger session c h) {m : Move κ}
    (hm : c.next? = some m) : Sent session (c.make m).2 (h.after c m) := hs.advance (.of_next hl hm)

theorem aside (hs : Sent session c h) (ha : Aside c h c' h') : Sent session c' h' := by
  obtain ⟨waiters, heffects⟩ := ha.effects
  exact hs.of_silent ha.taken heffects (by simp) (by rw [ha.writer])

/-- It holds in every state of every run. -/
theorem kept (session : String) : Kept session (@Sent κ session) :=
  ⟨fun _ => rfl, aside, fun _ hs ha => hs.advance ha⟩

end Sent

end FormatBridge
