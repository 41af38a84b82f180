import FormatBridge.Text.Utf8

set_option autoImplicit false

/-! # Writing to a peer that takes bytes at its own pace

A `Writer` holds the bytes that were handed to it and have not been written. It writes as many of
them as the peer takes; once nothing more will be handed to it, it ends by shutting the output
down. An `Outlet` is the peer's side of the output. -/

namespace FormatBridge

/-- How the peer takes what is written to it. -/
structure Outlet where
  /-- How many more bytes it takes; `none` when there is no limit. -/
  window : Option Nat
  broken : Bool
  shutdownFails : Bool
  deriving DecidableEq, Repr, Inhabited

namespace Outlet

/-- A peer that takes everything. -/
def unlimited : Outlet := ⟨none, false, false⟩

/-- How many of `n` bytes the peer takes. -/
def takes (o : Outlet) (n : Nat) : Nat :=
  match o.window with
  | none => n
  | some w => min w n

/-- The peer after it has taken `n` bytes. -/
def afterTaking (o : Outlet) (n : Nat) : Outlet := { o with window := o.window.map (· - n) }

/-- The peer takes `n` more bytes, or any number from now on. Without a limit there is nothing to
    extend. -/
def widen (o : Outlet) : Option Nat → Outlet
  | none => { o with window := none }
  | some n => { o with window := o.window.map (· + n) }

end Outlet

/-- The text of a failed write. -/
def brokenText : String := "output broken"

/-- The text of a failed shutdown. -/
def shutdownText : String := "shutdown failed"

/-- The bytes on their way out. -/
structure Writer where
  /-- What was handed over and not written, in order. -/
  unsent : Bytes
  /-- Whether nothing more will be handed over. -/
  closed : Bool
  deriving DecidableEq, Repr, Inhabited

namespace Writer

/-- A writer with nothing to write yet. -/
def empty : Writer := ⟨[], false⟩

/-- Hands over a line. -/
def push (w : Writer) (line : Bytes) : Writer := { w with unsent := w.unsent ++ line }

/-- One step of writing. -/
inductive Step where
  | wrote (bytes : Bytes)
  /-- All was written and the output was shut down. -/
  | finished
  /-- Writing or shutting down failed with this text. -/
  | failed (error : String)
  deriving DecidableEq, Repr

/-- Writes what the peer takes, or ends; `none` when there is nothing to do but wait for the peer
    or for another line. -/
def step (w : Writer) (o : Outlet) : Option (Step × Writer × Outlet) :=
  if w.unsent.isEmpty then
    if !w.closed then none
    else if o.shutdownFails then some (.failed shutdownText, w, o)
    else some (.finished, w, o)
  else if o.broken then some (.failed brokenText, w, o)
  else
    let n := o.takes w.unsent.length
    if n = 0 then none
    else
      some (.wrote (w.unsent.take n), { w with unsent := w.unsent.drop n }, o.afterTaking n)

/-- What a step can be: the end, a failed write, or a write of some of the bytes. -/
theorem step_cases {w w' : Writer} {o o' : Outlet} {s : Step} (h : w.step o = some (s, w', o')) :
    (w.unsent = [] ∧ w.closed = true ∧ w' = w ∧ o' = o ∧
      s = if o.shutdownFails then .failed shutdownText else .finished) ∨
    (w.unsent ≠ [] ∧ o.broken = true ∧ w' = w ∧ o' = o ∧ s = .failed brokenText) ∨
    (w.unsent ≠ [] ∧ o.broken = false ∧ ∃ n, n = o.takes w.unsent.length ∧ 0 < n ∧
      w' = { w with unsent := w.unsent.drop n } ∧ o' = o.afterTaking n ∧
      s = .wrote (w.unsent.take n)) := by
  unfold step at h
  split at h
  · rename_i hempty
    left
    split at h
    · simp at h
    · rename_i hclosed
      refine ⟨List.isEmpty_iff.1 hempty, by simpa using hclosed, ?_⟩
      split at h <;> simp_all
  rename_i hne
  have hunsent : w.unsent ≠ [] := by simpa using hne
  split at h
  · rename_i hbroken
    simp only [Option.some.injEq, Prod.mk.injEq] at h
    obtain ⟨rfl, rfl, rfl⟩ := h
    exact .inr (.inl ⟨hunsent, hbroken, rfl, rfl, rfl⟩)
  · rename_i hbroken
    dsimp only at h
    split at h
    · simp at h
    · rename_i hn
      simp only [Option.some.injEq, Prod.mk.injEq] at h
      obtain ⟨rfl, rfl, rfl⟩ := h
      exact .inr (.inr ⟨hunsent, by simpa using hbroken, _, rfl, Nat.pos_of_ne_zero hn, rfl, rfl, rfl⟩)

/-- A writer waits for another line, or for the peer. -/
theorem step_eq_none {w : Writer} {o : Outlet} (h : w.step o = none) :
    (w.unsent = [] ∧ w.closed = false) ∨ (w.unsent ≠ [] ∧ o.window = some 0) := by
  unfold step at h
  split at h
  · rename_i hempty
    refine .inl ⟨List.isEmpty_iff.1 hempty, ?_⟩
    cases hclosed : w.closed with
    | false => rfl
    | true => cases hfails : o.shutdownFails <;> simp [hclosed, hfails] at h
  rename_i hne
  have hunsent : w.unsent ≠ [] := by simpa using hne
  split at h
  · simp at h
  · dsimp only at h
    split at h
    · rename_i hn
      have hpos : 0 < w.unsent.length := List.length_pos_iff.2 hunsent
      refine .inr ⟨hunsent, ?_⟩
      unfold Outlet.takes at hn
      cases hwindow : o.window with
      | none =>
        simp only [hwindow] at hn
        omega
      | some n =>
        simp only [hwindow] at hn
        rw [show n = 0 by omega]
    · simp at h

theorem unsent_of_wrote {w w' : Writer} {o o' : Outlet} {s : Bytes}
    (h : w.step o = some (.wrote s, w', o')) : w'.unsent.length < w.unsent.length := by
  rcases step_cases h with ⟨-, -, -, -, hs⟩ | ⟨-, -, -, -, hs⟩ | ⟨hne, -, n, -, hn, rfl, -, -⟩
  · split at hs <;> contradiction
  · contradiction
  · have hpos : 0 < w.unsent.length := List.length_pos_iff.2 hne
    simp only [List.length_drop]
    omega

/-- A step does not decide whether more may be handed over. -/
theorem closed_step {w w' : Writer} {o o' : Outlet} {s : Step}
    (h : w.step o = some (s, w', o')) : w'.closed = w.closed := by
  rcases step_cases h with ⟨-, -, rfl, -⟩ | ⟨-, -, rfl, -⟩ | ⟨-, -, n, -, -, rfl, -⟩ <;> rfl

/-- A writer ends well only when it has nothing left and nothing more will be handed to it. -/
theorem closed_of_finished {w w' : Writer} {o o' : Outlet}
    (h : w.step o = some (.finished, w', o')) : w.closed = true ∧ w.unsent = [] := by
  rcases step_cases h with ⟨hunsent, hclosed, -⟩ | ⟨-, -, -, -, hs⟩ | ⟨-, -, n, -, -, -, -, hs⟩
  · exact ⟨hclosed, hunsent⟩
  · contradiction
  · contradiction

end Writer

end FormatBridge
