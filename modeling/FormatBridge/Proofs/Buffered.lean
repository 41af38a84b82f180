import FormatBridge.Proofs.LineReading
import FormatBridge.Proofs.Stepwise

set_option autoImplicit false

/-! # A connection that reads through a buffer

A `Buffered` run is one whose connection sees nothing of its stream but a buffer of a fixed size,
which it fills when it has read all of it. Filling the buffer makes for more moves, between which
requests are taken up and written, but until the connection waits again it has done the same as
without a buffer (`Buffered.plain_settle`). -/

namespace FormatBridge

variable {κ : Type}

namespace Traffic

/-! ## Reading whole lines -/

/-- To read a part of a line is to do nothing. -/
theorem read_nothing (t : Traffic κ) : t.read .nothing = t.withReader .empty := by
  have hhistory : t.history.did [] = t.history := by rw [History.did, List.append_nil]
  exact congrArg (fun history => { t.withReader .empty with history }) hhistory

/-- **A connection that can only read** goes on to the next thing that is to be read, or waits. -/
theorem settle_call {t : Traffic κ} (hidle : t.connection.idle.next? = none)
    (hrun : t.connection.phase = .running) (r : LineReader) : (t.withReader r).settle =
      match r.call with
      | (none, r) => t.withReader r
      | (some x, r) => ((t.read x).withReader r).settle := by
  fun_induction LineReader.call r with
  | case1 r hstep =>
    refine settle_of_waits ?_
    rw [Connection.next?_of_none (c := (t.withReader r).connection) hidle]
    have hread : (t.withReader r).connection.read? = none := Option.map_eq_none_iff.2 hstep
    rw [hread, ite_self]
  | case2 r r' hstep ih =>
    rw [← settle_turn, turn_of_read hidle hrun hstep, read_nothing]
    exact ih
  | case3 r x r' hx hstep =>
    rw [← settle_turn, turn_of_read hidle hrun hstep]

end Traffic

/-- A run whose connection reads through a buffer. -/
structure Buffered (κ : Type) where
  /-- The run, apart from its connection's reader. -/
  traffic : Traffic κ
  reader : BufferedReader

namespace Buffered

/-- A new connection with one handle. -/
def start (session : String) (outlet : Outlet) : Buffered κ := ⟨.start session outlet, .empty⟩

/-- The same run without the buffer. -/
def plain (b : Buffered κ) : Traffic κ := b.traffic.withReader b.reader.plain

/-- A run behind the next move of its connection, if it has one: what it can do without its reader,
    or else a step of reading through a buffer with room for `size` bytes. -/
def next? (size : Nat) (b : Buffered κ) : Option (Buffered κ) :=
  match b.traffic.connection.idle.next? with
  | some _ => some { b with traffic := (b.traffic.withReader .empty).turn }
  | none =>
    if b.traffic.connection.isRunning then
      (b.reader.step size).map fun (x, reader) => ⟨b.traffic.read x, reader⟩
    else none

/-- The connection makes its next move, if it has one. -/
def turn (size : Nat) (b : Buffered κ) : Buffered κ := (b.next? size).getD b

/-- A run after another event. -/
def meet (size : Nat) (b : Buffered κ) : Event κ → Buffered κ
  | .peer (.feed bytes) => { b with reader.source := b.reader.source.feed bytes }
  | .peer .endInput => { b with reader.source := b.reader.source.finish }
  | .peer (.failInput error) => { b with reader.source := b.reader.source.fail error }
  | .turn => b.turn size
  | e => { b with traffic := b.traffic.meet e }

/-- A move is one without a buffer, or else a step of reading. -/
theorem next?_cases {size : Nat} {b b' : Buffered κ} (h : b.next? size = some b') :
    (∃ m, b.plain.connection.next? = some m ∧ b'.plain = b.plain.turn) ∨
    (b.traffic.connection.idle.next? = none ∧ b.traffic.connection.phase = .running ∧
      ∃ x reader, b.reader.step size = some (x, reader) ∧ b' = ⟨b.traffic.read x, reader⟩) := by
  unfold next? at h
  split at h
  · rename_i m hidle
    obtain rfl := Option.some.inj h
    exact .inl ⟨m, Connection.next?_of_some hidle,
      (Traffic.turn_of_some (t := b.traffic.withReader .empty) hidle b.reader.plain).symm⟩
  · rename_i hidle
    split at h
    · rename_i hrun
      obtain ⟨⟨x, reader⟩, hstep, rfl⟩ := Option.map_eq_some_iff.1 h
      exact .inr ⟨hidle, Connection.isRunning_iff.1 hrun, x, reader, hstep, rfl⟩
    · contradiction

/-- Every move comes closer to the end. -/
theorem less_next? {size : Nat} {b b' : Buffered κ} (h : b.next? size = some b') :
    Connection.Less b'.plain.connection.work b.plain.connection.work := by
  rcases next?_cases h with ⟨m, hnext, hplain⟩ | ⟨-, hrun, x, reader, hstep, rfl⟩
  · rw [hplain, Traffic.turn_eq hnext]
    exact Connection.less_make hnext
  · have hmade : (plain ⟨b.traffic.read x, reader⟩).connection =
        (b.plain.connection.afterRead x reader.plain).2 :=
      (congrArg Prod.snd (b.traffic.connection.make_read b.reader.plain x reader.plain)).symm
    rw [hmade]
    exact Connection.less_afterRead (c := b.plain.connection) hrun (BufferedReader.size_step hstep)

/-- The connection makes moves until none is possible. -/
def settle (size : Nat) (b : Buffered κ) : Buffered κ :=
  match _h : b.next? size with
  | none => b
  | some b' => b'.settle size
  termination_by b.plain.connection.work
  decreasing_by exact less_next? _h

/-! ## The buffer makes no difference -/

variable {size : Nat}

/-- What the connection will have done when it waits does not change in a move. -/
theorem settle_next? (hsize : 0 < size) {b b' : Buffered κ} (h : b.next? size = some b') :
    b'.plain.settle = b.plain.settle := by
  rcases next?_cases h with ⟨m, hnext, hplain⟩ | ⟨hidle, hrun, x, reader, hstep, rfl⟩
  · rw [hplain, Traffic.settle_turn]
  · rcases BufferedReader.step_plain hsize hstep with hplain | ⟨rfl, hcall⟩
    · have hturn : b.plain.turn = plain ⟨b.traffic.read x, reader⟩ :=
        Traffic.turn_of_read hidle hrun hplain
      rw [← hturn, Traffic.settle_turn]
    · -- a part of a line is read, which makes no difference to what is read next
      have hafter : plain ⟨b.traffic.read .nothing, reader⟩ = b.traffic.withReader reader.plain := by
        rw [plain, Traffic.read_nothing]
        rfl
      rw [hafter, plain, Traffic.settle_call hidle hrun, Traffic.settle_call hidle hrun, hcall]

/-- What happens outside is the same without a buffer. -/
theorem plain_meet (size : Nat) (b : Buffered κ) {e : Event κ} (he : e ≠ .turn) :
    (b.meet size e).plain = b.plain.meet e := by
  cases e with
  | turn => exact absurd rfl he
  | peer p =>
    cases p with
    | feed bytes =>
      simp [meet, plain, BufferedReader.plain, Traffic.meet, Traffic.withReader, Connection.meet,
        Connection.feed, Connection.withReader, LineReader.feed, Inbound.feed]
    | _ => rfl
  | _ => exact (b.traffic.meet_withReader b.reader.plain (by simp) (by simp)).symm

/-- Where a connection waits, it would wait without a buffer. -/
theorem waits_plain (hsize : 0 < size) {b : Buffered κ} (h : b.next? size = none) :
    b.plain.connection.next? = none := by
  unfold next? at h
  split at h
  · contradiction
  · rename_i hidle
    rw [Connection.next?_of_none (c := b.plain.connection) hidle]
    split at h
    · have hnone := BufferedReader.step_plain_none hsize (Option.map_eq_none_iff.1 h)
      have hread : b.plain.connection.read? = none := Option.map_eq_none_iff.2 hnone
      rw [hread, ite_self]
    · rename_i hstop
      exact if_neg hstop

/-- **Reading through a buffer of any size**, a connection does until it waits what it does without
    a buffer. -/
theorem plain_settle (hsize : 0 < size) (b : Buffered κ) :
    (b.settle size).plain = b.plain.settle := by
  fun_induction settle size b with
  | case1 b h => rw [Traffic.settle_of_waits (waits_plain hsize h)]
  | case2 b b' h ih => rw [ih, settle_next? hsize h]

end Buffered

end FormatBridge
