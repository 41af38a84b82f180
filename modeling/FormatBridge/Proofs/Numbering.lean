import FormatBridge.Proofs.Backpressure
import Mathlib.Data.List.Induction
import Mathlib.Data.List.Nodup

set_option autoImplicit false

/-! # An id names its session and its number

An id is a session, an underscore and a number, and although the session may hold underscores and
digits of its own there is only one way to read it: the number starts behind the last underscore
(`requestId_eq_iff`).

A `Codec` is what a session keeps for its side of the conversation: where its ids come from, and how
far the stream of replies is read. However numbering, writing and reading are mixed, the ids come
out in order from 0 (`Numbered.run`). A connection does nothing else with its codec: to take a
request up is to number it and write it, to read is to read, and in its other moves it leaves the
codec alone (`Employs.make`). So its requests have the ids of such a codec. -/

namespace FormatBridge

variable {κ : Type}

/-! ## Reading an id -/

/-- A number is written without an underscore. -/
theorem underscore_not_mem_digits (n : Nat) : '_' ∉ Nat.toDigits 10 n := by
  intro hmem
  have hdigit := Nat.isDigit_of_mem_toDigits (by decide) (by decide) hmem
  contradiction

/-- A text is cut at its last separator in one way only. -/
theorem last_split_unique {α : Type} {separator : α} {a b front back : List α}
    (ha : separator ∉ a) (hb : separator ∉ b)
    (h : front ++ separator :: a = back ++ separator :: b) : front = back ∧ a = b := by
  rcases List.append_eq_append_iff.1 h with ⟨more, hback, hrest⟩ | ⟨more, hfront, hrest⟩
  · -- what the longer front has behind the shorter one would stand behind the last separator
    cases more with
    | nil => exact ⟨by simpa using hback.symm, (List.cons.inj hrest).2⟩
    | cons c more =>
      rw [(List.cons.inj hrest).2] at ha
      exact absurd (List.mem_append_right _ (List.mem_cons_self ..)) ha
  · cases more with
    | nil => exact ⟨by simpa using hfront, (List.cons.inj hrest).2.symm⟩
    | cons c more =>
      rw [(List.cons.inj hrest).2] at hb
      exact absurd (List.mem_append_right _ (List.mem_cons_self ..)) hb

theorem toList_requestId (session : String) (n : Nat) :
    (requestId session n).toList = session.toList ++ '_' :: Nat.toDigits 10 n := by
  simp [requestId]

/-- **Ids are the same only for the same session and number.** -/
theorem requestId_eq_iff {s t : String} {m n : Nat} :
    requestId s m = requestId t n ↔ s = t ∧ m = n := by
  constructor
  · intro h
    have htext := congrArg String.toList h
    rw [toList_requestId, toList_requestId] at htext
    obtain ⟨hsession, -⟩ := last_split_unique (underscore_not_mem_digits m)
      (underscore_not_mem_digits n) htext
    obtain rfl := String.toList_inj.1 hsession
    exact ⟨rfl, requestId_inj.1 h⟩
  · rintro ⟨rfl, rfl⟩
    rfl

/-- Sessions that differ have no id in common. -/
theorem disjoint_requestIds {s t : String} (hne : s ≠ t) (numbers more : List Nat) :
    (numbers.map (requestId s)).Disjoint (more.map (requestId t)) := by
  intro id hmem hother
  obtain ⟨m, -, rfl⟩ := List.mem_map.1 hmem
  obtain ⟨n, -, hsame⟩ := List.mem_map.1 hother
  exact hne (requestId_eq_iff.1 hsame).1.symm

/-! ## What a session keeps -/

/-- What a session keeps for its side of the conversation. -/
structure Codec where
  ids : IdSource
  /-- How far the stream of replies is read. -/
  reader : LineReader
  deriving DecidableEq, Repr

namespace Codec

/-- The codec of a new session. -/
def ofSession (session : String) : Codec := ⟨.ofSession session, .empty⟩

/-- The codec once the peer has done something. -/
def hear (c : Codec) : PeerEvent → Codec
  | .feed bytes => { c with reader := c.reader.feed bytes }
  | .endInput => { c with reader := c.reader.finish }
  | .failInput error => { c with reader := c.reader.fail error }
  | .widen _ | .breakOutput | .failShutdown => c

/-- What is done with a codec. -/
inductive Use where
  /-- The next request is given an id. -/
  | number
  | write (m : Message)
  /-- Reading makes a step, unless it has to wait. Whoever asks for a message lets it make steps, and
      may give up behind any of them. -/
  | read
  | peer (event : PeerEvent)

/-- Whether an id is asked for. -/
def Use.asks : Use → Bool
  | .number => true
  | .write _ | .read | .peer _ => false

/-- How many ids are asked for. -/
def asked (uses : List Use) : Nat := uses.countP Use.asks

/-- A codec with what it has given so far. -/
structure Usage where
  codec : Codec
  /-- The ids that were given out, in order. -/
  ids : List String
  /-- What each step of reading gave, in order. -/
  readings : List LineReader.Reading
  /-- The bytes that were written, in order. -/
  written : Bytes

/-- A codec after another use. -/
def Usage.meet (u : Usage) : Use → Usage
  | .number =>
    let (id, ids) := u.codec.ids.take
    { u with codec := { u.codec with ids := ids }, ids := u.ids ++ [id] }
  | .write m => { u with written := u.written ++ m.line }
  | .read =>
    match u.codec.reader.step with
    | none => u
    | some (x, reader) =>
      { u with codec := { u.codec with reader := reader }, readings := u.readings ++ [x] }
  | .peer e => { u with codec := u.codec.hear e }

/-- The codec of a new session after some uses. -/
def run (session : String) (uses : List Use) : Usage :=
  uses.foldl Usage.meet ⟨ofSession session, [], [], []⟩

theorem run_append (session : String) (uses more : List Use) :
    run session (uses ++ more) = more.foldl Usage.meet (run session uses) := List.foldl_append

theorem asked_append (uses more : List Use) : asked (uses ++ more) = asked uses + asked more :=
  List.countP_append

/-! ## Ids come in order -/

/-- Whether a codec has numbered `n` requests of a session. Behind the greatest number of the
    counter the numbers start again. -/
structure Numbered (session : String) (n : Nat) (u : Usage) : Prop where
  source : u.codec.ids = ⟨session, ⟨n % Counter.size⟩⟩
  ids : u.ids = ((List.range n).map (· % Counter.size)).map (requestId session)

namespace Numbered

variable {session : String} {n : Nat} {u : Usage}

/-- What asks for no id gives none. -/
theorem of_same (hn : Numbered session n u) {v : Usage} (hsource : v.codec.ids = u.codec.ids)
    (hids : v.ids = u.ids) : Numbered session n v :=
  ⟨hsource.trans hn.source, hids.trans hn.ids⟩

/-- Another request is given the next number. -/
theorem number (hn : Numbered session n u) : Numbered session (n + 1) (u.meet .number) := by
  have htake : u.codec.ids.take =
      (requestId session (n % Counter.size), ⟨session, ⟨(n + 1) % Counter.size⟩⟩) := by
    rw [hn.source, IdSource.take, Counter.take, Nat.mod_add_mod]
  constructor
  · simp only [Usage.meet, htake]
  · simp only [Usage.meet, htake, hn.ids, List.range_succ, List.map_append, List.map_singleton]

/-- **A use gives the next id or none.** -/
theorem meet (hn : Numbered session n u) (use : Use) :
    Numbered session (n + asked [use]) (u.meet use) := by
  cases use with
  | number => exact hn.number
  | write m => exact hn.of_same rfl rfl
  | read =>
    simp only [Usage.meet]
    split
    · exact hn
    · exact hn.of_same rfl rfl
  | peer e => exact hn.of_same (by cases e <;> rfl) rfl

/-- **However numbering is mixed with writing and reading, the ids come in order.** -/
theorem run (session : String) (uses : List Use) :
    Numbered session (asked uses) (Codec.run session uses) := by
  induction uses using List.reverseRecOn with
  | nil => exact ⟨rfl, rfl⟩
  | append_singleton uses use ih =>
    rw [asked_append, run_append]
    exact ih.meet use

/-- Until the counter starts again, the numbers are those from 0. -/
theorem ids_eq (hn : Numbered session n u) (hfew : n < Counter.size) :
    u.ids = (List.range n).map (requestId session) := by
  have hsmall : ∀ k ∈ List.range n, k % Counter.size = k := fun k hk =>
    Nat.mod_eq_of_lt (Nat.lt_trans (List.mem_range.1 hk) hfew)
  rw [hn.ids, List.map_congr_left hsmall, List.map_id']

end Numbered

end Codec

/-! ## What a connection does with its codec -/

namespace Connection

/-- The codec of a connection. -/
def codec (c : Connection κ) : Codec := ⟨c.ids, c.reader⟩

/-- What a connection does with its codec in a move: a request that is taken up is given an id, and
    is written if anything can be. -/
def uses (c : Connection κ) : Move κ → List Codec.Use
  | .take s _ =>
    .number ::
      if c.writing then [.write (.request c.ids.take.1 s.kind c.ids.take.2.session s.payload)]
      else []
  | .read .. => [.read]
  | .stop | .seal | .write .. | .drain .. => []

theorem codec_leave (c : Connection κ) (result : Except TransportError Unit) :
    (c.leave result).2.codec = c.codec := by
  obtain ⟨_, _, inFlight, _, writing, _, _, _, _, _⟩ := c
  cases inFlight <;> cases result <;> cases writing <;> rfl

theorem codec_take (c : Connection κ) (s : Submission κ) (rest : List (Submission κ)) :
    (c.take s rest).2.codec = { c.codec with ids := c.ids.take.2 } := by
  obtain ⟨_, _, _, _, writing, _, _, _, _, _⟩ := c
  cases writing <;> rfl

theorem codec_read (c : Connection κ) (x : LineReader.Reading) (reader : LineReader) :
    (c.make (.read x reader)).2.codec = { c.codec with reader := reader } := by
  cases x with
  | failed error => exact codec_leave { c with reader := reader } (.error (.io error))
  | ended => exact codec_leave { c with reader := reader } _
  | message m =>
    simp only [make, afterRead, route]
    split
    · rfl
    · split <;> rfl
  | _ => rfl

/-- What asks for no id and reads nothing leaves the codec as it is. -/
theorem codec_make (c : Connection κ) {m : Move κ} (htake : ∀ s rest, m ≠ .take s rest)
    (hread : ∀ x reader, m ≠ .read x reader) : (c.make m).2.codec = c.codec := by
  cases m with
  | stop => exact c.codec_leave (.ok ())
  | take s rest => exact absurd rfl (htake s rest)
  | «seal» => rfl
  | write step writer outlet =>
    cases step with
    | failed error =>
      exact codec_leave { c with writer := writer, outlet := outlet, writing := false }
        (.error (.io error))
    | _ => rfl
  | drain step writer outlet => cases step <;> rfl
  | read x reader => exact absurd rfl (hread x reader)

theorem written_afterWrite (c : Connection κ) (step : Writer.Step) (writer : Writer)
    (outlet : Outlet) : Effect.written (c.afterWrite step writer outlet).1 = step.bytes ∧
      (c.afterWrite step writer outlet).2.writer.unsent = writer.unsent := by
  cases step with
  | wrote bytes => exact ⟨List.append_nil bytes, rfl⟩
  | finished => exact ⟨rfl, rfl⟩
  | failed error =>
    have hquiet := leave_quiet { c with writer := writer, outlet := outlet, writing := false }
      (.error (.io error))
    have hinner := leave_inner { c with writer := writer, outlet := outlet, writing := false }
      (.error (.io error))
    exact ⟨hquiet.1, hinner.2.2⟩

theorem written_afterDrain (c : Connection κ) (step : Writer.Step) (writer : Writer)
    (outlet : Outlet) : Effect.written (c.afterDrain step writer outlet).1 = step.bytes ∧
      (c.afterDrain step writer outlet).2.writer.unsent = writer.unsent := by
  cases step with
  | wrote bytes => exact ⟨List.append_nil bytes, rfl⟩
  | finished => exact ⟨Effect.written_eq_nil (by simp [afterDrain, conclude]), rfl⟩
  | failed error => exact ⟨Effect.written_eq_nil (by simp [afterDrain, conclude]), rfl⟩

/-- What is written in a move and what is still to be written then is what was to be written before
    and what is handed to the writer in the move. -/
theorem handed_make {c : Connection κ} {m : Move κ} (hm : c.next? = some m) :
    Effect.written (c.make m).1 ++ (c.make m).2.writer.unsent =
      c.writer.unsent ++ c.handed m := by
  cases hwrites : m.writes with
  | false =>
    rw [c.written_make hwrites, (c.make_inner hwrites).2.2]
    rfl
  | true =>
    cases chosen_of_next hm with
    | @write step writer outlet hrun hbusy hsettled hwriting hstep =>
      obtain ⟨hwritten, hunsent⟩ := c.written_afterWrite step writer outlet
      rw [make, hwritten, hunsent, handed, List.append_nil]
      exact Writer.unsent_step hstep
    | @drain step writer outlet hdrain hstep =>
      obtain ⟨hwritten, hunsent⟩ := c.written_afterDrain step writer outlet
      rw [make, hwritten, hunsent, handed, List.append_nil]
      exact Writer.unsent_step hstep
    | _ => contradiction

end Connection

/-- A connection with its history, and a codec with what it has given, that are in step. -/
structure Employs (c : Connection κ) (h : History κ) (u : Codec.Usage) : Prop where
  codec : c.codec = u.codec
  /-- The requests that were taken up have the ids that were given out. -/
  ids : h.taken.map (·.id) = u.ids
  messages : h.messages = u.readings.filterMap LineReader.Reading.message?
  /-- What was handed to the writer is what was written. -/
  written : h.written ++ c.writer.unsent = u.written

namespace Employs

variable {c c' : Connection κ} {h h' : History κ} {u : Codec.Usage}

theorem start (session : String) (outlet : Outlet) :
    Employs (.start session outlet : Connection κ) .empty (Codec.run session []) :=
  ⟨rfl, rfl, rfl, rfl⟩

/-- What is handed to the writer in a move is added to what was written. -/
theorem written_after (he : Employs c h u) {m : Move κ} (hm : c.next? = some m) :
    (h.after c m).written ++ (c.make m).2.writer.unsent = u.written ++ c.handed m := by
  rw [History.written_after, List.append_assoc, Connection.handed_make hm, ← List.append_assoc,
    he.written]

/-- A request that is taken up is given an id, and is written if anything can be. -/
theorem take (he : Employs c h u) {s : Submission κ} {rest : List (Submission κ)}
    (hm : c.next? = some (.take s rest)) :
    Employs (c.make (.take s rest)).2 (h.after c (.take s rest))
      ((c.uses (.take s rest)).foldl Codec.Usage.meet u) := by
  have hids : u.codec.ids = c.ids := congrArg Codec.ids he.codec.symm
  have huses : (c.uses (.take s rest)).foldl Codec.Usage.meet u =
      { u with
        codec := { u.codec with ids := c.ids.take.2 }
        ids := u.ids ++ [c.ids.take.1]
        written := u.written ++ c.handed (.take s rest) } := by
    simp only [Connection.uses, Connection.handed]
    split <;> simp [Codec.Usage.meet, hids]
  rw [huses]
  constructor
  · rw [← he.codec]
    exact c.codec_take s rest
  · simp [History.after, he.ids]
  · exact he.messages
  · exact he.written_after hm

/-- What is read is what the codec reads. -/
theorem read (he : Employs c h u) {x : LineReader.Reading} {reader : LineReader}
    (hm : c.next? = some (.read x reader)) :
    Employs (c.make (.read x reader)).2 (h.after c (.read x reader))
      ((c.uses (.read x reader)).foldl Codec.Usage.meet u) := by
  have hstep : c.reader.step = some (x, reader) := by
    cases Connection.chosen_of_next hm with
    | read hrun hbusy hsettled hidle hstep => exact hstep
  have hreader : u.codec.reader = c.reader := congrArg Codec.reader he.codec.symm
  have huses : (c.uses (.read x reader)).foldl Codec.Usage.meet u =
      { u with
        codec := { u.codec with reader := reader }
        readings := u.readings ++ [x] } := by
    simp [Connection.uses, Codec.Usage.meet, hreader, hstep]
  rw [huses]
  constructor
  · rw [← he.codec]
    exact c.codec_read x reader
  · cases x <;> exact he.ids
  · rw [List.filterMap_append, ← he.messages]
    cases x <;> simp [History.after, History.did, LineReader.Reading.message?]
  · exact (he.written_after hm).trans (List.append_nil _)

/-- **In a move a connection uses its codec for nothing but numbering, writing and reading.** -/
theorem make (he : Employs c h u) {m : Move κ} (hm : c.next? = some m) :
    Employs (c.make m).2 (h.after c m) ((c.uses m).foldl Codec.Usage.meet u) := by
  cases m with
  | take s rest => exact he.take hm
  | read x reader => exact he.read hm
  | _ =>
    refine ⟨(c.codec_make (by simp) (by simp)).trans he.codec, he.ids, he.messages, ?_⟩
    exact (he.written_after hm).trans (List.append_nil _)

/-- What happens outside numbers, writes and reads nothing. -/
theorem aside (he : Employs c h u) (ha : Aside c h c' h') {codec : Codec}
    (hcodec : c'.codec = codec) : Employs c' h' { u with codec := codec } := by
  refine ⟨hcodec, ?_, ha.messages.trans he.messages, ?_⟩
  · rw [ha.taken]
    exact he.ids
  · rw [ha.written, ha.writer]
    exact he.written

end Employs

namespace Traffic

/-- Of what happens outside, the codec meets only what the peer does. -/
theorem codec_meet (t : Traffic κ) {e : Event κ} (hpeer : ∀ p, e ≠ .peer p) (hturn : e ≠ .turn) :
    (t.meet e).connection.codec = t.connection.codec := by
  obtain ⟨queue, connected, heq⟩ := t.connection_meet hpeer hturn
  rw [heq]
  rfl

theorem employs_meet {t : Traffic κ} {u : Codec.Usage} (he : Employs t.connection t.history u)
    (e : Event κ) : ∃ uses : List Codec.Use,
      Employs (t.meet e).connection (t.meet e).history (uses.foldl Codec.Usage.meet u) := by
  cases e with
  | turn =>
    simp only [meet]
    cases hm : t.connection.next? with
    | none => exact ⟨[], (turn_of_waits hm).symm ▸ he⟩
    | some m =>
      rw [turn_eq hm]
      exact ⟨t.connection.uses m, he.make hm⟩
  | peer p =>
    have hcodec : (t.connection.meet p).codec = u.codec.hear p := by
      rw [← he.codec]
      cases p <;> rfl
    exact ⟨[.peer p], he.aside (t.aside_meet (by simp)) hcodec⟩
  | _ =>
    refine ⟨[], he.aside (t.aside_meet ?_) ((t.codec_meet ?_ ?_).trans he.codec)⟩ <;> simp

/-- **In a whole run a connection uses its codec for nothing but that**, so its requests have the ids
    that a codec gives out. -/
theorem employs_run (session : String) (outlet : Outlet) (script : List (Event κ)) :
    ∃ uses, Employs (run session outlet script).connection (run session outlet script).history
      (Codec.run session uses) := by
  induction script using List.reverseRecOn with
  | nil => exact ⟨[], .start session outlet⟩
  | append_singleton script e ih =>
    obtain ⟨uses, he⟩ := ih
    obtain ⟨more, hmore⟩ := employs_meet he e
    rw [run_append]
    exact ⟨uses ++ more, Codec.run_append session uses more ▸ hmore⟩

end Traffic

/-! ## Ids and sessions -/

/-- **An id names its session and its number.** Whatever the characters of two sessions, their ids
    are the same only if the sessions and the numbers are. The ids that a codec gives out, with any
    writing and reading in between, are numbered from 0 in order as long as the counter does not
    start again, so none comes twice, and none is ever an id of another session. The requests of a
    connection have the ids of such a codec. -/
theorem Codec.ids_name_session_and_number (session : String) (uses : List Use)
    (hfew : asked uses < Counter.size) :
    let ids := (run session uses).ids
    (∀ (s t : String) (m n : Nat), requestId s m = requestId t n → s = t ∧ m = n) ∧
      ids = (List.range (asked uses)).map (requestId session) ∧
      ids.Nodup ∧
      (∀ other, other ≠ session → ∀ more, ids.Disjoint (run other more).ids) ∧
      ∀ (outlet : Outlet) (script : List (Event κ)), ∃ more,
        Employs (Traffic.run session outlet script).connection
          (Traffic.run session outlet script).history (run session more) := by
  intro ids
  have hids : ids = (List.range (asked uses)).map (requestId session) :=
    (Numbered.run session uses).ids_eq hfew
  refine ⟨fun s t m n h => requestId_eq_iff.1 h, hids, ?_, ?_, Traffic.employs_run session⟩
  · rw [hids]
    exact List.nodup_range.map fun m n h => (requestId_eq_iff.1 h).2
  · intro other hother more
    rw [hids, (Numbered.run other more).ids]
    exact disjoint_requestIds hother.symm _ _

/-- The ids of the session `a_1` look like those of the session `a`, but none of them is one. -/
theorem Codec.ids_name_session_and_number_underscores :
    let uses : List Use := [.number, .peer (.feed [0x20, 0x0A, 0x7B]), .read, .number,
      .write (.request "a_1_0" "k" "a_1" .null), .read, .peer .endInput, .number]
    asked uses < Counter.size ∧ (run "a_1" uses).ids = ["a_1_0", "a_1_1", "a_1_2"] ∧
      (run "a_1" uses).readings.length = 2 ∧
      ∀ more, (run "a_1" uses).ids.Disjoint (run "a" more).ids := by
  intro uses
  have hfew : asked uses < Counter.size := by decide
  obtain ⟨-, hids, -, hother, -⟩ := @ids_name_session_and_number Unit "a_1" uses hfew
  refine ⟨hfew, ?_, by decide +kernel, hother "a" (by decide)⟩
  rw [hids]
  cbv

end FormatBridge
