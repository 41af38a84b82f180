import FormatBridge.LineReader
import Mathlib.Data.List.DropRight
import Mathlib.Data.List.GetD

set_option autoImplicit false

/-! # Reading does not depend on how the stream is cut

A `LineReader` meets its stream in pieces: chunks of any size, pauses in which a call is given up,
errors after which reading goes on, and a buffer in front of it that may cut the chunks once more.
An error lies between two chunks when it is met before the second arrives.
None of this can be told from what it reads. The results are those of the whole byte sequence
(`outcomes` of its lines), in order, and between two calls the reader keeps exactly the start of the
line that it is in. The errors come between these results, each once and in their order.

`LineReader.call` asks for one message and `BufferedReader.call` does so through a buffer; a call
through a buffer of any size is a call without one (`call_plain`). The invariant `Progress` then
relates a reader to the bytes that have arrived: `Progress.call` says that one call keeps it, and
`Progress.call_eq` what the call gives. That no error is lost is an account of its own, of those
that were met and those still in store (`errors_readAll`). -/

namespace FormatBridge

open Message (lineFeed)

namespace LineReader

/-! ## One step, by what lies in front of the reader -/

theorem insideLine_iff (b : UInt8) : insideLine b = true ↔ b ≠ lineFeed := by
  simp [insideLine]

theorem all_insideLine {s : Bytes} (h : lineFeed ∉ s) : ∀ b ∈ s, insideLine b = true :=
  fun b hb => (insideLine_iff b).2 fun he => h (he ▸ hb)

theorem takeWhile_insideLine {front : Bytes} (hfront : lineFeed ∉ front) (rest : Bytes) :
    (front ++ lineFeed :: rest).takeWhile insideLine = front := by
  rw [List.takeWhile_append_of_pos (all_insideLine hfront)]
  simp [insideLine]

theorem step_line {r : LineReader} {front rest : Bytes}
    (hbytes : r.inbound.bytes = front ++ lineFeed :: rest) (hfront : lineFeed ∉ front) :
    r.step = some ((judge (r.line ++ front)).reading, ⟨[], { r.inbound with bytes := rest }⟩) := by
  have hdrop : (front ++ lineFeed :: rest).dropWhile insideLine = lineFeed :: rest := by
    rw [List.dropWhile_append_of_pos (all_insideLine hfront)]
    rfl
  simp only [step, hbytes, hdrop, takeWhile_insideLine hfront]

theorem dropWhile_insideLine {s : Bytes} (h : lineFeed ∉ s) : s.dropWhile insideLine = [] :=
  List.dropWhile_eq_nil_iff.2 (all_insideLine h)

theorem step_open {r : LineReader} (hne : r.inbound.bytes ≠ [])
    (hopen : lineFeed ∉ r.inbound.bytes) :
    r.step = some (.nothing, ⟨r.line ++ r.inbound.bytes, { r.inbound with bytes := [] }⟩) := by
  obtain ⟨b, bs, hb⟩ := List.exists_cons_of_ne_nil hne
  simp only [step, dropWhile_insideLine hopen]
  rw [hb]

theorem step_failed {r : LineReader} {error : String} {failures : List String}
    (hbytes : r.inbound.bytes = []) (hfail : r.inbound.failures = error :: failures) :
    r.step = some (.failed error, ⟨r.line, { r.inbound with failures := failures }⟩) := by
  simp only [step, hbytes, List.dropWhile_nil, hfail]

theorem step_ended {r : LineReader} (hbytes : r.inbound.bytes = [])
    (hfail : r.inbound.failures = []) (hend : r.inbound.ended = true) (hline : r.line = []) :
    r.step = some (.ended, r) := by
  simp [step, hbytes, hfail, hend, hline]

theorem step_last {r : LineReader} (hbytes : r.inbound.bytes = [])
    (hfail : r.inbound.failures = []) (hend : r.inbound.ended = true) (hline : r.line ≠ []) :
    r.step = some ((judge r.line).lastReading, ⟨[], r.inbound⟩) := by
  simp [step, hbytes, hfail, hend, hline]

theorem step_eq_none_iff {r : LineReader} :
    r.step = none ↔ r.inbound.bytes = [] ∧ r.inbound.failures = [] ∧ r.inbound.ended = false := by
  constructor
  · intro h
    unfold step at h
    split at h
    · simp at h
    · split at h
      · simp at h
      · rename_i hbytes
        split at h
        · simp at h
        · rename_i hfail
          refine ⟨hbytes, hfail, ?_⟩
          by_contra hend
          rw [Bool.not_eq_false] at hend
          simp only [hend, Bool.not_true, Bool.false_eq_true, if_false] at h
          split at h <;> simp at h
  · rintro ⟨hbytes, hfail, hend⟩
    simp [step, hbytes, hfail, hend]

/-- What a step can be: the end of a line, a part of one, an error, or the end of the stream, where
    a last line counts as well. -/
theorem step_cases {r r' : LineReader} {x : Reading} (h : r.step = some (x, r')) :
    (∃ front rest, r.inbound.bytes = front ++ lineFeed :: rest ∧
      x = (judge (r.line ++ front)).reading ∧ r' = ⟨[], { r.inbound with bytes := rest }⟩) ∨
    (x = .nothing ∧ r' = ⟨r.line ++ r.inbound.bytes, { r.inbound with bytes := [] }⟩) ∨
    (r.inbound.bytes = [] ∧ ∃ error failures, r.inbound.failures = error :: failures ∧
      x = .failed error ∧ r' = ⟨r.line, { r.inbound with failures := failures }⟩) ∨
    (r.inbound.bytes = [] ∧ r.inbound.failures = [] ∧ r.inbound.ended = true ∧
      ((x = .ended ∧ r' = r) ∨ (x = (judge r.line).lastReading ∧ r' = ⟨[], r.inbound⟩))) := by
  by_cases hmem : lineFeed ∈ r.inbound.bytes
  · obtain ⟨front, rest, hbytes, hfront⟩ := List.eq_append_cons_of_mem hmem
    rw [step_line hbytes hfront] at h
    obtain ⟨rfl, rfl⟩ := Prod.mk.inj (Option.some.inj h)
    exact .inl ⟨front, rest, hbytes, rfl, rfl⟩
  right
  by_cases hbytes : r.inbound.bytes = []
  · right
    cases hfail : r.inbound.failures with
    | cons error failures =>
      rw [step_failed hbytes hfail] at h
      obtain ⟨rfl, rfl⟩ := Prod.mk.inj (Option.some.inj h)
      exact .inl ⟨hbytes, error, failures, rfl, rfl, rfl⟩
    | nil =>
      right
      have hend : r.inbound.ended = true := by
        by_contra hopen
        rw [step_eq_none_iff.2 ⟨hbytes, hfail, by simpa using hopen⟩] at h
        contradiction
      refine ⟨hbytes, rfl, hend, ?_⟩
      by_cases hline : r.line = []
      · rw [step_ended hbytes hfail hend hline] at h
        obtain ⟨rfl, rfl⟩ := Prod.mk.inj (Option.some.inj h)
        exact .inl ⟨rfl, rfl⟩
      · rw [step_last hbytes hfail hend hline] at h
        obtain ⟨rfl, rfl⟩ := Prod.mk.inj (Option.some.inj h)
        exact .inr ⟨rfl, rfl⟩
  · rw [step_open hbytes hmem] at h
    obtain ⟨rfl, rfl⟩ := Prod.mk.inj (Option.some.inj h)
    exact .inl ⟨rfl, rfl⟩

theorem ended_step {r r' : LineReader} {x : Reading} (h : r.step = some (x, r')) :
    r'.inbound.ended = r.inbound.ended := by
  rcases step_cases h with ⟨front, rest, -, -, rfl⟩ | ⟨-, rfl⟩ | ⟨-, error, failures, -, -, rfl⟩ |
      ⟨-, -, -, ⟨-, rfl⟩ | ⟨-, rfl⟩⟩ <;> rfl

/-- Errors and the end are met where no bytes are left. -/
theorem bytes_of_stop {r r' : LineReader} {x : Reading} (h : r.step = some (x, r'))
    (hx : x.isStop = true) : r.inbound.bytes = [] := by
  rcases step_cases h with ⟨front, rest, -, rfl, -⟩ | ⟨rfl, -⟩ | ⟨hbytes, -⟩ | ⟨hbytes, -⟩
  · cases hline : judge (r.line ++ front) <;> simp [hline, Line.reading, Reading.isStop] at hx
  · contradiction
  · exact hbytes
  · exact hbytes

/-! ## Calls -/

/-- Asks for a message: goes on step by step until there is something to give. A call that has to
    wait gives nothing; when it is given up then, the reader stays as it is. -/
def call (r : LineReader) : Option Reading × LineReader :=
  match _h : r.step with
  | none => (none, r)
  | some (.nothing, r') => r'.call
  | some (x, r') => (some x, r')
  termination_by r.size
  decreasing_by exact size_step _h (by simp)

theorem call_of_none {r : LineReader} (h : r.step = none) : r.call = (none, r) := by
  rw [call]
  split <;> simp_all

theorem call_of_nothing {r r' : LineReader} (h : r.step = some (.nothing, r')) :
    r.call = r'.call := by
  rw [call]
  split <;> simp_all

theorem call_of_some {r r' : LineReader} {x : Reading} (h : r.step = some (x, r'))
    (hx : x ≠ .nothing) : r.call = (some x, r') := by
  rw [call]
  split <;> simp_all

theorem call_eq_of_step {r₁ r₂ : LineReader} {y : Reading × LineReader} (h₁ : r₁.step = some y)
    (h₂ : r₂.step = some y) : r₁.call = r₂.call := by
  obtain ⟨x, r'⟩ := y
  by_cases hx : x = .nothing
  · subst hx
    rw [call_of_nothing h₁, call_of_nothing h₂]
  · rw [call_of_some h₁ hx, call_of_some h₂ hx]

/-- Bytes inside a line may be read ahead of those behind them. -/
theorem call_ahead (line front : Bytes) (inbound : Inbound) (hfront : lineFeed ∉ front) :
    call ⟨line ++ front, inbound⟩ =
      call ⟨line, { inbound with bytes := front ++ inbound.bytes }⟩ := by
  by_cases hempty : front = []
  · simp [hempty]
  by_cases hmem : lineFeed ∈ inbound.bytes
  · obtain ⟨more, rest, hbytes, hmore⟩ := List.eq_append_cons_of_mem hmem
    have hleft : step ⟨line ++ front, inbound⟩ =
        some ((judge (line ++ front ++ more)).reading, ⟨[], { inbound with bytes := rest }⟩) :=
      step_line hbytes hmore
    have hright : step ⟨line, { inbound with bytes := front ++ inbound.bytes }⟩ =
        some ((judge (line ++ (front ++ more))).reading, ⟨[], { inbound with bytes := rest }⟩) :=
      step_line (by simp [hbytes]) (by simp [hfront, hmore])
    rw [← List.append_assoc] at hright
    exact call_eq_of_step hleft hright
  · have hright : step ⟨line, { inbound with bytes := front ++ inbound.bytes }⟩ =
        some (.nothing,
          ⟨line ++ (front ++ inbound.bytes), { inbound with bytes := [] }⟩) :=
      step_open (by simp [hempty]) (by simp [hfront, hmem])
    rw [call_of_nothing hright]
    by_cases hbytes : inbound.bytes = []
    · obtain ⟨bytes, failures, ended⟩ := inbound
      simp only at hbytes
      simp [hbytes]
    · have hleft : step ⟨line ++ front, inbound⟩ =
          some (.nothing,
            ⟨line ++ front ++ inbound.bytes, { inbound with bytes := [] }⟩) :=
        step_open hbytes hmem
      rw [call_of_nothing hleft, List.append_assoc]

end LineReader

/-! ## A buffer in front of the reader -/

/-- A reader that takes bytes only out of a buffer, which it fills from the stream when it is
    empty. -/
structure BufferedReader where
  /-- What was read since the last line feed. -/
  line : Bytes
  /-- What was fetched from the stream and not read. -/
  buffer : Bytes
  /-- What has arrived behind it. -/
  source : Inbound
  deriving DecidableEq, Repr

namespace BufferedReader

open LineReader (Reading)

/-- A reader at the start of an empty stream. -/
def empty : BufferedReader := ⟨[], [], .empty⟩

/-- The same reader without its buffer. -/
def plain (r : BufferedReader) : LineReader :=
  ⟨r.line, { r.source with bytes := r.buffer ++ r.source.bytes }⟩

/-- Fills an empty buffer that has room for `size` bytes. -/
def fetch (size : Nat) (r : BufferedReader) : BufferedReader :=
  if r.buffer.isEmpty then
    { r with
      buffer := r.source.bytes.take size
      source := { r.source with bytes := r.source.bytes.drop size } }
  else r

/-- One step of reading, which sees nothing of the stream but the buffer. -/
def step (size : Nat) (r : BufferedReader) : Option (Reading × BufferedReader) :=
  let r := r.fetch size
  (LineReader.step ⟨r.line, { r.source with bytes := r.buffer }⟩).map fun (x, after) =>
    (x, ⟨after.line, after.inbound.bytes, { after.inbound with bytes := r.source.bytes }⟩)

theorem plain_fetch (size : Nat) (r : BufferedReader) : (r.fetch size).plain = r.plain := by
  unfold fetch
  split
  · rename_i h
    have hbuffer : r.buffer = [] := List.isEmpty_iff.1 h
    simp [plain, hbuffer]
  · rfl

theorem size_step {size : Nat} {r r' : BufferedReader} {x : Reading}
    (h : r.step size = some (x, r')) (hx : x ≠ .ended) : r'.plain.size < r.plain.size := by
  simp only [step, Option.map_eq_some_iff, Prod.exists, Prod.mk.injEq] at h
  obtain ⟨_, after, hstep, rfl, rfl⟩ := h
  have hsize := LineReader.size_step hstep hx
  rw [← plain_fetch size r]
  simp only [plain, LineReader.size, List.length_append] at hsize ⊢
  omega

/-- Asks for a message through a buffer with room for `size` bytes. -/
def call (size : Nat) (r : BufferedReader) : Option Reading × BufferedReader :=
  match _h : r.step size with
  | none => (none, r)
  | some (.nothing, r') => r'.call size
  | some (x, r') => (some x, r')
  termination_by r.plain.size
  decreasing_by exact size_step _h (by simp)

/-- A buffer with room is empty after fetching only when the stream has nothing either. -/
theorem source_of_buffer_nil {size : Nat} (hsize : 0 < size) {r : BufferedReader}
    (h : (r.fetch size).buffer = []) : (r.fetch size).source.bytes = [] := by
  unfold fetch at h ⊢
  split
  · rename_i hempty
    simp only [hempty, if_true, List.take_eq_nil_iff] at h
    rcases h with h | h
    · omega
    · simp [h]
  · rename_i hempty
    rw [if_neg hempty] at h
    simp [h] at hempty

/-- A step through a buffer is a step without one, or it reads ahead inside a line. -/
theorem step_plain {size : Nat} (hsize : 0 < size) {r r' : BufferedReader} {x : Reading}
    (h : r.step size = some (x, r')) :
    r.plain.step = some (x, r'.plain) ∨ x = .nothing ∧ r.plain.call = r'.plain.call := by
  simp only [step, Option.map_eq_some_iff, Prod.exists, Prod.mk.injEq] at h
  obtain ⟨_, after, hstep, rfl, rfl⟩ := h
  rw [← plain_fetch size r]
  have hsource := @source_of_buffer_nil size hsize r
  generalize r.fetch size = r at hstep hsource ⊢
  obtain ⟨line, buffer, source⟩ := r
  by_cases hempty : buffer = []
  · -- nothing was fetched: the reader sees all there is
    left
    have hbytes : source.bytes = [] := hsource hempty
    subst hempty
    simp only [plain, hbytes, List.append_nil] at hstep ⊢
    exact hstep
  by_cases hmem : lineFeed ∈ buffer
  · left
    obtain ⟨front, rest, hbuffer, hfront⟩ := List.eq_append_cons_of_mem hmem
    have hline := LineReader.step_line (r := ⟨line, { source with bytes := buffer }⟩) hbuffer hfront
    rw [hline] at hstep
    obtain ⟨rfl, rfl⟩ := Prod.mk.inj (Option.some.inj hstep)
    exact LineReader.step_line (by simp [plain, hbuffer]) hfront
  · right
    rw [LineReader.step_open hempty hmem] at hstep
    obtain ⟨rfl, rfl⟩ := Prod.mk.inj (Option.some.inj hstep)
    exact ⟨rfl, (LineReader.call_ahead line buffer source hmem).symm⟩

theorem step_plain_none {size : Nat} (hsize : 0 < size) {r : BufferedReader}
    (h : r.step size = none) : r.plain.step = none := by
  simp only [step, Option.map_eq_none_iff] at h
  rw [← plain_fetch size r]
  obtain ⟨hbuffer, hfail, hend⟩ := LineReader.step_eq_none_iff.1 h
  refine LineReader.step_eq_none_iff.2 ⟨?_, hfail, hend⟩
  have hsource := source_of_buffer_nil hsize hbuffer
  simp only at hbuffer
  simp [plain, hbuffer, hsource]

/-- **A call through a buffer of any size is a call without one.** -/
theorem call_plain {size : Nat} (hsize : 0 < size) (r : BufferedReader) :
    (r.call size).1 = r.plain.call.1 ∧ (r.call size).2.plain = r.plain.call.2 := by
  fun_induction call size r with
  | case1 r h =>
    rw [LineReader.call_of_none (step_plain_none hsize h)]
    exact ⟨rfl, rfl⟩
  | case2 r r' h ih =>
    rcases step_plain hsize h with hstep | ⟨-, hcall⟩
    · rw [LineReader.call_of_nothing hstep]
      exact ih
    · rw [hcall]
      exact ih
  | case3 r x r' hx h =>
    rcases step_plain hsize h with hstep | ⟨hnothing, -⟩
    · rw [LineReader.call_of_some hstep hx]
      exact ⟨rfl, rfl⟩
    · exact absurd hnothing hx

end BufferedReader

/-! ## What the lines of a byte sequence say -/

namespace LineReader

/-- The white space that does not count at the ends of a line: space, tab, line feed, carriage
    return, form feed. -/
def blanks : Bytes := [0x20, 0x09, 0x0A, 0x0D, 0x0C]

/-- The result for a line that is not blank, given without the white space around it. -/
def outcome (body : Bytes) : Reading :=
  match Message.decode? body with
  | some m => .message m
  | none => .undecodable

/-- The results for lines, in order: white space at both ends is taken off, lines that become empty
    are dropped, and each other one is decoded. -/
def outcomes (lines : List Bytes) : List Reading :=
  ((lines.map fun line =>
    (line.dropWhile (· ∈ blanks)).rdropWhile (· ∈ blanks)).filter (· ≠ [])).map outcome

/-- A result as an answer; what only asks for another step, and an input error, is none. -/
def Reading.answer : Reading → List Reading
  | .nothing => []
  | .failed _ => []
  | x => [x]

theorem outcomes_append (a b : List Bytes) : outcomes (a ++ b) = outcomes a ++ outcomes b := by
  simp [outcomes]

theorem isBlank_eq : isBlank = fun b => decide (b ∈ blanks) := by
  funext b
  simp [isBlank, blanks, Bool.or_assoc]

theorem outcomes_singleton (line : Bytes) :
    outcomes [line] = if trim line = [] then [] else [outcome (trim line)] := by
  have htrim : trim line = (line.dropWhile (· ∈ blanks)).rdropWhile (· ∈ blanks) := by
    rw [trim, isBlank_eq]
    rfl
  rw [htrim, outcomes, List.map_singleton, List.filter_singleton]
  split <;> simp_all

/-- A line is blank, and then it gives nothing and the last one is the end itself, or it has exactly
    one result. -/
theorem judge_cases (line : Bytes) :
    (outcomes [line] = [] ∧ (judge line).reading = .nothing ∧
      (judge line).lastReading = .ended) ∨
    ∃ x, outcomes [line] = [x] ∧ (judge line).reading = x ∧ (judge line).lastReading = x ∧
      x.answer = [x] := by
  rw [outcomes_singleton]
  unfold judge
  by_cases h : trim line = []
  · left
    simp [h, Line.reading, Line.lastReading]
  · right
    refine ⟨outcome (trim line), if_neg h, ?_⟩
    unfold outcome
    cases hd : Message.decode? (trim line) <;>
      simp [hd, Line.reading, Line.lastReading, Reading.answer]

theorem answer_reading (line : Bytes) : (judge line).reading.answer = outcomes [line] := by
  rcases judge_cases line with ⟨hnil, hx, -⟩ | ⟨x, hone, hx, -, hanswer⟩
  · rw [hnil, hx]
    rfl
  · rw [hone, hx, hanswer]

/-- The pieces of a sequence of finished lines and the start of another. -/
theorem splitOn_lines {done : List Bytes} (hdone : ∀ line ∈ done, lineFeed ∉ line) (rest : Bytes) :
    (done.flatMap (· ++ [lineFeed]) ++ rest).splitOn lineFeed =
      done ++ rest.splitOn lineFeed := by
  induction done with
  | nil => simp
  | cons line done ih =>
    have hline : lineFeed ∉ line := hdone line (by simp)
    have hrest : ∀ l ∈ done, lineFeed ∉ l := fun l hl => hdone l (by simp [hl])
    simp only [List.flatMap_cons, List.append_assoc, List.cons_append, List.nil_append] at ih ⊢
    rw [List.splitOn_append_cons_self_of_not_mem hline, ih hrest]

/-! ## How far a reader has come -/

/-- What a reader has done with the bytes `all` that have arrived and has answered. -/
inductive Progress (all : Bytes) (r : LineReader) (answers : List Reading) : Prop where
  /-- It has read the lines `done` and keeps the start of the next one. -/
  | inside (done : List Bytes) (hdone : ∀ line ∈ done, lineFeed ∉ line)
      (hline : lineFeed ∉ r.line)
      (hall : all = done.flatMap (· ++ [lineFeed]) ++ (r.line ++ r.inbound.bytes))
      (hanswers : answers = outcomes done)
  /-- It has seen the end of the stream behind the lines `done` and the rest `last`. -/
  | behind (done : List Bytes) (last : Bytes) (ends : Nat)
      (hdone : ∀ line ∈ done, lineFeed ∉ line) (hlast : lineFeed ∉ last)
      (hall : all = done.flatMap (· ++ [lineFeed]) ++ last)
      (hline : r.line = []) (hbytes : r.inbound.bytes = []) (hfail : r.inbound.failures = [])
      (hend : r.inbound.ended = true)
      (hanswers : answers = outcomes (done ++ [last]) ++ List.replicate ends .ended)
      (hseen : ends = 0 → outcomes [last] ≠ [])

theorem Progress.start : Progress [] empty [] :=
  .inside [] (by simp) (by simp [empty]) (by simp [empty, Inbound.empty]) (by simp [outcomes])

/-- **One step adds its answer.** -/
theorem Progress.step {all : Bytes} {r r' : LineReader} {answers : List Reading} {x : Reading}
    (h : Progress all r answers) (hs : r.step = some (x, r')) :
    Progress all r' (answers ++ x.answer) := by
  cases h with
  | inside done hdone hline hall hanswers =>
    by_cases hmem : lineFeed ∈ r.inbound.bytes
    · -- the line at hand is finished
      obtain ⟨front, rest, hbytes, hfront⟩ := List.eq_append_cons_of_mem hmem
      rw [step_line hbytes hfront] at hs
      obtain ⟨rfl, rfl⟩ := Prod.mk.inj (Option.some.inj hs)
      have hwhole : lineFeed ∉ r.line ++ front := by simp [hline, hfront]
      refine .inside (done ++ [r.line ++ front]) ?_ (by simp) ?_ ?_
      · intro line hmem
        rcases List.mem_append.1 hmem with hmem | hmem
        · exact hdone line hmem
        · rwa [List.mem_singleton.1 hmem]
      · rw [hall, hbytes]
        simp
      · rw [outcomes_append, answer_reading, hanswers]
    by_cases hnil : r.inbound.bytes = []
    · cases hfail : r.inbound.failures with
      | cons error failures =>
        rw [step_failed hnil hfail] at hs
        obtain ⟨rfl, rfl⟩ := Prod.mk.inj (Option.some.inj hs)
        exact .inside done hdone hline hall (by simp [Reading.answer, hanswers])
      | nil =>
        have hend : r.inbound.ended = true := by
          by_contra hend
          rw [step_eq_none_iff.2 ⟨hnil, hfail, by simpa using hend⟩] at hs
          simp at hs
        rw [hnil, List.append_nil] at hall
        by_cases hkept : r.line = []
        · rw [step_ended hnil hfail hend hkept] at hs
          obtain ⟨rfl, rfl⟩ := Prod.mk.inj (Option.some.inj hs)
          rw [hkept] at hline hall
          refine .behind done [] 1 hdone hline hall hkept hnil hfail hend ?_ (by simp)
          rw [outcomes_append, hanswers]
          simp [Reading.answer, outcomes]
        · rw [step_last hnil hfail hend hkept] at hs
          obtain ⟨rfl, rfl⟩ := Prod.mk.inj (Option.some.inj hs)
          rcases judge_cases r.line with ⟨hblank, -, hx⟩ | ⟨x, hone, -, hx, hanswer⟩
          · refine .behind done r.line 1 hdone hline hall rfl hnil hfail hend ?_ (by simp)
            rw [outcomes_append, hanswers, hblank, hx]
            simp [Reading.answer]
          · refine .behind done r.line 0 hdone hline hall rfl hnil hfail hend ?_ (by simp [hone])
            rw [outcomes_append, hanswers, hone, hx, hanswer]
            simp
    · rw [step_open hnil hmem] at hs
      obtain ⟨rfl, rfl⟩ := Prod.mk.inj (Option.some.inj hs)
      exact .inside done hdone (by simp [hline, hmem]) (by simpa using hall)
        (by simp [Reading.answer, hanswers])
  | behind done last ends hdone hlast hall hline hbytes hfail hend hanswers hseen =>
    rw [step_ended hbytes hfail hend hline] at hs
    obtain ⟨rfl, rfl⟩ := Prod.mk.inj (Option.some.inj hs)
    refine .behind done last (ends + 1) hdone hlast hall hline hbytes hfail hend ?_ (by simp)
    rw [hanswers, List.append_assoc, List.replicate_succ']
    simp [Reading.answer]

/-- The answer of a call. -/
def answerOf : Option Reading → List Reading
  | none => []
  | some x => x.answer

/-- **One call adds its answer.** -/
theorem Progress.call {all : Bytes} {r : LineReader} {answers : List Reading}
    (h : Progress all r answers) : Progress all r.call.2 (answers ++ answerOf r.call.1) := by
  fun_induction LineReader.call r with
  | case1 r hs => simpa [answerOf] using h
  | case2 r r' hs ih =>
    refine ih ?_
    simpa [Reading.answer] using h.step hs
  | case3 r x r' hx hs => exact h.step hs

end LineReader

/-! ## Whole streams -/

/-- What happens to a stream and its reader. -/
inductive StreamEvent where
  | arrive (bytes : Bytes)
  /-- Reading will fail once, behind the bytes that have arrived. -/
  | fail (error : String)
  /-- The stream ends. Nothing arrives and nothing fails behind its end. -/
  | finish
  | read
  deriving DecidableEq, Repr

namespace StreamEvent

/-- The bytes that arrive. -/
def arrived : List StreamEvent → Bytes
  | [] => []
  | .arrive bytes :: script => bytes ++ arrived script
  | .finish :: _ => []
  | .fail _ :: script | .read :: script => arrived script

/-- The errors that are raised. -/
def raised : List StreamEvent → List String
  | [] => []
  | .fail error :: script => error :: raised script
  | .finish :: _ => []
  | .arrive _ :: script | .read :: script => raised script

/-- What a stream has in store after an event. -/
def meet (i : Inbound) (e : StreamEvent) : Inbound :=
  if i.ended then i
  else
    match e with
    | .arrive bytes => i.feed bytes
    | .fail error => i.fail error
    | .finish => i.finish
    | .read => i

theorem arrived_append (script : List StreamEvent) (e : StreamEvent) :
    arrived (script ++ [e]) = arrived script ++ if .finish ∈ script then [] else arrived [e] := by
  induction script with
  | nil => simp [arrived]
  | cons e' script ih => cases e' <;> simp [arrived, ih]

theorem raised_append (script : List StreamEvent) (e : StreamEvent) :
    raised (script ++ [e]) = raised script ++ if .finish ∈ script then [] else raised [e] := by
  induction script with
  | nil => simp [raised]
  | cons e' script ih => cases e' <;> simp [raised, ih]

end StreamEvent

/-- A reader with what it has given so far. -/
structure Reads (ρ : Type) where
  reader : ρ
  /-- The results of all calls that did not have to wait, in order. -/
  results : List LineReader.Reading

namespace LineReader

/-- Whether a result is an input error. -/
def Reading.isFailed : Reading → Bool
  | .failed _ => true
  | _ => false

/-- The text of a result that is an input error. -/
def Reading.error? : Reading → Option String
  | .failed error => some error
  | _ => none

theorem Reading.isFailed_eq (x : Reading) : x.isFailed = x.error?.isSome := by cases x <;> rfl

/-- The results that are no input errors. -/
def answers (results : List Reading) : List Reading := results.filter (!·.isFailed)

/-- The texts of the results that are input errors. -/
def errors (results : List Reading) : List String := results.filterMap Reading.error?

/-- What an event does to a reader. -/
def meet (s : Reads LineReader) (e : StreamEvent) : Reads LineReader :=
  match e with
  | .read => ⟨s.reader.call.2, s.results ++ s.reader.call.1.toList⟩
  | e => { s with reader := { s.reader with inbound := e.meet s.reader.inbound } }

/-- Reads a stream from its start. -/
def readAll (script : List StreamEvent) : Reads LineReader := script.foldl meet ⟨empty, []⟩

theorem readAll_append (script : List StreamEvent) (e : StreamEvent) :
    readAll (script ++ [e]) = meet (readAll script) e := List.foldl_append

end LineReader

namespace BufferedReader

/-- What an event does to a reader with a buffer. -/
def meet (size : Nat) (s : Reads BufferedReader) (e : StreamEvent) : Reads BufferedReader :=
  match e with
  | .read => ⟨(s.reader.call size).2, s.results ++ (s.reader.call size).1.toList⟩
  | e => { s with reader := { s.reader with source := e.meet s.reader.source } }

/-- Reads a stream from its start through a buffer. -/
def readAll (size : Nat) (script : List StreamEvent) : Reads BufferedReader :=
  script.foldl (meet size) ⟨empty, []⟩

/-- The same without the buffer. -/
def plainReads (s : Reads BufferedReader) : Reads LineReader := ⟨s.reader.plain, s.results⟩

theorem plain_source (r : BufferedReader) (e : StreamEvent) :
    plain { r with source := e.meet r.source } =
      { r.plain with inbound := e.meet r.plain.inbound } := by
  unfold StreamEvent.meet plain
  simp only
  split
  · rfl
  · cases e <;> simp [Inbound.feed, Inbound.fail, Inbound.finish]

theorem meet_plain {size : Nat} (hsize : 0 < size) (s : Reads BufferedReader) (e : StreamEvent) :
    plainReads (meet size s e) = LineReader.meet (plainReads s) e := by
  cases e with
  | read =>
    obtain ⟨hresult, hreader⟩ := call_plain hsize s.reader
    simp only [plainReads, meet, LineReader.meet, hresult, hreader]
  | arrive bytes => simp only [plainReads, meet, LineReader.meet, plain_source]
  | fail error => simp only [plainReads, meet, LineReader.meet, plain_source]
  | finish => simp only [plainReads, meet, LineReader.meet, plain_source]

/-- Reading a stream through a buffer of any size is reading it without one. -/
theorem readAll_plain {size : Nat} (hsize : 0 < size) (script : List StreamEvent) :
    plainReads (readAll size script) = LineReader.readAll script := by
  unfold readAll LineReader.readAll
  suffices ∀ s : Reads BufferedReader, plainReads (script.foldl (meet size) s) =
      script.foldl LineReader.meet (plainReads s) from this _
  induction script with
  | nil => exact fun _ => rfl
  | cons e script ih =>
    intro s
    rw [List.foldl_cons, List.foldl_cons, ih, meet_plain hsize]

end BufferedReader

/-! ## The results of a whole stream -/

namespace LineReader

theorem call_ne_nothing (r : LineReader) : r.call.1 ≠ some .nothing := by
  fun_induction call r with
  | case1 r h => simp
  | case2 r r' h ih => exact ih
  | case3 r x r' hx h => simpa using hx

theorem answers_append (results more : List Reading) :
    answers (results ++ more) = answers results ++ answers more := List.filter_append ..

theorem answers_call (r : LineReader) : answers r.call.1.toList = answerOf r.call.1 := by
  have hne := call_ne_nothing r
  cases h : r.call.1 with
  | none => rfl
  | some x =>
    cases x with
    | nothing => exact absurd h hne
    | _ => rfl

theorem ended_call (r : LineReader) : r.call.2.inbound.ended = r.inbound.ended := by
  fun_induction call r with
  | case1 r h => rfl
  | case2 r r' h ih => rw [ih, ended_step h]
  | case3 r x r' hx h => exact ended_step h

/-- While a stream is open, what arrives lies in front of its reader. -/
theorem Progress.arrive {all : Bytes} {r : LineReader} {results : List Reading}
    (h : Progress all r results) (hopen : r.inbound.ended = false) (bytes : Bytes) :
    Progress (all ++ bytes) (r.feed bytes) results := by
  cases h with
  | inside done hdone hline hall hanswers =>
    refine .inside done hdone hline ?_ hanswers
    simp [hall, feed, Inbound.feed]
  | behind done last ends hdone hlast hall hline hbytes hfail hend =>
    rw [hopen] at hend
    simp at hend

/-- Other changes of an open stream change nothing for its reader. -/
theorem Progress.of_bytes {all : Bytes} {r : LineReader} {results : List Reading}
    (h : Progress all r results) (hopen : r.inbound.ended = false) {inbound : Inbound}
    (hbytes : inbound.bytes = r.inbound.bytes) :
    Progress all { r with inbound := inbound } results := by
  cases h with
  | inside done hdone hline hall hanswers =>
    refine .inside done hdone hline ?_ hanswers
    rw [hbytes]
    exact hall
  | behind done last ends hdone hlast hall hline hbytes hfail hend =>
    rw [hopen] at hend
    simp at hend

theorem progress_meet {all : Bytes} {s : Reads LineReader}
    (h : Progress all s.reader (answers s.results)) (e : StreamEvent) :
    Progress (all ++ if s.reader.inbound.ended then [] else StreamEvent.arrived [e])
      (meet s e).reader (answers (meet s e).results) := by
  by_cases hend : s.reader.inbound.ended = true
  · rw [if_pos hend, List.append_nil]
    cases e with
    | read =>
      simp only [meet, answers_append, answers_call]
      exact h.call
    | _ => simpa [meet, StreamEvent.meet, hend] using h
  · have hopen : s.reader.inbound.ended = false := by simpa using hend
    rw [if_neg hend]
    cases e with
    | read =>
      simp only [meet, answers_append, answers_call, StreamEvent.arrived, List.append_nil]
      exact h.call
    | arrive bytes =>
      simp only [meet, StreamEvent.meet, hopen, StreamEvent.arrived, List.append_nil]
      exact h.arrive hopen bytes
    | fail error =>
      simp only [meet, StreamEvent.meet, hopen, StreamEvent.arrived, List.append_nil]
      exact h.of_bytes hopen rfl
    | finish =>
      simp only [meet, StreamEvent.meet, hopen, StreamEvent.arrived, List.append_nil]
      exact h.of_bytes hopen rfl

theorem ended_meet (s : Reads LineReader) (e : StreamEvent) :
    (meet s e).reader.inbound.ended = (s.reader.inbound.ended || decide (e = .finish)) := by
  cases e with
  | read => simp [meet, ended_call]
  | _ => cases h : s.reader.inbound.ended <;>
      simp [meet, StreamEvent.meet, h, Inbound.feed, Inbound.fail, Inbound.finish]

theorem ended_readAll (script : List StreamEvent) :
    (readAll script).reader.inbound.ended = decide (.finish ∈ script) := by
  induction script using List.reverseRecOn with
  | nil => rfl
  | append_singleton script e ih =>
    rw [readAll_append, ended_meet, ih]
    simp [eq_comm]

/-- **The invariant of a whole run.** -/
theorem progress_readAll (script : List StreamEvent) :
    Progress (StreamEvent.arrived script) (readAll script).reader
      (answers (readAll script).results) := by
  induction script using List.reverseRecOn with
  | nil => exact Progress.start
  | append_singleton script e ih =>
    have hmeet := progress_meet ih e
    rw [ended_readAll] at hmeet
    simpa [readAll_append, StreamEvent.arrived_append] using hmeet

/-! ## The errors of a whole stream -/

theorem error?_judge (line : Bytes) :
    (judge line).reading.error? = none ∧ (judge line).lastReading.error? = none := by
  cases judge line <;> exact ⟨rfl, rfl⟩

/-- A step meets the first of the errors in store, or it leaves them all there. -/
theorem errors_step {r r' : LineReader} {x : Reading} (h : r.step = some (x, r')) :
    x.error?.toList ++ r'.inbound.failures = r.inbound.failures := by
  rcases step_cases h with ⟨front, rest, -, rfl, rfl⟩ | ⟨rfl, rfl⟩ |
      ⟨-, error, failures, hfail, rfl, rfl⟩ | ⟨-, -, -, ⟨rfl, rfl⟩ | ⟨rfl, rfl⟩⟩
  · rw [(error?_judge _).1]
    rfl
  · rfl
  · exact hfail.symm
  · rfl
  · rw [(error?_judge _).2]
    rfl

theorem errors_call (r : LineReader) :
    errors r.call.1.toList ++ r.call.2.inbound.failures = r.inbound.failures := by
  fun_induction call r with
  | case1 r h => rfl
  | case2 r r' h ih => rw [ih, ← errors_step h]; rfl
  | case3 r x r' hx h =>
    rw [← errors_step h]
    cases x <;> rfl

theorem errors_append (results more : List Reading) :
    errors (results ++ more) = errors results ++ errors more := List.filterMap_append

/-- What was met of the errors and what is left of them only grows by those that are raised. -/
theorem errors_meet (s : Reads LineReader) (e : StreamEvent) :
    errors (meet s e).results ++ (meet s e).reader.inbound.failures =
      errors s.results ++ s.reader.inbound.failures ++
        if s.reader.inbound.ended then [] else StreamEvent.raised [e] := by
  cases e with
  | read => simp [meet, errors_append, errors_call, StreamEvent.raised]
  | _ =>
    cases hend : s.reader.inbound.ended <;>
      simp [meet, StreamEvent.meet, hend, Inbound.feed, Inbound.fail, Inbound.finish,
        StreamEvent.raised]

/-- **No error is lost, doubled or met out of order**: those that were met and those in store are
    together the errors that were raised. -/
theorem errors_readAll (script : List StreamEvent) :
    errors (readAll script).results ++ (readAll script).reader.inbound.failures =
      StreamEvent.raised script := by
  induction script using List.reverseRecOn with
  | nil => rfl
  | append_singleton script e ih =>
    rw [readAll_append, errors_meet, ih, ended_readAll, StreamEvent.raised_append]
    simp

/-! ## What a reader has given and what it gives next -/

theorem call_waits {r : LineReader} (h : r.call.1 = none) : r.call.2.step = none := by
  fun_induction call r with
  | case1 r hs => exact hs
  | case2 r r' hs ih => exact ih h
  | case3 r x r' hx hs => simp at h

/-- The results that lie in a byte sequence: those of its finished lines, and at the end of the
    stream also that of its last piece. -/
def wholeResults (all : Bytes) (ended : Bool) : List Reading :=
  if ended then outcomes (all.splitOn lineFeed) else outcomes (all.splitOn lineFeed).dropLast

theorem pieces_inside {done : List Bytes} (hdone : ∀ line ∈ done, lineFeed ∉ line) (rest : Bytes)
    (ended : Bool) : ∃ more,
      wholeResults (done.flatMap (· ++ [lineFeed]) ++ rest) ended = outcomes done ++ more := by
  unfold wholeResults
  rw [splitOn_lines hdone]
  split
  · exact ⟨_, outcomes_append ..⟩
  · rw [List.dropLast_append_of_ne_nil (List.splitOn_ne_nil _ _)]
    exact ⟨_, outcomes_append ..⟩

theorem pieces_finished {done : List Bytes} (hdone : ∀ line ∈ done, lineFeed ∉ line)
    {last : Bytes} (hlast : lineFeed ∉ last) :
    (done.flatMap (· ++ [lineFeed]) ++ last).splitOn lineFeed = done ++ [last] := by
  rw [splitOn_lines hdone, List.splitOn_eq_singleton hlast]

theorem Progress.answers_eq {all : Bytes} {r : LineReader} {results : List Reading}
    (h : Progress all r results) :
    let whole := wholeResults all r.inbound.ended
    results = whole.take results.length ++
      List.replicate (results.length - whole.length) .ended := by
  cases h with
  | inside done hdone hline hall hanswers =>
    obtain ⟨more, hwhole⟩ := pieces_inside hdone (r.line ++ r.inbound.bytes) r.inbound.ended
    simp only [hall, hwhole, hanswers]
    simp
  | behind done last ends hdone hlast hall hline hbytes hfail hend hanswers =>
    simp only [wholeResults, hend, if_true, hall, pieces_finished hdone hlast, hanswers]
    rw [List.length_append, List.length_replicate, Nat.add_sub_cancel_left,
      List.take_of_length_le (Nat.le_add_right ..)]

/-- More results than there are finished lines only the end of the stream gives, which is seen when
    no error is in store. -/
theorem Progress.of_more {all : Bytes} {r : LineReader} {results : List Reading}
    (h : Progress all r results) (hmore : (wholeResults all false).length < results.length) :
    r.inbound.failures = [] ∧ r.inbound.ended = true := by
  cases h with
  | inside done hdone hline hall hanswers =>
    obtain ⟨more, hwhole⟩ := pieces_inside hdone (r.line ++ r.inbound.bytes) false
    rw [hall, hwhole, hanswers, List.length_append] at hmore
    omega
  | behind done last ends hdone hlast hall hline hbytes hfail hend => exact ⟨hfail, hend⟩

theorem Progress.length_le {all : Bytes} {r : LineReader} {results : List Reading}
    (h : Progress all r results) (hopen : r.inbound.ended = false) :
    results.length ≤ (wholeResults all false).length := by
  by_contra hlt
  have hend := (h.of_more (Nat.lt_of_not_le hlt)).2
  rw [hopen] at hend
  contradiction

/-- The line that is kept is what was read since the last line feed, until a result was given that
    only the end of the stream can give. -/
theorem Progress.line_eq {all : Bytes} {r : LineReader} {results : List Reading}
    (h : Progress all r results) : ∃ consumed, all = consumed ++ r.inbound.bytes ∧
      lineFeed ∉ r.line ∧
      (results.length ≤ (wholeResults all false).length →
        (consumed.splitOn lineFeed).getLast? = some r.line) ∧
      ((wholeResults all false).length < results.length → r.line = []) := by
  cases h with
  | inside done hdone hline hall hanswers =>
    refine ⟨done.flatMap (· ++ [lineFeed]) ++ r.line, by simp [hall], hline, ?_, ?_⟩
    · intro _
      rw [pieces_finished hdone hline]
      simp
    · intro hlt
      obtain ⟨more, hwhole⟩ := pieces_inside hdone (r.line ++ r.inbound.bytes) false
      rw [hall, hwhole, hanswers, List.length_append] at hlt
      omega
  | behind done last ends hdone hlast hall hline hbytes hfail hend hanswers hseen =>
    refine ⟨all, by simp [hbytes], by simp [hline], ?_, fun _ => hline⟩
    intro hle
    exfalso
    have hlong : 0 < ends ∨ 0 < (outcomes [last]).length := by
      rcases Nat.eq_zero_or_pos ends with hzero | hpos
      · exact .inr (List.length_pos_of_ne_nil (hseen hzero))
      · exact .inl hpos
    have hcomplete : wholeResults all false = outcomes done := by
      simp [wholeResults, hall, pieces_finished hdone hlast]
    rw [hcomplete, hanswers, outcomes_append] at hle
    simp only [List.length_append, List.length_replicate] at hle
    omega

/-- When all bytes are read and the stream is open or has an error in store, every finished line has
    its result. -/
theorem Progress.of_read {all : Bytes} {r : LineReader} {results : List Reading}
    (h : Progress all r results) (hbytes : r.inbound.bytes = [])
    (hmore : r.inbound.failures ≠ [] ∨ r.inbound.ended = false) :
    results = wholeResults all false := by
  cases h with
  | inside done hdone hline hall hanswers =>
    rw [hbytes, List.append_nil] at hall
    simp [wholeResults, hall, pieces_finished hdone hline, hanswers]
  | behind done last ends hdone hlast hall hline hbytes hfail hend =>
    simp [hfail, hend] at hmore

theorem Progress.of_waits {all : Bytes} {r : LineReader} {results : List Reading}
    (h : Progress all r results) (hwaits : r.step = none) :
    r.inbound.ended = false ∧ results = wholeResults all false := by
  obtain ⟨hbytes, -, hopen⟩ := step_eq_none_iff.1 hwaits
  exact ⟨hopen, h.of_read hbytes (.inr hopen)⟩

/-- A call meets an error only when every finished line has its result. -/
theorem Progress.of_failed {all : Bytes} {r : LineReader} {results : List Reading} {error : String}
    (h : Progress all r results) (hcall : r.call.1 = some (.failed error)) :
    results = wholeResults all false := by
  fun_induction LineReader.call r with
  | case1 r hs => contradiction
  | case2 r r' hs ih => exact ih (by simpa [Reading.answer] using h.step hs) hcall
  | case3 r x r' hx hs =>
    obtain rfl := Option.some.inj hcall
    have hstore : r.inbound.failures ≠ [] := by
      rw [← errors_step hs]
      simp [Reading.error?]
    exact h.of_read (bytes_of_stop hs rfl) (.inl hstore)

/-- The results of the finished lines come first. -/
theorem finished_first (all : Bytes) (ended : Bool) :
    wholeResults all false <+: wholeResults all ended := by
  cases ended with
  | false => exact List.prefix_rfl
  | true =>
    have hpieces := List.dropLast_append_getLast (List.splitOn_ne_nil lineFeed all)
    exact ⟨_, (outcomes_append ..).symm.trans (congrArg outcomes hpieces)⟩

/-- The latest answer is the next result of the whole byte sequence, and behind these the end. -/
theorem Progress.latest_eq {all : Bytes} {r : LineReader} {results : List Reading} {x : Reading}
    (h : Progress all r (results ++ [x])) :
    x = (wholeResults all r.inbound.ended).getD results.length .ended := by
  have hlatest := congrArg (·[results.length]?) h.answers_eq
  simp only [List.getElem?_concat_length, List.length_append, List.length_singleton] at hlatest
  generalize wholeResults all r.inbound.ended = whole at hlatest ⊢
  rcases Nat.lt_or_ge results.length whole.length with hlt | hge
  · rw [List.getElem?_append_left (by simp; omega), List.getElem?_take_of_lt (by omega)] at hlatest
    rw [List.getD_eq_getElem?_getD, ← hlatest, Option.getD_some]
  · rw [List.getElem?_append_right (by simp; omega), List.getElem?_replicate_of_lt (by simp; omega)]
      at hlatest
    rw [List.getD_eq_default _ _ hge]
    exact Option.some.inj hlatest

/-- A call waits only in an open stream, when no error is left and every finished line has its
    result. -/
theorem Progress.of_none {all : Bytes} {r : LineReader} {results : List Reading}
    (h : Progress all r results) (hcall : r.call.1 = none) :
    r.inbound.failures = [] ∧ r.inbound.ended = false ∧ results = wholeResults all false := by
  have hafter := h.call
  have hfail := (step_eq_none_iff.1 (call_waits hcall)).2.1
  rw [hcall, answerOf, List.append_nil] at hafter
  obtain ⟨hopen, hall⟩ := hafter.of_waits (call_waits hcall)
  refine ⟨?_, ended_call r ▸ hopen, hall⟩
  rw [← errors_call r, hcall, hfail]
  rfl

/-- A call waits, meets an error or gives an answer. -/
theorem call_cases (r : LineReader) : r.call.1 = none ∨ (∃ error, r.call.1 = some (.failed error)) ∨
    ∃ x, r.call.1 = some x ∧ x.error? = none ∧ x.answer = [x] := by
  have hne := call_ne_nothing r
  cases h : r.call.1 with
  | none => exact .inl rfl
  | some x =>
    right
    cases x with
    | nothing => exact absurd h hne
    | failed error => exact .inl ⟨error, rfl⟩
    | _ => exact .inr ⟨_, rfl, rfl, rfl⟩

/-- **What the next call gives**: the next result of the finished lines, behind these the next
    error, and behind the errors what only the end of the stream gives. -/
theorem Progress.call_eq {all : Bytes} {r : LineReader} {results : List Reading}
    (h : Progress all r results) :
    r.call.1 = (wholeResults all false)[results.length]?.or
      ((r.inbound.failures.head?.map .failed).or
        (if r.inbound.ended then
          some ((wholeResults all r.inbound.ended).getD results.length .ended)
        else none)) := by
  rcases call_cases r with hx | ⟨error, hx⟩ | ⟨x, hx, herror, hanswer⟩
  · obtain ⟨hfail, hopen, hall⟩ := h.of_none hx
    simp [hx, ← hall, hfail, hopen]
  · have hall := h.of_failed hx
    have hfail : r.inbound.failures.head? = some error := by
      rw [← errors_call r, hx]
      rfl
    simp [hx, ← hall, hfail]
  · have hafter := h.call
    rw [hx, answerOf, hanswer] at hafter
    have hlatest := hafter.latest_eq
    rw [ended_call] at hlatest
    rcases Nat.lt_or_ge results.length (wholeResults all false).length with hlt | hge
    · have hnext : x = (wholeResults all false)[results.length] := by
        rw [hlatest, (finished_first all r.inbound.ended).getElem hlt, List.getD_eq_getElem]
      simp [hx, List.getElem?_eq_getElem hlt, hnext]
    · have hmore : (wholeResults all false).length < (results ++ [x]).length := by
        rw [List.length_append, List.length_singleton]
        omega
      obtain ⟨hfail, hend⟩ := hafter.of_more hmore
      have hnone : r.inbound.failures = [] := by
        rw [← errors_call r, hx, hfail, List.append_nil]
        simp [errors, herror]
      rw [ended_call] at hend
      rw [hx, List.getElem?_eq_none hge, hnone, if_pos hend, ← hlatest]
      rfl

/-- The errors in store are those of the stream that were not met. -/
theorem head?_failures (script : List StreamEvent) :
    (readAll script).reader.inbound.failures.head? =
      (StreamEvent.raised script)[(errors (readAll script).results).length]? := by
  rw [← errors_readAll, List.getElem?_append_right (Nat.le_refl _), Nat.sub_self,
    List.head?_eq_getElem?]

end LineReader

/-- **Reading does not depend on how the stream is cut.** However the bytes of a stream are cut into
    chunks, wherever calls are given up, errors come and a buffer ends, the results that are no
    errors are those of the whole byte sequence in order, followed by nothing but the end, and the
    errors are those of the stream, in order and each at most once. The next call gives the next
    finished line, behind these the next error, and behind both it waits or, when the stream has
    ended, gives the last line and then only the end. The line that is kept is what was read since
    the last line feed. -/
theorem BufferedReader.reads_whole_stream (size : Nat) (script : List StreamEvent)
    (hsize : 0 < size) :
    let s := readAll size script
    let all := StreamEvent.arrived script
    let raised := StreamEvent.raised script
    let pieces := all.splitOn lineFeed
    let finished := LineReader.outcomes pieces.dropLast
    let whole := if .finish ∈ script then LineReader.outcomes pieces else finished
    let answers := s.results.filter (!·.isFailed)
    let errors := s.results.filterMap (·.error?)
    s.results = (LineReader.readAll script).results ∧
      answers = whole.take answers.length ++
        List.replicate (answers.length - whole.length) .ended ∧
      errors ++ s.reader.source.failures = raised ∧
      (.finish ∉ script → answers.length ≤ whole.length) ∧
      (s.reader.call size).1 = finished[answers.length]?.or
        ((raised[errors.length]?.map .failed).or
          (if .finish ∈ script then some (whole.getD answers.length .ended) else none)) ∧
      ((s.reader.call size).1 = none →
        .finish ∉ script ∧ answers = whole ∧ errors = raised) ∧
      ∃ consumed, all = consumed ++ (s.reader.buffer ++ s.reader.source.bytes) ∧
        lineFeed ∉ s.reader.line ∧
        (answers.length ≤ finished.length →
          (consumed.splitOn lineFeed).getLast? = some s.reader.line) ∧
        (finished.length < answers.length → s.reader.line = []) := by
  intro s all raised pieces finished whole answers errors
  have hplain : plainReads s = LineReader.readAll script := readAll_plain hsize script
  have hprogress := LineReader.progress_readAll script
  have herrors := LineReader.errors_readAll script
  have hhead := LineReader.head?_failures script
  have hended := LineReader.ended_readAll script
  rw [← hplain] at hprogress herrors hhead hended
  simp only [plainReads] at hprogress herrors hhead hended
  have hcall : (s.reader.call size).1 = s.reader.plain.call.1 := (call_plain hsize s.reader).1
  have hwhole : whole = LineReader.wholeResults all s.reader.plain.inbound.ended := by
    simp [whole, finished, pieces, LineReader.wholeResults, hended]
  have hopen : .finish ∉ script → s.reader.plain.inbound.ended = false := by
    intro hno
    rw [hended]
    exact decide_eq_false hno
  refine ⟨congrArg Reads.results hplain, ?_, herrors, ?_, ?_, ?_, ?_⟩
  · rw [hwhole]
    exact hprogress.answers_eq
  · intro hno
    rw [hwhole, hopen hno]
    exact hprogress.length_le (hopen hno)
  · rw [hcall, hprogress.call_eq, hhead, ← hwhole, hended]
    simp only [decide_eq_true_eq]
    rfl
  · intro hnone
    obtain ⟨hfail, hend, hall⟩ := hprogress.of_none (hcall ▸ hnone)
    rw [hfail, List.append_nil] at herrors
    refine ⟨of_decide_eq_false (hended ▸ hend), ?_, herrors⟩
    rw [hwhole, hend]
    exact hall
  · exact hprogress.line_eq

theorem BufferedReader.reads_whole_stream_cut_line :
    let script : List StreamEvent := [.arrive [0x20, 0x61], .read, .fail "broken", .read,
      .arrive [0x62, 0x0A, 0x09], .read, .finish, .read, .read]
    let s := readAll 1 script
    0 < 1 ∧ s.results = [.failed "broken", .undecodable, .ended, .ended] ∧
      s.results.filterMap (·.error?) ++ s.reader.source.failures = ["broken"] ∧
      (s.reader.call 1).1 = some .ended := by
  intro script s
  obtain ⟨hresults, -, herrors, -, hnext, -⟩ := reads_whole_stream 1 script (by decide)
  -- the calls one by one: a part of a line, the error, the line, a blank rest, the end
  have hpart : LineReader.call ⟨[], ⟨[0x20, 0x61], [], false⟩⟩ =
      (none, ⟨[0x20, 0x61], .empty⟩) :=
    (LineReader.call_of_nothing rfl).trans (LineReader.call_of_none rfl)
  have herror : LineReader.call ⟨[0x20, 0x61], ⟨[], ["broken"], false⟩⟩ =
      (some (.failed "broken"), ⟨[0x20, 0x61], .empty⟩) := LineReader.call_of_some rfl (by simp)
  have hline : LineReader.call ⟨[0x20, 0x61], ⟨[0x62, 0x0A, 0x09], [], false⟩⟩ =
      (some .undecodable, ⟨[], ⟨[0x09], [], false⟩⟩) := LineReader.call_of_some (by cbv) (by simp)
  have hblank : LineReader.call ⟨[], ⟨[0x09], [], true⟩⟩ = (some .ended, ⟨[], ⟨[], [], true⟩⟩) :=
    (LineReader.call_of_nothing rfl).trans (LineReader.call_of_some (by cbv) (by simp))
  have hend : LineReader.call ⟨[], ⟨[], [], true⟩⟩ = (some .ended, ⟨[], ⟨[], [], true⟩⟩) :=
    LineReader.call_of_some rfl (by simp)
  have hplain : (LineReader.readAll script).results =
      [.failed "broken", .undecodable, .ended, .ended] := by
    simp [script, LineReader.readAll, LineReader.meet, StreamEvent.meet, LineReader.empty,
      Inbound.empty, Inbound.feed, Inbound.fail, Inbound.finish, hpart, herror, hline, hblank, hend]
  rw [if_pos (by decide), hresults, hplain] at hnext
  exact ⟨by decide, hresults.trans hplain, herrors, hnext⟩

end FormatBridge
