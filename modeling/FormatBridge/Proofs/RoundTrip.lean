import FormatBridge.Proofs.LineStream

set_option autoImplicit false

/-! # What was written is read back

The lines of messages, one behind the other, are cut into chunks anywhere on their way and read
through a buffer of any size. A line has one line feed, its last byte, so no cut can split a line or
merge two of them; and its text is read as the message for which it was written. So the calls give
exactly these messages in order, and then the end of the stream
(`BufferedReader.reads_back_lines`). -/

namespace FormatBridge

open Message (lineFeed)

/-! ## One line -/

theorem Message.line_eq {m : Message} {room : Nat} (hfits : m.content.Fits room) :
    ∃ body, m.line = body ++ [lineFeed] ∧ lineFeed ∉ body :=
  ⟨m.print, rfl, (visible_print hfits).no_lineFeed⟩

namespace LineReader

/-- A line that is a message gives just this message. -/
theorem outcomes_of_message {line : Bytes} {m : Message} (h : judge line = .message m) :
    outcomes [line] = [.message m] := by
  rcases judge_cases line with ⟨-, hblank, -⟩ | ⟨x, hone, hx, -, -⟩
  · rw [h] at hblank
    contradiction
  · rw [h] at hx
    rw [hone, ← hx]
    rfl

/-- **In the lines of messages lie these messages** and nothing else. -/
theorem outcomes_linesOf {messages : List Message} (hreadable : Readable messages) :
    outcomes ((linesOf messages).splitOn lineFeed) = messages.map .message := by
  induction messages with
  | nil => rfl
  | cons m rest ih =>
    have hfits := hreadable m (List.mem_cons_self ..)
    have hprint := (Message.visible_print hfits).no_lineFeed
    have hrest := ih fun m' hm => hreadable m' (List.mem_cons_of_mem _ hm)
    rw [linesOf_cons, List.splitOn_append_cons_self_of_not_mem hprint, ← List.singleton_append,
      outcomes_append, outcomes_of_message (judge_print hfits), hrest]
    rfl

end LineReader

/-! ## Calls on a stream without errors -/

/-- A stream that arrives in chunks, with a number of calls behind each; then it ends, and `calls`
    more are made. -/
def StreamEvent.inChunks (chunks : List (Bytes × Nat)) (calls : Nat) : List StreamEvent :=
  chunks.flatMap (fun c => .arrive c.1 :: List.replicate c.2 .read) ++
    .finish :: List.replicate calls .read

namespace StreamEvent

theorem arrived_reads (n : Nat) (script : List StreamEvent) :
    arrived (List.replicate n .read ++ script) = arrived script := by
  induction n with
  | zero => rfl
  | succ n ih => exact ih

theorem arrived_inChunks (chunks : List (Bytes × Nat)) (calls : Nat) :
    arrived (inChunks chunks calls) = (chunks.map (·.1)).flatten := by
  induction chunks with
  | nil => rfl
  | cons c chunks ih =>
    simp only [inChunks, List.flatMap_cons, List.cons_append, List.append_assoc] at ih ⊢
    rw [arrived, arrived_reads, ih, List.map_cons, List.flatten_cons]

theorem fail_not_mem_inChunks (chunks : List (Bytes × Nat)) (calls : Nat) (error : String) :
    .fail error ∉ inChunks chunks calls := by
  simp [inChunks]

theorem raised_eq_nil {script : List StreamEvent} (hfail : ∀ error, .fail error ∉ script) :
    raised script = [] := by
  induction script with
  | nil => rfl
  | cons e script ih =>
    have hrest := ih fun error hmem => hfail error (List.mem_cons_of_mem _ hmem)
    cases e with
    | fail error => exact absurd (List.mem_cons_self ..) (hfail error)
    | finish => rfl
    | _ => exact hrest

end StreamEvent

namespace LineReader

/-- Without errors, all results are answers. -/
theorem answers_of_errors {results : List Reading} (h : errors results = []) :
    answers results = results := by
  rw [errors, List.filterMap_eq_nil_iff] at h
  rw [answers, List.filter_eq_self]
  intro x hx
  rw [Reading.isFailed_eq, h x hx]
  rfl

/-- **Without errors on the stream, no result is an error.** -/
theorem answers_readAll {script : List StreamEvent} (hfail : ∀ error, .fail error ∉ script) :
    answers (readAll script).results = (readAll script).results := by
  have herrors := errors_readAll script
  rw [StreamEvent.raised_eq_nil hfail, List.append_eq_nil_iff] at herrors
  exact answers_of_errors herrors.1

/-- Behind the end of a stream no call has to wait. -/
theorem call_isSome {r : LineReader} (hend : r.inbound.ended = true) : r.call.1.isSome = true := by
  by_contra hnone
  have hwaits := call_waits (Option.not_isSome_iff_eq_none.1 hnone)
  have hopen := (step_eq_none_iff.1 hwaits).2.2
  rw [ended_call, hend] at hopen
  contradiction

/-- Behind the end of a stream every call has its result. -/
theorem length_reads {s : Reads LineReader} (hend : s.reader.inbound.ended = true) (n : Nat) :
    ((List.replicate n StreamEvent.read).foldl meet s).results.length = s.results.length + n := by
  induction n generalizing s with
  | zero => rfl
  | succ n ih =>
    have hone : (s.reader.call.1.toList).length = 1 := by
      obtain ⟨x, hx⟩ := Option.isSome_iff_exists.1 (call_isSome hend)
      rw [hx]
      rfl
    have hended : (meet s .read).reader.inbound.ended = true := by
      rw [ended_meet, hend]
      rfl
    rw [List.replicate_succ, List.foldl_cons, ih hended]
    simp only [meet, List.length_append, hone]
    omega

theorem length_readAll (chunks : List (Bytes × Nat)) (calls : Nat) :
    calls ≤ (readAll (StreamEvent.inChunks chunks calls)).results.length := by
  rw [StreamEvent.inChunks, readAll, List.foldl_append, List.foldl_cons, length_reads]
  · exact Nat.le_add_left ..
  · rw [ended_meet]
    simp

end LineReader

/-! ## Whole streams -/

/-- **What was written is read back.** Each line of messages that can be read back has one line
    feed, its last byte. However the lines are cut into chunks, however many calls are made between
    two of them and whatever the size of the buffer, the calls give exactly these messages in order
    and then nothing but the end of the stream, as soon as enough calls are made. -/
theorem BufferedReader.reads_back_lines (size : Nat) (messages : List Message)
    (chunks : List (Bytes × Nat)) (calls : Nat) (hsize : 0 < size) (hreadable : Readable messages)
    (hchunks : (chunks.map (·.1)).flatten = messages.flatMap Message.line)
    (hcalls : messages.length < calls) :
    (∀ m ∈ messages, ∃ body, m.line = body ++ [lineFeed] ∧ lineFeed ∉ body) ∧
      ∃ ends, 0 < ends ∧ (readAll size (StreamEvent.inChunks chunks calls)).results =
        messages.map .message ++ List.replicate ends .ended := by
  refine ⟨fun m hm => Message.line_eq (hreadable m hm), ?_⟩
  have hplain := congrArg Reads.results (readAll_plain hsize (StreamEvent.inChunks chunks calls))
  have hprogress := LineReader.progress_readAll (StreamEvent.inChunks chunks calls)
  have hended := LineReader.ended_readAll (StreamEvent.inChunks chunks calls)
  have hfinish : StreamEvent.finish ∈ StreamEvent.inChunks chunks calls := by
    simp [StreamEvent.inChunks]
  have hunfailed := LineReader.answers_readAll (StreamEvent.fail_not_mem_inChunks chunks calls)
  have hlong := LineReader.length_readAll chunks calls
  have hanswers := hprogress.answers_eq
  -- all that lies in the stream are the messages, and there were more calls than messages
  have hwhole : LineReader.wholeResults (messages.flatMap Message.line) true =
      messages.map .message := LineReader.outcomes_linesOf hreadable
  simp only [hended, decide_eq_true hfinish, hunfailed, StreamEvent.arrived_inChunks, hchunks,
    hwhole, List.length_map] at hanswers
  rw [List.take_of_length_le (by rw [List.length_map]; omega)] at hanswers
  exact ⟨_, Nat.sub_pos_of_lt (Nat.lt_of_lt_of_le hcalls hlong), hplain.trans hanswers⟩

theorem BufferedReader.reads_back_lines_cut_inside :
    let limits : Json.Value :=
      .array [.number (.whole Json.maxWhole), .number (.whole Json.minWhole)]
    let messages : List Message :=
      [⟨⟨"line\nfeed", "\"", ""⟩, ⟨none, some ""⟩, limits⟩, .request "s_1" "k" "s" .null]
    let bytes := messages.flatMap Message.line
    let chunks := [(bytes.take 20, 2), ([], 1), (bytes.drop 20, 0)]
    0 < 1 ∧ Readable messages ∧ (chunks.map (·.1)).flatten = bytes ∧ messages.length < 3 ∧
      ∃ ends, 0 < ends ∧ (readAll 1 (StreamEvent.inChunks chunks 3)).results =
        messages.map .message ++ List.replicate ends .ended := by
  intro limits messages bytes chunks
  have hreadable : Readable messages := by
    intro m hm
    rcases List.mem_cons.1 hm with rfl | hm
    · refine .array ?_
      intro v hv
      rcases List.mem_cons.1 hv with rfl | hv
      · exact .whole (by decide) (by decide)
      · rw [List.mem_singleton.1 hv]
        exact .whole (by decide) (by decide)
    · rw [List.mem_singleton.1 hm]
      exact .null
  have hchunks : (chunks.map (·.1)).flatten = bytes := by simp [chunks]
  have hback := reads_back_lines 1 messages chunks 3 (by decide) hreadable hchunks (by decide)
  exact ⟨by decide, hreadable, hchunks, by decide, hback.2⟩

end FormatBridge
