import FormatBridge.Proofs.LineReading
import FormatBridge.Proofs.Wire

set_option autoImplicit false

/-! # Streams of messages

A stream that consists of the lines of messages is cut anywhere on its way. Whoever splits the part
that has arrived at its line feeds finds the first of these messages and no others (`messagesIn_of`),
and a `LineReader` reads them one by one (`Ahead.step`). -/

namespace FormatBridge

open Message (lineFeed)

/-- Whether the messages can be read back from their lines. -/
def Readable (messages : List Message) : Prop :=
  ∀ m ∈ messages, m.content.Fits (Json.maxDepth - 1)

/-- The bytes of messages, a line each. -/
def linesOf (messages : List Message) : Bytes := messages.flatMap Message.line

/-- The messages in the lines that are complete. -/
def messagesIn (received : Bytes) : List Message :=
  (received.splitOn lineFeed).dropLast.filterMap (Message.decode? ·)

theorem linesOf_cons (m : Message) (rest : List Message) :
    linesOf (m :: rest) = m.print ++ lineFeed :: linesOf rest := by
  rw [linesOf, List.flatMap_cons, Message.line, List.append_assoc]
  rfl

/-- Bytes are cut at their first line feed in one way only. -/
theorem split_unique {a b c d : Bytes} (ha : lineFeed ∉ a) (hc : lineFeed ∉ c)
    (h : a ++ lineFeed :: b = c ++ lineFeed :: d) : a = c ∧ b = d := by
  have hpieces := congrArg (List.takeWhile LineReader.insideLine) h
  rw [LineReader.takeWhile_insideLine ha, LineReader.takeWhile_insideLine hc] at hpieces
  subst hpieces
  exact ⟨rfl, (List.cons.inj (List.append_cancel_left h)).2⟩

/-- The first line feed in the bytes of messages ends the first message. -/
theorem linesOf_eq_append {messages : List Message} {front back : Bytes}
    (hreadable : Readable messages) (hfront : lineFeed ∉ front)
    (h : linesOf messages = front ++ lineFeed :: back) :
    ∃ m rest, messages = m :: rest ∧ front = m.print ∧ back = linesOf rest := by
  cases messages with
  | nil => exact absurd h.symm (by simp [linesOf])
  | cons m rest =>
    have hprint : lineFeed ∉ m.print :=
      (Message.visible_print (hreadable m (List.mem_cons_self ..))).no_lineFeed
    rw [linesOf_cons] at h
    obtain ⟨hsame, hrest⟩ := split_unique hprint hfront h
    exact ⟨m, rest, rfl, hsame.symm, hrest.symm⟩

theorem linesOf_eq_nil_of_open {messages : List Message} (h : lineFeed ∉ linesOf messages) :
    messages = [] := by
  cases messages with
  | nil => rfl
  | cons m rest =>
    rw [linesOf_cons] at h
    exact absurd (List.mem_append_right _ (List.mem_cons_self ..)) h

/-! ## What has arrived -/

theorem messagesIn_open {received : Bytes} (h : lineFeed ∉ received) : messagesIn received = [] := by
  rw [messagesIn, List.splitOn_eq_singleton h]
  rfl

theorem messagesIn_cons {m : Message} (hfits : m.content.Fits (Json.maxDepth - 1)) (rest : Bytes) :
    messagesIn (m.print ++ lineFeed :: rest) = m :: messagesIn rest := by
  have hprint := (Message.visible_print hfits).no_lineFeed
  rw [messagesIn, List.splitOn_append_cons_self_of_not_mem hprint,
    List.dropLast_cons_of_ne_nil (List.splitOn_ne_nil _ _), List.filterMap_cons,
    Message.decode?_print hfits]
  rfl

/-- **In the start of a stream of messages lie the first of them**, and in the whole stream all. -/
theorem messagesIn_of {messages : List Message} {received rest : Bytes}
    (hreadable : Readable messages) (h : received ++ rest = linesOf messages) :
    messagesIn received <+: messages ∧ (rest = [] → messagesIn received = messages) := by
  induction messages generalizing received with
  | nil =>
    obtain ⟨rfl, rfl⟩ := List.append_eq_nil_iff.1 h
    rw [messagesIn_open List.not_mem_nil]
    exact ⟨List.nil_prefix, fun _ => rfl⟩
  | cons m messages ih =>
    have hfits := hreadable m (List.mem_cons_self ..)
    by_cases hmem : lineFeed ∈ received
    · -- the first line has arrived in full, and the rest is a stream of the other messages
      obtain ⟨front, back, rfl, hfront⟩ := List.eq_append_cons_of_mem hmem
      rw [List.append_assoc, List.cons_append] at h
      obtain ⟨m', rest', hcons, rfl, hback⟩ := linesOf_eq_append hreadable hfront h.symm
      obtain ⟨rfl, rfl⟩ := List.cons.inj hcons
      obtain ⟨hfirst, hall⟩ := ih (fun m hm => hreadable m (List.mem_cons_of_mem _ hm)) hback
      rw [messagesIn_cons hfits]
      exact ⟨List.cons_prefix_cons.2 ⟨rfl, hfirst⟩, fun hnil => by rw [hall hnil]⟩
    · -- not even the first line has
      rw [messagesIn_open hmem]
      refine ⟨List.nil_prefix, ?_⟩
      intro hnil
      rw [hnil, List.append_nil] at h
      rw [h] at hmem
      exact (linesOf_eq_nil_of_open hmem).symm

/-! ## A reader on its way -/

namespace LineReader

/-- What a reader keeps, what has arrived and what is to arrive are together the lines of messages. -/
structure Ahead (r : LineReader) (coming : Bytes) (messages : List Message) : Prop where
  inside : lineFeed ∉ r.line
  readable : Readable messages
  bytes : r.line ++ (r.inbound.bytes ++ coming) = linesOf messages

variable {r r' : LineReader} {coming : Bytes} {messages : List Message} {x : Reading}

theorem Ahead.feed (h : r.Ahead coming messages) (n : Nat) :
    (r.feed (coming.take n)).Ahead (coming.drop n) messages :=
  ⟨h.inside, h.readable, by
    simp only [LineReader.feed, Inbound.feed]
    rw [List.append_assoc, List.take_append_drop]
    exact h.bytes⟩

/-- More is written behind what is to arrive. -/
theorem Ahead.write (h : r.Ahead coming messages) {m : Message}
    (hfits : m.content.Fits (Json.maxDepth - 1)) :
    r.Ahead (coming ++ m.line) (messages ++ [m]) := by
  refine ⟨h.inside, ?_, ?_⟩
  · intro m' hm
    rcases List.mem_append.1 hm with hm | hm
    · exact h.readable m' hm
    · rw [List.mem_singleton.1 hm]
      exact hfits
  · have hbytes := congrArg (· ++ m.line) h.bytes
    simpa [linesOf] using hbytes

/-- When all has arrived and was taken in, no message is left. -/
theorem Ahead.nil (h : r.Ahead [] messages) (hbytes : r.inbound.bytes = []) : messages = [] := by
  have hlines := h.bytes
  rw [hbytes, List.append_nil, List.append_nil] at hlines
  exact linesOf_eq_nil_of_open (hlines ▸ h.inside)

/-- **A step reads on in the line at hand or gives the next message**, as long as nothing fails and
    the stream has not ended. -/
theorem Ahead.step (h : r.Ahead coming messages) (hfail : r.inbound.failures = [])
    (hopen : r.inbound.bytes = [] → r.inbound.ended = false) (hs : r.step = some (x, r')) :
    r'.inbound.failures = [] ∧ r'.inbound.ended = r.inbound.ended ∧
      ((x = .nothing ∧ r'.Ahead coming messages) ∨
        ∃ m rest, messages = m :: rest ∧ x = .message m ∧ r'.Ahead coming rest) := by
  by_cases hnil : r.inbound.bytes = []
  · rw [step_eq_none_iff.2 ⟨hnil, hfail, hopen hnil⟩] at hs
    contradiction
  by_cases hmem : lineFeed ∈ r.inbound.bytes
  · -- the kept start and the bytes up to the line feed are the text of the first message
    obtain ⟨front, back, hbytes, hfront⟩ := List.eq_append_cons_of_mem hmem
    rw [step_line hbytes hfront] at hs
    obtain ⟨rfl, rfl⟩ := Prod.mk.inj (Option.some.inj hs)
    have hwhole : lineFeed ∉ r.line ++ front := by simp [h.inside, hfront]
    have hlines : linesOf messages = (r.line ++ front) ++ lineFeed :: (back ++ coming) := by
      rw [← h.bytes, hbytes]
      simp
    obtain ⟨m, rest, rfl, hprint, hrest⟩ := linesOf_eq_append h.readable hwhole hlines
    have hjudge := judge_print (h.readable m (List.mem_cons_self ..))
    refine ⟨hfail, rfl, .inr ⟨m, rest, rfl, ?_, ?_⟩⟩
    · rw [hprint, hjudge]
      rfl
    · exact ⟨List.not_mem_nil, fun m hm => h.readable m (List.mem_cons_of_mem _ hm), hrest⟩
  · rw [step_open hnil hmem] at hs
    obtain ⟨rfl, rfl⟩ := Prod.mk.inj (Option.some.inj hs)
    refine ⟨hfail, rfl, .inl ⟨rfl, ?_, h.readable, ?_⟩⟩
    · simp [h.inside, hmem]
    · rw [← h.bytes]
      simp

end LineReader

end FormatBridge
