import FormatBridge.Proofs.Classification
import FormatBridge.Proofs.LineReading
import FormatBridge.Proofs.Wire

set_option autoImplicit false

/-! # A reply survives its way to the callback

A reply stands in four forms: the typed record, the line on the wire, the value that a callback is
given, and the result of classification. What is printed for a record or a message is written for
one tree, also with the end of the line behind it, and the record, the message and its value are
all read off this tree (`FormatReply.decode?_print`, `Message.parse?_line`). So the forms agree for
every text and whatever fields are there (`FormatReply.survives_the_wire`). -/

namespace FormatBridge

open Json

/-! ## Lines -/

theorem Json.tokens?_lineFeed : tokens? [Message.lineFeed] = some [] := by
  rw [tokens?]
  simp only [show isSpace Message.lineFeed = true by decide, if_true]
  rw [tokens?]

/-- **The line of a message has the value of the message.** -/
theorem Message.parse?_line {m : Message} (hfits : m.content.Fits (maxDepth - 1)) :
    Value.parse? m.line = some m.toValue := by
  obtain ⟨t, hspells, -, hvalue⟩ := exists_written hfits
  have hends : Ends [lineFeed] := by simp [Ends, isSpace, lineFeed]
  rw [Value.parse?, line, hspells.writes.parse?_append hends tokens?_lineFeed, Option.bind_some, hvalue]

/-- **A call takes the line of a message**, gives the message and leaves what is behind it. -/
theorem LineReader.call_line {m : Message} (hfits : m.content.Fits (maxDepth - 1))
    (rest : Bytes) : (empty.feed (m.line ++ rest)).call = (some (.message m), empty.feed rest) := by
  have hbytes : (empty.feed (m.line ++ rest)).inbound.bytes =
      m.print ++ Message.lineFeed :: rest := by
    simp [feed, Inbound.feed, empty, Inbound.empty, Message.line]
  have hstep := step_line hbytes (Message.visible_print hfits).no_lineFeed
  have hjudge : judge ((empty.feed (m.line ++ rest)).line ++ m.print) = .message m :=
    judge_print hfits
  rw [hjudge] at hstep
  exact call_of_some hstep (by simp)

/-! ## Records -/

namespace FormatReply

/-- **What is printed for a record is read as that record.** -/
theorem decode?_print (r : FormatReply) : decode? r.print = some r := by
  rw [decode?, print, (Message.spells_texts r.fields).writes.parse?, Option.bind_some, ofTree?,
    Message.texts, Message.fields?_record]
  obtain ⟨status, _ | code, _ | name, _ | text⟩ := r <;>
    simp [fields, pickField?, required, optionalText, orDefault, Tree.textOrNull?, Tree.text?]

theorem classify_body (r : FormatReply) : classify (some r.body) = r.outcome := by
  have hcontent : r.body.get? "content" = some r.toValue := get?_ofMembers _ _
  rw [← r.classifyContent_toValue]
  exact classify_object hcontent

/-- **A reply survives its way from the other side to the callback.** Its record is read back from
    its text. The line of the message with it is read as the reply to the request, in its session
    and of its reply kind (`x_reply` for `x_request`, for any other kind `_reply` behind it), and has
    the value that the callback is given. This value, the bare body and the record itself all say the
    same. -/
theorem survives_the_wire (request : Message) (id : String) (r : FormatReply) :
    let reply := request.replyTo id r.toValue
    decode? r.print = some r ∧
    (∃ m, (∀ rest, (LineReader.empty.feed (reply.line ++ rest)).call =
        (some (.message m), LineReader.empty.feed rest)) ∧
      m = reply ∧ m.answers? = some request.header.id ∧
      m.header.session = request.header.session ∧
      m.header.kind = replyKind request.header.kind ∧
      (∀ stem, request.header.kind = stem ++ requestSuffix → m.header.kind = stem ++ replySuffix) ∧
      ((∀ stem, request.header.kind ≠ stem ++ requestSuffix) →
        m.header.kind = request.header.kind ++ replySuffix)) ∧
    Value.parse? reply.line = some reply.toValue ∧
    classify (some reply.toValue) = r.outcome ∧ classify (some r.body) = r.outcome ∧
    r.outcome =
      if r.status = "ok" then r.code.elim (.error .missingCode) .ok
      else .error (.reported r.status r.errorName r.errorText) := by
  intro reply
  have hfits : reply.content.Fits (maxDepth - 1) := r.fits_toValue
  have hkind (stem : String) (hrequest : request.header.kind = stem ++ requestSuffix) :
      reply.header.kind = stem ++ replySuffix :=
    (congrArg replyKind hrequest).trans (replyKind_request stem)
  exact ⟨r.decode?_print,
    ⟨reply, LineReader.call_line hfits, rfl, rfl, rfl, rfl, hkind, replyKind_other⟩,
    Message.parse?_line hfits, classify_replyTo request id r, r.classify_body, r.outcome_eq⟩

end FormatReply

end FormatBridge
