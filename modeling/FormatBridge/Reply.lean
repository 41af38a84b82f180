import FormatBridge.Message

set_option autoImplicit false

/-! # Format requests and replies

A format request carries the code of one buffer. The reply reports a status; with the status `ok`
it carries the formatted code, with any other it may carry the name and the text of an error.

The other side is not trusted to send well-formed replies, so a reply is first of all any value.
`classify` takes from it the formatted code or the reason why there is none. Beside it stands the
typed record `FormatReply`, which is stricter, and its own reading `FormatReply.outcome`. -/

namespace FormatBridge

open Json

/-- The kind under which format requests are sent unless another is chosen. -/
def defaultRequestKind : String := "gofmt_request"

/-! ## Requests -/

/-- The content of a format request. -/
structure FormatRequest where
  /-- The full text of the buffer. -/
  code : String
  deriving DecidableEq, Repr

namespace FormatRequest

/-- The compact text of a request's content. -/
def print (r : FormatRequest) : Bytes := printObject [("code", printString r.code)]

/-- A request's content as a value. -/
def payload (r : FormatRequest) : Value := .ofMembers [("code", .string r.code)]

/-- Reads a request's content. -/
def ofTree? (t : Tree) : Option FormatRequest := do
  match ← t.fields? ["code"] with
  | [code] => return ⟨← required Tree.text? code⟩
  | _ => none

/-- The request's content that the bytes write. -/
def decode? (s : Bytes) : Option FormatRequest := (Json.parse? s).bind ofTree?

end FormatRequest

/-! ## Statuses and errors -/

/-- The status that a reply reports. -/
inductive Status where
  | ok
  | other (s : String)
  deriving DecidableEq, Repr

/-- The text of success. -/
def okText : String := "ok"

/-- The status with a given text. -/
def Status.ofText (s : String) : Status := if s = okText then .ok else .other s

/-- The text of a status. -/
def Status.text : Status → String
  | .ok => okText
  | .other s => s

/-- Why a reply yields no formatted code. -/
inductive ReplyError where
  | absent
  | notAnObject
  /-- The reply has no object as its content. -/
  | missingContent
  /-- The content has no text as its status. -/
  | missingStatus
  /-- The status is `ok`, but the content has no text as its code. -/
  | missingCode
  | reported (status : String) (name text : Option String)
  deriving DecidableEq, Repr

/-- The name and the text of an error behind its status. -/
def describeError : Option String → Option String → String
  | some name, some text => ": " ++ name ++ ": " ++ text
  | some name, none => ": " ++ name
  | none, some text => ": " ++ text
  | none, none => ""

/-- The wording of an error. -/
def ReplyError.message : ReplyError → String
  | .absent => "no reply received"
  | .notAnObject => "reply is not an object"
  | .missingContent => "reply has no content"
  | .missingStatus => "reply content has no status"
  | .missingCode => "reply status is ok but carries no code"
  | .reported status name text => "formatter reported " ++ status ++ describeError name text

/-! ## Classification -/

/-- What the members of a reply's content say. -/
def classifyContent (content : Value) : Except ReplyError String :=
  match (content.get? "status").bind Value.text? with
  | none => .error .missingStatus
  | some status =>
    match Status.ofText status with
    | .ok =>
      match (content.get? "code").bind Value.text? with
      | some code => .ok code
      | none => .error .missingCode
    | .other status =>
      .error (.reported status ((content.get? "ename").bind Value.text?)
        ((content.get? "evalue").bind Value.text?))

/-- The formatted code of a reply, or why there is none. -/
def classify : Option Value → Except ReplyError String
  | none => .error .absent
  | some reply =>
    match reply with
    | .object _ =>
      match reply.get? "content" with
      | some (.object members) => classifyContent (.object members)
      | _ => .error .missingContent
    | _ => .error .notAnObject

/-! ## The typed record -/

/-- The content of a format reply. -/
structure FormatReply where
  /-- The status, `ok` on success. -/
  status : String
  code : Option String
  errorName : Option String
  errorText : Option String
  deriving DecidableEq, Repr

namespace FormatReply

/-- A successful reply. -/
def ok (code : String) : FormatReply := ⟨okText, some code, none, none⟩

/-- A reply that reports an error. -/
def failure (name text : String) : FormatReply := ⟨"error", none, some name, some text⟩

/-- The fields that are present, in order. -/
def fields (r : FormatReply) : List (String × String) :=
  ("status", r.status) ::
    ((r.code.map ("code", ·)).toList ++ (r.errorName.map ("ename", ·)).toList ++
      (r.errorText.map ("evalue", ·)).toList)

/-- The compact text of a reply's content. -/
def print (r : FormatReply) : Bytes := Message.printTexts r.fields

/-- A reply's content as a value. -/
def toValue (r : FormatReply) : Value := .ofMembers (r.fields.map fun (k, s) => (k, .string s))

/-- A reply's content as the body of a message. -/
def body (r : FormatReply) : Value := .ofMembers [("content", r.toValue)]

/-- Reads a reply's content; all but the status may be missing or null. -/
def ofTree? (t : Tree) : Option FormatReply := do
  match ← t.fields? ["status", "code", "ename", "evalue"] with
  | [status, code, name, text] =>
    return ⟨← required Tree.text? status, ← optionalText code, ← optionalText name,
      ← optionalText text⟩
  | _ => none

/-- The reply's content that the bytes write. -/
def decode? (s : Bytes) : Option FormatReply := (Json.parse? s).bind ofTree?

/-- What a reply's content says. -/
def outcome (r : FormatReply) : Except ReplyError String :=
  match Status.ofText r.status, r.code with
  | .ok, some code => .ok code
  | .ok, none => .error .missingCode
  | .other status, _ => .error (.reported status r.errorName r.errorText)

end FormatReply

end FormatBridge
