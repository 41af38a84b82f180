import FormatBridge.Json.Printer
import FormatBridge.Json.Record

set_option autoImplicit false

/-! # Messages on the wire

A request or a reply travels as one message: a header that identifies it, the header of the request
it answers (empty on a request), and a content of any shape. A message is written as one line of
compact JSON (`Message.line`) and read from the bytes of a line (`Message.decode?`). -/

namespace FormatBridge

open Json

/-- What identifies a message. -/
structure Header where
  id : String
  /-- The kind of message, for instance `gofmt_request`. -/
  kind : String
  /-- The session that produced it. -/
  session : String
  deriving DecidableEq, Repr, Inhabited

/-- What a message says about the request it answers. -/
structure Parent where
  id : Option String
  kind : Option String
  deriving DecidableEq, Repr, Inhabited

/-- The parent of a message that answers nothing. -/
def Parent.empty : Parent := ⟨none, none⟩

/-- A request or a reply. -/
structure Message where
  header : Header
  /-- The header of the request it answers. -/
  parent : Parent
  content : Value
  deriving Repr

/-- The end of a request's kind. -/
def requestSuffix : String := "_request"

/-- The end of a reply's kind. -/
def replySuffix : String := "_reply"

/-- The kind of the reply to a request: `x_request` is answered by `x_reply`, and any other kind
    gets `_reply` behind it. -/
def replyKind (kind : String) : String :=
  let stem :=
    if requestSuffix.toList.isSuffixOf kind.toList then
      String.ofList (kind.toList.take (kind.length - requestSuffix.length))
    else kind
  stem ++ replySuffix

theorem replyKind_request (stem : String) :
    replyKind (stem ++ requestSuffix) = stem ++ replySuffix := by
  have hsuffix : requestSuffix.toList.isSuffixOf (stem ++ requestSuffix).toList = true := by
    rw [List.isSuffixOf_iff_suffix, String.toList_append]
    exact List.suffix_append ..
  have hstem : (stem ++ requestSuffix).toList.take
      ((stem ++ requestSuffix).length - requestSuffix.length) = stem.toList := by
    rw [String.length_append, Nat.add_sub_cancel, String.toList_append, ← String.length_toList,
      List.take_left]
  rw [replyKind, if_pos hsuffix, hstem, String.ofList_toList]

theorem replyKind_other {kind : String} (hother : ∀ stem, kind ≠ stem ++ requestSuffix) :
    replyKind kind = kind ++ replySuffix := by
  have hsuffix : requestSuffix.toList.isSuffixOf kind.toList ≠ true := by
    rw [Ne, List.isSuffixOf_iff_suffix]
    rintro ⟨stem, hstem⟩
    refine hother (String.ofList stem) (String.toList_inj.1 ?_)
    rw [String.toList_append, String.toList_ofList, hstem]
  rw [replyKind, if_neg hsuffix]
namespace Message

/-! ## Building -/

/-- A request. -/
def request (id kind session : String) (content : Value) : Message :=
  ⟨⟨id, kind, session⟩, .empty, content⟩

/-- The reply to `request`, in its session. -/
def replyTo (request : Message) (id : String) (content : Value) : Message :=
  ⟨⟨id, replyKind request.header.kind, request.header.session⟩,
    ⟨some request.header.id, some request.header.kind⟩, content⟩

/-- The id of the request that a message answers. -/
def answers? (m : Message) : Option String := m.parent.id

/-- Whether a message is a reply. -/
def isReply (m : Message) : Bool := m.answers?.isSome

/-! ## Writing -/

/-- The fields of a parent that are present, in order. -/
def parentFields (p : Parent) : List (String × String) :=
  (p.id.map ("msg_id", ·)).toList ++ (p.kind.map ("msg_type", ·)).toList

/-- The fields of a header, in order. -/
def headerFields (h : Header) : List (String × String) :=
  [("msg_id", h.id), ("msg_type", h.kind), ("session", h.session)]

/-- An object of texts. -/
def printTexts (fields : List (String × String)) : Bytes :=
  printObject (fields.map fun (k, s) => (k, printString s))

/-- The compact text of a message, the fields of each record in their order. -/
def print (m : Message) : Bytes :=
  printObject
    [("header", printTexts (headerFields m.header)),
      ("parent_header", printTexts (parentFields m.parent)),
      ("content", m.content.print)]

/-- The byte that ends a line. -/
def lineFeed : UInt8 := 0x0A

/-- The line on which a message travels. -/
def line (m : Message) : Bytes := m.print ++ [lineFeed]

/-- A message as a value. -/
def toValue (m : Message) : Value :=
  .ofMembers
    [("header", .ofMembers ((headerFields m.header).map fun (k, s) => (k, .string s))),
      ("parent_header", .ofMembers ((parentFields m.parent).map fun (k, s) => (k, .string s))),
      ("content", m.content)]

/-! ## Reading -/

/-- Reads a header; the session may be missing. -/
def header? (t : Tree) : Option Header := do
  match ← t.fields? ["msg_id", "msg_type", "session"] with
  | [id, kind, session] =>
    return ⟨← required Tree.text? id, ← required Tree.text? kind,
      ← orDefault "" Tree.text? session⟩
  | _ => none

/-- Reads a parent; both fields may be missing or null. -/
def parent? (t : Tree) : Option Parent := do
  match ← t.fields? ["msg_id", "msg_type"] with
  | [id, kind] => return ⟨← optionalText id, ← optionalText kind⟩
  | _ => none

/-- Reads a message; only the header has to be there. The content lies one container deep. -/
def ofTree? (t : Tree) : Option Message := do
  match ← t.fields? ["header", "parent_header", "content"] with
  | [header, parent, content] =>
    return ⟨← required header? header, ← orDefault .empty parent? parent,
      ← orDefault .null (Tree.valueWithin? (maxDepth - 1)) content⟩
  | _ => none

/-- The message that the bytes write. -/
def decode? (s : Bytes) : Option Message := (Json.parse? s).bind ofTree?

end Message

end FormatBridge
