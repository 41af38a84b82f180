import FormatBridge.Log

set_option autoImplicit false

/-! # Buffers and what becomes of them

A buffer is a text with a label. Formatting it ends in one of two ways: its text is replaced by the
formatted code, or it is left as it is and a failure is reported. -/

namespace FormatBridge

/-! ## Buffers -/

/-- A text that can be formatted. -/
structure Buffer where
  /-- The name that is used in reports. -/
  label : String
  text : String
  /-- How many times the text was set. -/
  writes : Nat
  deriving DecidableEq, Repr, Inhabited

namespace Buffer

/-- The label of a buffer that has none of its own. -/
def defaultLabel : String := "buffer"

/-- A buffer with a text that was not set yet. -/
def ofText (label : Option String) (text : String) : Buffer :=
  ⟨label.getD defaultLabel, text, 0⟩

/-- Replaces the text. -/
def setText (b : Buffer) (text : String) : Buffer :=
  { b with text := text, writes := b.writes + 1 }

/-- The request to format a buffer. -/
def request (b : Buffer) : FormatRequest := ⟨b.text⟩

end Buffer

/-! ## Failures -/

/-- A buffer that was not formatted. -/
structure Failure where
  buffer : String
  /-- Why there is no formatted code for it. -/
  error : ReplyError
  deriving DecidableEq, Repr

/-- What a reply does to the buffer whose request it answers. -/
inductive Application where
  /-- The text is set once, to the formatted code. -/
  | formatted (code : String)
  /-- The buffer stays as it is, and this is reported. -/
  | failed (failure : Failure)
  deriving DecidableEq, Repr

/-- What a reply, or none, does to a buffer. -/
def Buffer.applicationOf (b : Buffer) (reply : Option Json.Value) : Application :=
  match classify reply with
  | .ok code => .formatted code
  | .error error => .failed ⟨b.label, error⟩

/-- What is logged about it. -/
def Application.event (label : String) : Application → LogEvent
  | .formatted code => .replyApplied label code.utf8ByteSize
  | .failed failure => .replyFailed label failure.error

end FormatBridge
