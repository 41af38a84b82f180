import FormatBridge.Message

set_option autoImplicit false

/-! # Reading messages from a stream that may pause anywhere

Bytes arrive in chunks of any size, with input errors between them, and at some point the stream
may end. A `LineReader` keeps the line that it has read so far next to what has arrived and was not
read yet, so a pause loses nothing: reading goes on with the kept line whenever more arrives.

Each step takes the rest of one line. A line counts without the white space around it; a blank
line says nothing, any other is a message or cannot be decoded. At the end of the stream a last
line without a line feed counts as well. -/

namespace FormatBridge

/-- What has arrived on a stream and has not been read. Errors are met behind all bytes, and the
    end behind all errors. -/
structure Inbound where
  /-- The bytes to be read next. -/
  bytes : Bytes
  /-- The texts of the errors that reading meets when no bytes are left, one each time. -/
  failures : List String
  /-- Whether the other side has closed the stream. -/
  ended : Bool
  deriving DecidableEq, Repr, Inhabited

namespace Inbound

/-- Nothing has arrived. -/
def empty : Inbound := ⟨[], [], false⟩

/-- Bytes arrive. -/
def feed (i : Inbound) (bytes : Bytes) : Inbound := { i with bytes := i.bytes ++ bytes }

/-- Reading will fail once with this text. -/
def fail (i : Inbound) (error : String) : Inbound :=
  { i with failures := i.failures ++ [error] }

/-- The other side closes the stream. -/
def finish (i : Inbound) : Inbound := { i with ended := true }

end Inbound

namespace LineReader

/-! ## Lines -/

/-- ASCII white space: space, tab, line feed, carriage return, form feed. -/
def isBlank (b : UInt8) : Bool := b = 0x20 || b = 0x09 || b = 0x0A || b = 0x0D || b = 0x0C

/-- A line without the white space at both ends. -/
def trim (line : Bytes) : Bytes :=
  ((line.dropWhile isBlank).reverse.dropWhile isBlank).reverse

/-- What a line says. -/
inductive Line where
  /-- Nothing: it is blank. -/
  | blank
  | message (m : Message)
  /-- Something that is no message. -/
  | undecodable

/-- What the bytes of a line say. -/
def judge (line : Bytes) : Line :=
  match trim line with
  | [] => .blank
  | body =>
    match Message.decode? body with
    | some m => .message m
    | none => .undecodable

end LineReader

/-- A stream together with the start of the line that is being read. -/
structure LineReader where
  /-- What was read since the last line feed. -/
  line : Bytes
  /-- What has arrived behind it. -/
  inbound : Inbound
  deriving DecidableEq, Repr, Inhabited

namespace LineReader

/-- A reader at the start of an empty stream. -/
def empty : LineReader := ⟨[], .empty⟩

/-! ## Steps -/

/-- What one step of reading gives. -/
inductive Reading where
  /-- Nothing yet: the bytes at hand held no whole line, or a blank one. -/
  | nothing
  | message (m : Message)
  | undecodable
  /-- An input error with this text. -/
  | failed (error : String)
  | ended

/-- The reading of a line that is followed by others. -/
def Line.reading : Line → Reading
  | .blank => .nothing
  | .message m => .message m
  | .undecodable => .undecodable

/-- The reading of the last line of a stream, where a blank one is the end itself. -/
def Line.lastReading : Line → Reading
  | .blank => .ended
  | line => line.reading

/-- A line starts here: bytes that are no line feed. -/
def insideLine (b : UInt8) : Bool := b != Message.lineFeed

/-- Reads the rest of the line at hand, or meets an error or the end; `none` when it has to wait
    for more to arrive. -/
def step (r : LineReader) : Option (Reading × LineReader) :=
  match r.inbound.bytes.dropWhile insideLine with
  | _ :: rest =>
    let line := r.line ++ r.inbound.bytes.takeWhile insideLine
    some ((judge line).reading, ⟨[], { r.inbound with bytes := rest }⟩)
  | [] =>
    match r.inbound.bytes with
    | _ :: _ => some (.nothing, ⟨r.line ++ r.inbound.bytes, { r.inbound with bytes := [] }⟩)
    | [] =>
      match r.inbound.failures with
      | error :: failures =>
        some (.failed error, ⟨r.line, { r.inbound with failures := failures }⟩)
      | [] =>
        if !r.inbound.ended then none
        else if r.line.isEmpty then some (.ended, r)
        else some ((judge r.line).lastReading, ⟨[], r.inbound⟩)

/-- What is left to be read. Every step takes some of it, except the one that meets the end. -/
def size (r : LineReader) : Nat :=
  2 * r.inbound.bytes.length + r.inbound.failures.length + min r.line.length 1

theorem size_step {r r' : LineReader} {x : Reading} (h : r.step = some (x, r'))
    (hx : x ≠ .ended) : r'.size < r.size := by
  unfold step at h
  split at h
  · rename_i b rest hrest
    simp only [Option.some.injEq, Prod.mk.injEq] at h
    obtain ⟨_, rfl⟩ := h
    have := Json.length_dropWhile_le insideLine r.inbound.bytes
    rw [hrest, List.length_cons] at this
    simp only [size, List.length_nil]
    omega
  · split at h
    · rename_i b bs hbytes
      simp only [Option.some.injEq, Prod.mk.injEq] at h
      obtain ⟨_, rfl⟩ := h
      simp only [size, hbytes, List.length_append, List.length_nil, List.length_cons]
      omega
    · rename_i hbytes
      split at h
      · rename_i error failures hfail
        simp only [Option.some.injEq, Prod.mk.injEq] at h
        obtain ⟨_, rfl⟩ := h
        simp only [size, hbytes, hfail, List.length_nil, List.length_cons]
        omega
      · split at h
        · simp at h
        · split at h
          · simp only [Option.some.injEq, Prod.mk.injEq] at h
            exact absurd h.1.symm hx
          · rename_i hline
            simp only [Option.some.injEq, Prod.mk.injEq] at h
            obtain ⟨_, rfl⟩ := h
            have : r.line.length ≠ 0 := by simpa using hline
            simp only [size, List.length_nil]
            omega

/-! ## Reading until nothing more is to be had -/

/-- Whether reading stops here: at an input error and at the end. -/
def Reading.isStop : Reading → Bool
  | .failed _ => true
  | .ended => true
  | _ => false

/-- Reads on until the stream pauses, fails or ends; gives what was read and the reader. -/
def drain (r : LineReader) : List Reading × LineReader :=
  match _h : r.step with
  | none => ([], r)
  | some (x, r') =>
    if _hx : x.isStop then ([x], r')
    else
      let (readings, last) := drain r'
      (match x with
        | .nothing => readings
        | x => x :: readings, last)
  termination_by r.size
  decreasing_by
    refine size_step _h ?_
    rintro rfl
    exact _hx rfl

/-! ## What arrives -/

/-- Bytes arrive. -/
def feed (r : LineReader) (bytes : Bytes) : LineReader :=
  { r with inbound := r.inbound.feed bytes }

/-- Reading will fail once with this text. -/
def fail (r : LineReader) (error : String) : LineReader :=
  { r with inbound := r.inbound.fail error }

/-- The other side closes the stream. -/
def finish (r : LineReader) : LineReader := { r with inbound := r.inbound.finish }

end LineReader

end FormatBridge
