import FormatBridge.Json.Token

set_option autoImplicit false

/-! # JSON trees: the grammar without a judgement on texts and numbers

`Json.parse?` reads a JSON text into a `Tree`: values nested in arrays and objects, with strings
and numbers still as they were written and members in the order and number in which they were
written. So a tree exists exactly for the texts that the JSON grammar admits, at any depth. What a
tree is worth as data is decided later and separately for each use of it: as a `Value`, as a
record, or not at all where a value is skipped.

The parser goes over the tokens once and keeps the containers that are still open on a stack. -/

namespace FormatBridge.Json

/-- A value as it is written. -/
inductive Tree where
  | null
  | bool (b : Bool)
  | number (n : NumberText)
  | string (s : Quoted)
  | array (items : List Tree)
  | object (members : List (Quoted × Tree))
  deriving Repr

/-- A container that is still open: what stands in it so far (last first) and, in an object, the
    key whose value is being read. -/
inductive Frame where
  | array (done : List Tree)
  | object (done : List (Quoted × Tree)) (key : Quoted)

/-- What the grammar wants next. -/
inductive Expect where
  | value
  /-- The first item of an array, or its end. -/
  | firstItem
  /-- The first key of an object, or its end. -/
  | firstKey
  /-- A further key of an object behind the members `done`. -/
  | key (done : List (Quoted × Tree))
  /-- The colon after a key. -/
  | colon (done : List (Quoted × Tree)) (key : Quoted)
  /-- What may follow the value `t`: a comma or an end, or nothing. -/
  | after (t : Tree)

/-- The move on a token that starts a value: a scalar is a value already, a bracket opens a
    container. -/
def startValue? (t : Token) : Option Expect :=
  match t with
  | .null => some (.after .null)
  | .bool b => some (.after (.bool b))
  | .number n => some (.after (.number n))
  | .string s => some (.after (.string s))
  | .openArray => some .firstItem
  | .openObject => some .firstKey
  | _ => none

/-- One move of the parser: the open containers and what is wanted, after one more token. -/
def advance? (stack : List Frame) (want : Expect) (t : Token) : Option (List Frame × Expect) :=
  match want, t with
  | .value, t => (startValue? t).map fun next => (stack, next)
  | .firstItem, .closeArray => some (stack, .after (.array []))
  | .firstItem, t => (startValue? t).map fun next => (.array [] :: stack, next)
  | .firstKey, .closeObject => some (stack, .after (.object []))
  | .firstKey, .string k => some (stack, .colon [] k)
  | .key done, .string k => some (stack, .colon done k)
  | .colon done k, .colon => some (.object done k :: stack, .value)
  | .after v, .comma =>
    match stack with
    | .array done :: stack => some (.array (v :: done) :: stack, .value)
    | .object done k :: stack => some (stack, .key ((k, v) :: done))
    | [] => none
  | .after v, .closeArray =>
    match stack with
    | .array done :: stack => some (stack, .after (.array (v :: done).reverse))
    | _ => none
  | .after v, .closeObject =>
    match stack with
    | .object done k :: stack => some (stack, .after (.object ((k, v) :: done).reverse))
    | _ => none
  | _, _ => none

/-- Goes on over the tokens that are left; at their end exactly one finished value has to stand. -/
def parseTokens? (stack : List Frame) (want : Expect) : List Token → Option Tree
  | [] =>
    match stack, want with
    | [], .after v => some v
    | _, _ => none
  | t :: tokens =>
    match advance? stack want t with
    | some (stack, want) => parseTokens? stack want tokens
    | none => none

/-- The tree of a JSON text. -/
def parse? (s : Bytes) : Option Tree := (tokens? s).bind (parseTokens? [] .value)

end FormatBridge.Json
