import FormatBridge.Decimal.Shortest
import FormatBridge.Json.Tree

set_option autoImplicit false

/-! # JSON values

A `Value` is JSON as data: texts, numbers, arrays, and objects whose members are sorted by key and
have each key once. A tree has a value when its strings are texts, its numbers are in range and its
containers are at most 127 deep (`Tree.value?`); of a repeated key the last value counts. -/

namespace FormatBridge.Json

/-! ## Texts -/

/-- The first half of a surrogate pair. -/
def isHighSurrogate (u : Nat) : Bool := 0xD800 ≤ u && u < 0xDC00

/-- The second half of a surrogate pair. -/
def isLowSurrogate (u : Nat) : Bool := 0xDC00 ≤ u && u < 0xE000

/-- The UTF-8 bytes behind those in `done` (last first) that a string's units stand for; `none`
    for half a surrogate pair. -/
def Quoted.bytesOnto? (done : Bytes) : Quoted → Option Bytes
  | [] => some done.reverse
  | .byte b :: rest => bytesOnto? (b :: done) rest
  | .code u :: rest =>
    if isHighSurrogate u then
      match rest with
      | .code v :: rest =>
        if isLowSurrogate v then
          let c := Char.ofNat ((u - 0xD800) * 0x400 + (v - 0xDC00) + 0x10000)
          bytesOnto? ((String.utf8EncodeChar c).reverse ++ done) rest
        else none
      | _ => none
    else if isLowSurrogate u then none
    else bytesOnto? ((String.utf8EncodeChar (Char.ofNat u)).reverse ++ done) rest

/-- The text that a quoted string stands for, if it stands for one. -/
def Quoted.text? (s : Quoted) : Option String := (bytesOnto? [] s).bind Utf8.decode?

/-! ## Numbers -/

/-- A number: a whole one of 64 bits is kept as it is, every other is a double. -/
inductive Number where
  | whole (n : Int)
  | double (x : Binary64)
  deriving DecidableEq, Repr

/-- The greatest whole number that is kept. -/
def maxWhole : Nat := 0xFFFFFFFFFFFFFFFF

/-- The least whole number that is kept. -/
def minWhole : Int := -0x8000000000000000

/-- Appends the digits to the number `n` as long as it stays within `maxWhole`; gives the number
    and how many digits were not taken. -/
def takeDigits (n : Nat) : List Char → Nat × Nat
  | [] => (n, 0)
  | d :: digits =>
    let next := Nat.ofDigitChars 10 [d] n
    if next ≤ maxWhole then takeDigits next digits else (n, digits.length + 1)

/-- The whole number with the digits `n` and the given sign. Minus zero is a double, because only
    doubles have it, and so is all that lies below `minWhole`. -/
def signedWhole? (negative : Bool) (n : Nat) : Option Number :=
  if !negative then some (.whole n)
  else if n = 0 || minWhole > -n then (Binary64.ofRatio? true n 1).map .double
  else some (.whole (-n))

/-- The number that is written; `none` when it is too large for a double. A number with a point,
    an exponent or more digits than 64 bits hold is a double: of its digits those that fit into 64
    bits count, and they are moved to their place by powers of ten. -/
def NumberText.number? (t : NumberText) : Option Number :=
  let (n, dropped) := takeDigits 0 t.whole
  if t.fraction.isNone && t.exponent.isNone && dropped = 0 then signedWhole? t.negative n
  else
    let digits := t.fraction.getD []
    let (n, droppedFraction) := takeDigits n digits
    let place : Int := dropped - (digits.length - droppedFraction : Nat)
    let moved : Int :=
      match t.exponent with
      | none => 0
      | some (negative, digits) =>
        let e : Int := Nat.ofDigitChars 10 digits 0
        if negative then -e else e
    (Binary64.ofDecimal? t.negative n (place + moved)).map .double

/-! ## Values -/

/-- A JSON value. The members of an object are sorted by key, and no key occurs twice. -/
inductive Value where
  | null
  | bool (b : Bool)
  | number (n : Number)
  | string (s : String)
  | array (items : List Value)
  | object (members : List (String × Value))
  deriving Repr, Inhabited

/-- Sets `key` to `v` among sorted members. -/
def insertMember (key : String) (v : Value) : List (String × Value) → List (String × Value)
  | [] => [(key, v)]
  | (k, w) :: rest =>
    if key < k then (key, v) :: (k, w) :: rest
    else if key = k then (key, v) :: rest
    else (k, w) :: insertMember key v rest

/-- Sorted members of the given ones, the last of each key. -/
def sortMembers (members : List (String × Value)) : List (String × Value) :=
  members.foldl (fun sorted (k, v) => insertMember k v sorted) []

namespace Value

/-- The object with these members, the last of each key. -/
def ofMembers (members : List (String × Value)) : Value := .object (sortMembers members)

/-- The members of an object. -/
def members? : Value → Option (List (String × Value))
  | .object members => some members
  | _ => none

/-- The value under `key` in an object. -/
def get? (v : Value) (key : String) : Option Value := v.members?.bind (·.lookup key)

/-- The text of a string. -/
def text? : Value → Option String
  | .string s => some s
  | _ => none

end Value

/-! ## The value of a tree -/

/-- How many containers may stand within each other. -/
def maxDepth : Nat := 127

mutual

/-- The value of a tree that has room for `room` nested containers. -/
def Tree.valueWithin? (room : Nat) : Tree → Option Value
  | .null => some .null
  | .bool b => some (.bool b)
  | .number n => n.number?.map .number
  | .string s => (Quoted.text? s).map .string
  | .array items =>
    match room with
    | 0 => none
    | room + 1 => (itemsWithin? room items).map .array
  | .object members =>
    match room with
    | 0 => none
    | room + 1 => (membersWithin? room members).map .ofMembers

/-- The values of an array's items. -/
def itemsWithin? (room : Nat) : List Tree → Option (List Value)
  | [] => some []
  | t :: rest => do
    let v ← t.valueWithin? room
    let vs ← itemsWithin? room rest
    return v :: vs

/-- The keys and values of an object's members, in the order in which they are written. -/
def membersWithin? (room : Nat) : List (Quoted × Tree) → Option (List (String × Value))
  | [] => some []
  | (k, t) :: rest => do
    let key ← Quoted.text? k
    let v ← t.valueWithin? room
    let vs ← membersWithin? room rest
    return (key, v) :: vs

end

/-- The value of a whole tree. -/
def Tree.value? (t : Tree) : Option Value := t.valueWithin? maxDepth

/-- The value of a JSON text. -/
def Value.parse? (s : Bytes) : Option Value := (Json.parse? s).bind Tree.value?

end FormatBridge.Json
