import FormatBridge.Json.Value

set_option autoImplicit false

/-! # Compact JSON text

`Value.print` writes a value without white space: members in their order, strings with the least
escaping that JSON admits, whole numbers in decimal, and doubles in the fewest digits that read
back. Records print through the same pieces (`printObject`), with their fields in their own
order. -/

namespace FormatBridge.Json

/-! ## Strings -/

/-- The lower-case hexadecimal digit of a number below 16. -/
def hexDigit (n : Nat) : UInt8 := if n < 10 then UInt8.ofNat (0x30 + n) else UInt8.ofNat (0x57 + n)

/-- One byte of a string as it is written: the quotation mark, the backslash and the bytes below
    0x20 are escaped, in the short form where there is one. -/
def escapeByte (b : UInt8) : Bytes :=
  if b = 0x22 then [escapeMark, 0x22]
  else if b = 0x5C then [escapeMark, 0x5C]
  else if 0x20 ≤ b then [b]
  else if b = 0x08 then [escapeMark, 0x62]
  else if b = 0x0C then [escapeMark, 0x66]
  else if b = 0x0A then [escapeMark, 0x6E]
  else if b = 0x0D then [escapeMark, 0x72]
  else if b = 0x09 then [escapeMark, 0x74]
  else [escapeMark, 0x75, 0x30, 0x30, hexDigit (b.toNat / 16), hexDigit (b.toNat % 16)]

/-- A text in quotes. -/
def printString (s : String) : Bytes :=
  quoteMark :: ((Utf8.encode s).flatMap escapeByte ++ [quoteMark])

/-! ## Numbers -/

/-- Digits as bytes. -/
def printDigits (digits : List Char) : Bytes := digits.map fun c => UInt8.ofNat c.toNat

/-- A whole number in decimal. -/
def printWhole (n : Int) : Bytes :=
  if n < 0 then 0x2D :: printDigits (Nat.toDigits 10 n.natAbs)
  else printDigits (Nat.toDigits 10 n.natAbs)

/-- How doubles are laid out. -/
structure DoubleLayout where
  /-- The least decimal exponent (of the leading digit) that is written with a plain point. -/
  plainFrom : Int
  /-- The least decimal exponent above that which is written with an exponent again. -/
  plainBelow : Int
  /-- Whether a positive exponent carries its sign. -/
  signed : Bool

/-- From 0.00001 and below 10^16 a double is written with a plain point and at least one digit
    after it; beyond that with an exponent that always has a sign. -/
def doubleLayout : DoubleLayout := ⟨-5, 16, true⟩

/-- Digits without the zeros at their end, except that the first stays. -/
def trimZeros (digits : List Char) : List Char :=
  match (digits.reverse.dropWhile (· = '0')).reverse with
  | [] => ['0']
  | trimmed => trimmed

/-- The text of a positive decimal with the significant digits `digits`, whose first one stands at
    `10 ^ e`. -/
def DoubleLayout.layOut (layout : DoubleLayout) (digits : List Char) (e : Int) : List Char :=
  if layout.plainFrom ≤ e && e < layout.plainBelow then
    if e < 0 then '0' :: '.' :: List.replicate ((-e).toNat - 1) '0' ++ digits
    else
      let places := e.toNat + 1
      let whole := digits.take places ++ List.replicate (places - digits.length) '0'
      match digits.drop places with
      | [] => whole ++ ['.', '0']
      | fraction => whole ++ '.' :: fraction
  else
    let mantissa :=
      match digits with
      | d :: f :: rest => d :: '.' :: f :: rest
      | digits => digits
    let sign := if e < 0 then ['-'] else if layout.signed then ['+'] else []
    mantissa ++ 'e' :: sign ++ Nat.toDigits 10 e.natAbs

/-- A double in the fewest digits that read back. -/
def printDouble (x : Binary64) : Bytes :=
  let absolute :=
    if x.significand = 0 then ['0', '.', '0']
    else
      let d := x.shortest
      let digits := Nat.toDigits 10 d.digits
      doubleLayout.layOut (trimZeros digits) (d.exponent + digits.length - 1)
  printDigits (if x.negative then '-' :: absolute else absolute)

/-- A number. -/
def Number.print : Number → Bytes
  | .whole n => printWhole n
  | .double x => printDouble x

/-! ## Containers -/

/-- The items with commas between them. -/
def joinCommas : List Bytes → Bytes
  | [] => []
  | [s] => s
  | s :: rest => s ++ 0x2C :: joinCommas rest

/-- An array of printed items. -/
def printArray (items : List Bytes) : Bytes := 0x5B :: (joinCommas items ++ [0x5D])

/-- A key with its printed value. -/
def printMember (key : String) (printed : Bytes) : Bytes := printString key ++ 0x3A :: printed

/-- An object of keys and printed values, in the order given. -/
def printObject (members : List (String × Bytes)) : Bytes :=
  0x7B :: (joinCommas (members.map fun (k, s) => printMember k s) ++ [0x7D])

mutual

/-- The compact text of a value. -/
def Value.print : Value → Bytes
  | .null => [0x6E, 0x75, 0x6C, 0x6C]
  | .bool true => [0x74, 0x72, 0x75, 0x65]
  | .bool false => [0x66, 0x61, 0x6C, 0x73, 0x65]
  | .number n => n.print
  | .string s => printString s
  | .array items => printArray (printItems items)
  | .object members => printObject (printMembers members)

/-- The compact texts of items. -/
def printItems : List Value → List Bytes
  | [] => []
  | v :: rest => v.print :: printItems rest

/-- The members with the compact texts of their values. -/
def printMembers : List (String × Value) → List (String × Bytes)
  | [] => []
  | (k, v) :: rest => (k, v.print) :: printMembers rest

end

end FormatBridge.Json
