import FormatBridge.Toml.Value

set_option autoImplicit false

/-! # TOML numbers and moments

A scalar without quotes is a run of words and dots. Which kind of number or moment it writes is told
from its start, and then the whole run has to follow the rules of that kind. A decimal integer is
told by the digits up to its first underscore; behind that underscore only the neighbours of
underscores are looked at. -/

namespace FormatBridge.Toml

/-! ## Characters -/

/-- A blank within a line. -/
def isBlank (c : Char) : Bool := c = ' ' || c = '\t'

/-- A decimal digit. -/
def isDecimal (c : Char) : Bool := '0' ≤ c && c ≤ '9'

/-- A hexadecimal digit of either case. -/
def isHex (c : Char) : Bool := isDecimal c || ('a' ≤ c && c ≤ 'f') || ('A' ≤ c && c ≤ 'F')

/-- An octal digit. -/
def isOctal (c : Char) : Bool := '0' ≤ c && c ≤ '7'

/-- A binary digit. -/
def isBinary (c : Char) : Bool := c = '0' || c = '1'

/-- The letter that starts an exponent. -/
def isExponentMark (c : Char) : Bool := c = 'e' || c = 'E'

/-! ## Underscores -/

/-- Whether every underscore in a text behind the character `before` has a digit of a kind on either
    side. -/
def underscoresFit (digit : Char → Bool) (before : Char) : List Char → Bool
  | [] => true
  | c :: rest =>
    (c ≠ '_' || (digit before && rest.head?.any digit)) && underscoresFit digit c rest

/-- Digits of a kind with underscores between them, or nothing. -/
def isSpaced (digit : Char → Bool) (s : List Char) : Bool :=
  s.all (fun c => digit c || c = '_') && underscoresFit digit '_' s

/-! ## Numbers -/

/-- A text without the sign in front of it. -/
def dropSign : List Char → List Char
  | '+' :: rest => rest
  | '-' :: rest => rest
  | s => s

/-- The digits and underscores at the front. -/
def digitRun (s : List Char) : List Char := s.takeWhile fun c => isDecimal c || c = '_'

/-- What follows the digits and underscores at the front, among which there is a digit. -/
def dropDigits? (s : List Char) : Option (List Char) :=
  if (digitRun s).any isDecimal then some (s.drop (digitRun s).length) else none

/-- What follows the whole part of a float: no zero stands in front of other digits. -/
def dropWhole? (s : List Char) : Option (List Char) :=
  if s.head? = some '0' && 1 < (digitRun s).countP isDecimal then none else dropDigits? s

/-- An exponent, or nothing. -/
def isExponent : List Char → Bool
  | [] => true
  | c :: rest => isExponentMark c && dropDigits? (dropSign rest) = some []

/-- What may stand behind the whole part of a float: a fraction, an exponent, or both. -/
def isFloatTail : List Char → Bool
  | '.' :: rest => (dropDigits? rest).any isExponent
  | s => isExponent s

/-- A decimal number without a sign, other than zero. A point or the letter of an exponent makes it
    a float. -/
def isDecimalNumber (unsigned : List Char) : Bool :=
  let tail := unsigned.dropWhile isDecimal
  if tail.any fun c => c = '.' || isExponentMark c then
    (dropWhole? unsigned).any isFloatTail && underscoresFit isDecimal '_' unsigned
  else
    unsigned ≠ [] && unsigned.head? ≠ some '0' && (tail = [] || tail.head? = some '_') &&
      !tail.contains ' ' && underscoresFit isHex '_' unsigned

/-- A number. Digits of another base than ten stand behind a prefix, and without a sign. -/
def isNumber : List Char → Bool
  | '0' :: 'x' :: digits => isSpaced isHex digits
  | '0' :: 'o' :: digits => isSpaced isOctal digits
  | '0' :: 'b' :: digits => isSpaced isBinary digits
  | s =>
    let unsigned := dropSign s
    unsigned = ['0'] || unsigned = ['i', 'n', 'f'] || unsigned = ['n', 'a', 'n'] ||
      isDecimalNumber unsigned

/-! ## Moments -/

/-- Two digits as a number. -/
def twoDigits? (a b : Char) : Option Nat :=
  if isDecimal a && isDecimal b then some (Nat.ofDigitChars 10 [a, b] 0) else none

/-- Whether a year is a leap year. -/
def isLeapYear (year : Nat) : Bool := year % 4 = 0 && (year % 100 ≠ 0 || year % 400 = 0)

/-- The number of days of a month. -/
def daysIn (year month : Nat) : Nat :=
  if month = 2 then if isLeapYear year then 29 else 28
  else if month = 4 || month = 6 || month = 9 || month = 11 then 30
  else 31

/-- Takes a date off the front. -/
def dropDate? : List Char → Option (List Char)
  | y₁ :: y₂ :: y₃ :: y₄ :: '-' :: m₁ :: m₂ :: '-' :: d₁ :: d₂ :: rest => do
    let century ← twoDigits? y₁ y₂
    let year ← twoDigits? y₃ y₄
    let month ← twoDigits? m₁ m₂
    let day ← twoDigits? d₁ d₂
    if 1 ≤ month && month ≤ 12 && 1 ≤ day && day ≤ daysIn (100 * century + year) month then
      some rest
    else none
  | _ => none

/-- Takes an hour and a minute off the front. -/
def dropMinutes? : List Char → Option (List Char)
  | h₁ :: h₂ :: ':' :: m₁ :: m₂ :: rest => do
    let hour ← twoDigits? h₁ h₂
    let minute ← twoDigits? m₁ m₂
    if hour ≤ 23 && minute ≤ 59 then some rest else none
  | _ => none

/-- Takes a fraction of a second off the front, when there is one. -/
def dropFraction? : List Char → Option (List Char)
  | '.' :: rest =>
    if (rest.takeWhile isDecimal).isEmpty then none else some (rest.dropWhile isDecimal)
  | s => some s

/-- Takes a time off the front; its seconds may be left out. -/
def dropTime? (s : List Char) : Option (List Char) := do
  match ← dropMinutes? s with
  | ':' :: a :: b :: rest =>
    let second ← twoDigits? a b
    if second ≤ 60 then dropFraction? rest else none
  | ':' :: _ => none
  | rest => some rest

/-- The difference to universal time, or nothing. -/
def isOffset : List Char → Bool
  | [] => true
  | [c] => c = 'Z' || c = 'z'
  | c :: rest => (c = '+' || c = '-') && dropMinutes? rest = some []

/-- The separators between a date and a time. -/
def isTimeMark (c : Char) : Bool := c = 'T' || c = 't' || c = ' '

/-- A date, a time, or a date with a time. -/
def isMoment (s : List Char) : Bool :=
  match dropDate? s with
  | some [] => true
  | some (c :: rest) => isTimeMark c && (dropTime? rest).any isOffset
  | none => dropTime? s = some []

/-! ## Scalars without quotes -/

/-- The value that a run of characters writes. -/
def bareValue? (s : List Char) : Option Value :=
  if s = ['t', 'r', 'u', 'e'] then some (.boolean true)
  else if s = ['f', 'a', 'l', 's', 'e'] then some (.boolean false)
  else if isNumber s then some (.number s)
  else if isMoment s then some (.moment s)
  else none

/-- A character that no word holds. -/
def endsWord (c : Char) : Bool :=
  isBlank c || c = '.' || c = '=' || c = ',' || c = '[' || c = ']' || c = '\x7b' || c = '\x7d' ||
    c = '#' || c = '\r' || c = '\n'

/-- A character that starts a word. A quotation mark starts a string instead, though a word may hold
    one further on. -/
def startsWord (c : Char) : Bool := !endsWord c && c ≠ '"' && c ≠ Char.ofNat 39

/-- Whether a scalar goes on, behind the character `last`, with the character `c` in front of
    `rest`: with a word, with a dot, or with blanks in front of a word. -/
def goesOn (last c : Char) (rest : List Char) : Bool :=
  if isBlank last || c = '.' then true
  else if isBlank c then (rest.dropWhile isBlank).head?.any startsWord
  else if last = '.' then startsWord c
  else !endsWord c

/-- How far a scalar goes, `done` characters of which, the last one `last`, stand in front. -/
def bareLength (done : Nat) (last : Char) : List Char → Nat
  | [] => done
  | c :: rest => if goesOn last c rest then bareLength (done + 1) c rest else done

/-- Reads a scalar without quotes. -/
def readBare? (s : List Char) : Option (Value × List Char) :=
  let n := bareLength 0 '.' s
  (bareValue? (s.take n)).map fun v => (v, s.drop n)

end FormatBridge.Toml
