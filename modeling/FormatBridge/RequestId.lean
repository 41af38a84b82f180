set_option autoImplicit false

/-! # Request ids

The requests of one session are numbered from 0 by a counter of 64 bits, and a request's id is the
session, an underscore and the number. The number has no underscore in it, so an id names its
session and its number. -/

namespace FormatBridge

/-! ## Numbers -/

/-- A counter of 64 bits; behind the greatest number it starts again at 0. -/
structure Counter where
  /-- The number to be given out next. -/
  next : Nat
  deriving DecidableEq, Repr, Inhabited

namespace Counter

/-- How many different numbers there are. -/
def size : Nat := 0x10000000000000000

/-- The next number, and the counter behind it. -/
def take (c : Counter) : Nat × Counter := (c.next, ⟨(c.next + 1) % size⟩)

/-- The next `n` numbers in order, and the counter behind them. -/
def takeMany (c : Counter) : Nat → List Nat × Counter
  | 0 => ([], c)
  | n + 1 =>
    let (number, c) := c.take
    let (numbers, c) := c.takeMany n
    (number :: numbers, c)

end Counter

/-! ## Ids -/

/-- The id of the request with the number `n` in a session. -/
def requestId (session : String) (n : Nat) : String := session ++ "_" ++ toString n

theorem toString_inj {m n : Nat} (h : toString m = toString n) : m = n := by
  have hdigits : Nat.toDigits 10 m = Nat.toDigits 10 n := by
    simpa using congrArg String.toList h
  have hvalue := congrArg (Nat.ofDigitChars 10 · 0) hdigits
  simpa [Nat.ofDigitChars_toDigits] using hvalue

theorem requestId_inj {session : String} {m n : Nat} :
    requestId session m = requestId session n ↔ m = n := by
  refine ⟨fun h => ?_, fun h => by rw [h]⟩
  exact toString_inj ((String.append_right_inj (session ++ "_")).1 h)

/-- A source of request ids. -/
structure IdSource where
  session : String
  counter : Counter
  deriving DecidableEq, Repr, Inhabited

namespace IdSource

/-- The source of a new session. -/
def ofSession (session : String) : IdSource := ⟨session, ⟨0⟩⟩

/-- The next id, and the source behind it. -/
def take (source : IdSource) : String × IdSource :=
  let (number, counter) := source.counter.take
  (requestId source.session number, { source with counter := counter })

/-- The next `n` ids in order, and the source behind them. -/
def takeMany (source : IdSource) : Nat → List String × IdSource
  | 0 => ([], source)
  | n + 1 =>
    let (id, source) := source.take
    let (ids, source) := source.takeMany n
    (id :: ids, source)

end IdSource

/-! ## Sessions -/

/-- The two hexadecimal digits of a byte. -/
def hexPair (b : UInt8) : List Char := [Nat.digitChar (b.toNat / 16), Nat.digitChar (b.toNat % 16)]

/-- The name of a session from 16 random bytes: a random identifier of 128 bits, of which six are
    fixed, written in groups of 8, 4, 4, 4 and 12 hexadecimal digits. -/
def randomSession (random : List UInt8) : String :=
  let fixed := (random.modify 6 fun b => b % 0x10 + 0x40).modify 8 fun b => b % 0x40 + 0x80
  let group (first count : Nat) : String :=
    String.ofList (((fixed.drop first).take count).flatMap hexPair)
  String.intercalate "-" [group 0 4, group 4 2, group 6 2, group 8 2, group 10 6]

end FormatBridge
