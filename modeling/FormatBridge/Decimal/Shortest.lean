import FormatBridge.Decimal.Binary64

set_option autoImplicit false

/-! # The fewest decimal digits that read back

A decimal reads back as a double when it lies in the interval of reals that round to the double.
`Binary64.shortest` looks at the decimal grids of 1, 2, … 17 digits in turn. The first grid with a
point in the interval gives the digits; of two such points the nearer one is taken, and of two
equally near ones the even one. Only the two neighbours of the double on a grid have to be tried,
because a grid that has any point in the interval has one of these two in it. -/

namespace FormatBridge

/-- The decimal `digits * 10 ^ exponent`. -/
structure Decimal where
  /-- All digits as one whole number. -/
  digits : Nat
  /-- The power of ten of the last digit. -/
  exponent : Int
  deriving DecidableEq, Repr, Inhabited

namespace Binary64

/-- The decimal exponent of the leading digit of `num / den`, for positive numbers. -/
def leadingExponent (num den : Nat) : Int :=
  let e : Int := (Nat.toDigits 10 num).length - (Nat.toDigits 10 den).length
  if den * Nat.pow 10 e.toNat ≤ num * Nat.pow 10 (-e).toNat then e else e - 1

/-- Whether `digits * 10 ^ e` rounds to `x`: it lies between the midpoints to the neighbours of
    `x`, which count themselves when the significand is even. All sides are scaled by 4 and to
    whole numbers. -/
def readsBack (x : Binary64) (digits : Nat) (e : Int) : Bool :=
  let unit := Nat.pow 2 x.exponent.toNat * Nat.pow 10 (-e).toNat
  let value := 4 * x.significand * unit
  let below := if x.significand = Nat.pow 2 52 && minExponent < x.exponent then unit else 2 * unit
  let above := 2 * unit
  let decimal := 4 * digits * Nat.pow 10 e.toNat * x.den
  if x.significand % 2 = 0 then value ≤ decimal + below && decimal ≤ value + above
  else value < decimal + below && decimal < value + above

/-- The nearest point to `x` on the grid of step `10 ^ e` that reads back as `x`. -/
def gridPoint? (x : Binary64) (e : Int) : Option Nat :=
  let n := x.num * Nat.pow 10 (-e).toNat
  let d := x.den * Nat.pow 10 e.toNat
  let lower := n / d
  match x.readsBack lower e && lower != 0, x.readsBack (lower + 1) e with
  | true, true => some (roundDiv n d)
  | true, false => some lower
  | false, true => some (lower + 1)
  | false, false => none

/-- The first grid that has a point for `x`, from the step `10 ^ e` on down, `count` grids at
    most. -/
def firstGrid (x : Binary64) : Nat → Int → Decimal
  | 0, e => ⟨x.num * Nat.pow 10 (-e).toNat / (x.den * Nat.pow 10 e.toNat), e⟩
  | count + 1, e =>
    match x.gridPoint? e with
    | some digits => ⟨digits, e⟩
    | none => firstGrid x count (e - 1)

/-- The shortest decimal that reads back as the absolute value of `x`, which is not zero. The
    search starts one step above the leading digit, where a number just below a power of ten has
    that power as its neighbour. -/
def shortest (x : Binary64) : Decimal := firstGrid x 18 (leadingExponent x.num x.den + 1)

end Binary64

end FormatBridge
