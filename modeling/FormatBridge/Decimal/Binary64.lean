set_option autoImplicit false

/-! # Finite double-precision numbers, exactly

A finite double is a sign, a significand and a power of two, so all of its arithmetic is arithmetic
on natural numbers followed by one rounding. `Binary64.ofRatio?` is that rounding: the nearest
double of a ratio, a half going to the even neighbour, `none` beyond the largest double.
Multiplication and division round the exact result once, and `Binary64.ofDecimal?` places a whole
number at a decimal position in such steps. -/

namespace FormatBridge

/-- The finite double `significand * 2 ^ exponent`, with a sign also on zero. The significand has
    53 bits, or fewer at the least exponent. -/
structure Binary64 where
  /-- Whether the number carries a minus sign. -/
  negative : Bool
  /-- The significand, below `2 ^ 53`. -/
  significand : Nat
  /-- The power of two, from -1074 to 971. -/
  exponent : Int
  deriving DecidableEq, Repr, Inhabited

namespace Binary64

/-! ## Rounding -/

/-- The least power of two of a double. -/
def minExponent : Int := -1074

/-- The greatest power of two of a double. -/
def maxExponent : Int := 971

/-- `num / den` to the nearest whole number, a half to the even one. -/
def roundDiv (num den : Nat) : Nat :=
  let q := num / den
  let r := num % den
  if den < 2 * r || (2 * r == den && q % 2 == 1) then q + 1 else q

/-- `num / den` divided by `2 ^ e`, again as a ratio. -/
def atExponent (num den : Nat) (e : Int) : Nat × Nat :=
  if 0 ≤ e then (num, den * Nat.pow 2 e.toNat) else (num * Nat.pow 2 (-e).toNat, den)

/-- The power of two at which `num / den` has 53 bits before the point, or the least one. -/
def exponentFor (num den : Nat) : Int :=
  let guess := max minExponent ((num.log2 : Int) - (den.log2 : Int) - 53)
  let (n, d) := atExponent num den guess
  if n / d < Nat.pow 2 53 then guess else guess + 1

/-- The double nearest to `num / den`; `none` when that is beyond the largest finite double. -/
def ofRatio? (negative : Bool) (num den : Nat) : Option Binary64 :=
  if num = 0 then some ⟨negative, 0, minExponent⟩
  else
    let e := exponentFor num den
    let (n, d) := atExponent num den e
    let m := roundDiv n d
    let x : Binary64 :=
      if m < Nat.pow 2 53 then ⟨negative, m, e⟩ else ⟨negative, Nat.pow 2 52, e + 1⟩
    if maxExponent < x.exponent then none else some x

/-! ## Arithmetic -/

/-- The numerator of the absolute value. -/
def num (x : Binary64) : Nat := x.significand * Nat.pow 2 x.exponent.toNat

/-- The denominator of the absolute value. -/
def den (x : Binary64) : Nat := Nat.pow 2 (-x.exponent).toNat

/-- The rounded product. -/
def mul? (x y : Binary64) : Option Binary64 :=
  ofRatio? (x.negative != y.negative) (x.num * y.num) (x.den * y.den)

/-- The rounded quotient by a number other than zero. -/
def div? (x y : Binary64) : Option Binary64 :=
  ofRatio? (x.negative != y.negative) (x.num * y.den) (x.den * y.num)

/-- The double nearest to `10 ^ k`. -/
def tenTo? (k : Nat) : Option Binary64 := ofRatio? false (Nat.pow 10 k) 1

/-- The greatest power of ten that is a double. -/
def maxTen : Nat := 308

/-- `x * 10 ^ e` in rounded steps of at most `10 ^ 308` each; `none` when it becomes too large. -/
def scale? (x : Binary64) (e : Int) : Option Binary64 :=
  if e.natAbs ≤ maxTen then do
    let ten ← tenTo? e.natAbs
    if 0 ≤ e then x.mul? ten else x.div? ten
  else if x.significand = 0 then some x
  else if 0 ≤ e then none
  else do
    let ten ← tenTo? maxTen
    let y ← x.div? ten
    scale? y (e + maxTen)
  termination_by e.natAbs
  decreasing_by simp only [maxTen] at *; omega

/-- The double for `n * 10 ^ e`: `n` is rounded first and then moved to its place. -/
def ofDecimal? (negative : Bool) (n : Nat) (e : Int) : Option Binary64 := do
  let x ← ofRatio? negative n 1
  x.scale? e

end Binary64

end FormatBridge
