/-!
# Finite binary numbers

Finite IEEE 754 doubles, kept as sign, significand and exponent, with exact integer arithmetic:
every operation forms the exact quotient of two integers and rounds it once. There is no infinity
and no NaN; an operation whose result is too large answers `none`.
-/
namespace DeviceIdentity.Decimal

/-- A finite double: `significand * 2 ^ exponent`, with a sign that zero has too. In canonical form
the significand is below `2 ^ 53`, the exponent lies between `-1074` and `971`, and the significand
is at least `2 ^ 52` unless the exponent is `-1074`. -/
structure Binary64 where
  negative : Bool
  significand : Nat
  exponent : Int
deriving DecidableEq, Repr, Inhabited

namespace Binary64

/-- Zero with the given sign. -/
def zero (negative : Bool) : Binary64 := ⟨negative, 0, -1074⟩

/-- Whether the number is a zero of either sign. -/
def isZero (x : Binary64) : Bool := x.significand == 0

/-- The number with its sign replaced. -/
def withSign (negative : Bool) (x : Binary64) : Binary64 := { x with negative }

/-- `num / den` rounded to an integer, a half to the even neighbour. -/
def roundDiv (num den : Nat) : Nat :=
  let q := num / den
  let r := num % den
  if 2 * r < den then q
  else if den < 2 * r then q + 1
  else q + q % 2

/-- `num / den / 2 ^ e`, as a quotient of integers. -/
def scaled (num den : Nat) (e : Int) : Nat × Nat :=
  if 0 ≤ e then (num, den * Nat.pow 2 e.toNat) else (num * Nat.pow 2 (-e).toNat, den)

/-- The exponent at which `num / den` has a significand of 53 bits, but not below `-1074`. -/
def exponentFor (num den : Nat) : Int :=
  -- Both logarithms are rounded down, so this is right or one too large.
  let e : Int := (Nat.log2 num : Int) - Nat.log2 den - 52
  let (n, d) := scaled num den e
  max (if n / d < Nat.pow 2 52 then e - 1 else e) (-1074)

/-- The double nearest to `num / den`, a tie to the even significand; `none` beyond the largest. -/
def ofRatio (num den : Nat) : Option Binary64 :=
  if num = 0 then some (zero false)
  else
    let e := exponentFor num den
    let (n, d) := scaled num den e
    let m := roundDiv n d
    -- Rounding up may have made the significand one bit longer.
    let (m, e) := if m = Nat.pow 2 53 then (Nat.pow 2 52, e + 1) else (m, e)
    if 971 < e then none else some ⟨false, m, e⟩

/-- The double nearest to `num / den * 2 ^ e`. -/
def ofScaled (num den : Nat) (e : Int) : Option Binary64 :=
  if 0 ≤ e then ofRatio (num * Nat.pow 2 e.toNat) den
  else ofRatio num (den * Nat.pow 2 (-e).toNat)

/-- The double nearest to a natural number. -/
def ofNat (n : Nat) : Option Binary64 := ofRatio n 1

/-- The product of the magnitudes, rounded. -/
def mul (x y : Binary64) : Option Binary64 :=
  ofScaled (x.significand * y.significand) 1 (x.exponent + y.exponent)

/-- The quotient of the magnitudes, rounded. -/
def div (x y : Binary64) : Option Binary64 :=
  ofScaled x.significand y.significand (x.exponent - y.exponent)

/-- The double nearest to a power of ten. -/
def tenPow (k : Nat) : Option Binary64 := ofNat (Nat.pow 10 k)

/-- `x * 10 ^ k` in one multiplication or division by the nearest double to the power of ten. Where
that power is itself too large, a number that is not zero is out of range; one too small is divided
by the largest power, `10 ^ 308`, until the rest fits. -/
def timesTenPow (x : Binary64) (k : Int) : Option Binary64 :=
  if k < -308 then
    if x.isZero then some x
    else do (← x.div (← tenPow 308)).timesTenPow (k + 308)
  else if k < 0 then do x.div (← tenPow k.natAbs)
  else if k ≤ 308 then do x.mul (← tenPow k.natAbs)
  else if x.isZero then some x
  else none
termination_by k.natAbs
decreasing_by omega

/-- Reading a decimal: the digits are rounded to a double, then scaled by the power of ten. -/
def ofDecimal (negative : Bool) (digits : Nat) (exponent : Int) : Option Binary64 := do
  return ((← (← ofNat digits).timesTenPow exponent)).withSign negative

end Binary64

end DeviceIdentity.Decimal
