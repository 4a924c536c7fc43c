/-!
# Binary floating-point numbers of 64 bits

A number is given by its sign, its biased exponent and its fraction field, so that every
value of the type is one bit pattern and arithmetic on it is arithmetic on natural numbers.
Decimal numerals are rounded to the nearest number, a tie going to the even significand.

## Main definitions

* `Decimal.powerOf` — natural powers, with which quotients stand for all powers
* `Binary64` — the three fields of a number
* `Binary64.significand`, `Binary64.power` — a finite number is `significand * 2 ^ power`
* `Binary64.ofFraction` — the number nearest to a quotient of natural numbers
* `Binary64.ofDecimal` — the number nearest to a decimal numeral
* `Binary64.equals`, `Binary64.equalsInt` — equality of the numbers, in which a not-a-number
  is different from everything and the two zeros are one
-/

namespace GnuplotScript

/-- A power of a base, or one where the exponent is negative: `powerOf b k / powerOf b (-k)` is
`b ^ k` for every integer `k`. -/
def Decimal.powerOf (base : Nat) (exponent : Int) : Nat :=
  Nat.pow base exponent.toNat

/-- The weight of the leading bit of a significand of 53 bits, which is the number of fraction
fields too: `2 ^ 52`. -/
abbrev Binary64.leadingBit : Nat := 0x10000000000000

/-- A floating-point number: sign, biased exponent and fraction field. -/
structure Binary64 where
  negative : Bool
  exponent : Fin 2048
  fraction : Fin Binary64.leadingBit
  deriving DecidableEq, Repr

namespace Binary64

open Decimal (powerOf)

/-- Not a number. -/
def nan : Binary64 := ⟨false, 2047, 1⟩

/-- Infinity with the given sign. -/
def infinity (negative : Bool) : Binary64 := ⟨negative, 2047, 0⟩

/-- Zero with the given sign. -/
def zero (negative : Bool) : Binary64 := ⟨negative, 0, 0⟩

/-- Whether the exponent is that of the finite numbers. -/
def isFinite (x : Binary64) : Bool := x.exponent.val < 2047

/-- Whether the pattern stands for no number. -/
def isNaN (x : Binary64) : Bool := x.exponent.val == 2047 && x.fraction.val != 0

/-- The significand as an integer; the leading bit is implicit except in subnormal numbers. -/
def significand (x : Binary64) : Nat :=
  if x.exponent.val = 0 then x.fraction.val else leadingBit + x.fraction.val

/-- The power of two that the significand counts. -/
def power (x : Binary64) : Int :=
  (max 1 x.exponent.val : Nat) - 1075

/-- Whether the number is a zero of either sign. -/
def isZero (x : Binary64) : Bool := x.exponent.val == 0 && x.fraction.val == 0

/-- The place of a magnitude in increasing order: exponent and fraction field read as one
number. From the place of infinity on there is only infinity. -/
def ofPlace (negative : Bool) (place : Nat) : Binary64 :=
  -- A carry out of the fraction field moves on to the next exponent.
  if place < 2047 * leadingBit then
    ⟨negative, Fin.ofNat 2048 (place / leadingBit), Fin.ofNat leadingBit place⟩
  else infinity negative

/-- The integer nearest to a quotient; a tie goes to the even one. -/
def roundHalfEven (numerator denominator : Nat) : Nat :=
  let floor := numerator / denominator
  let rest := 2 * (numerator % denominator)
  if rest < denominator then floor
  else if denominator < rest then floor + 1
  -- Halfway, an odd quotient goes up and an even one stays.
  else floor + floor % 2

/-- The power of two that the significand of a quotient near `2 ^ scale` counts: with 53
bits, unless that is below the least power of all. -/
def gridPower (scale : Int) : Int :=
  max (scale - 53) (-1074)

/-- The place of the magnitude nearest to a positive quotient. -/
def nearestPlace (numerator denominator : Nat) : Nat :=
  let coarse := gridPower ((numerator.log2 : Int) - denominator.log2)
  let dividend (q : Int) : Nat := numerator * powerOf 2 (-q)
  let divisor (q : Int) : Nat := denominator * powerOf 2 q
  -- The logarithms may be off by one, and then the quotient has a bit too many.
  let q := if dividend coarse / divisor coarse < 2 * leadingBit then coarse else coarse + 1
  (q + 1074).toNat * leadingBit + roundHalfEven (dividend q) (divisor q)

/-- The number nearest to a quotient with a positive denominator. -/
def ofFraction (negative : Bool) (numerator denominator : Nat) : Binary64 :=
  if numerator = 0 then zero negative
  else ofPlace negative (nearestPlace numerator denominator)

/-- The number nearest to `digits * 10 ^ exponent`. Exponents far outside the range of the
format are decided by the number of digits, without computing the power. -/
def ofDecimal (negative : Bool) (digits : Nat) (exponent : Int) : Binary64 :=
  let length : Int := (Nat.toDigits 10 digits).length
  if digits = 0 || length + exponent < -330 then zero negative
  else if 310 < length + exponent then infinity negative
  else ofFraction negative (digits * powerOf 10 exponent) (powerOf 10 (-exponent))

/-- Whether two patterns stand for the same number. -/
def equals (x y : Binary64) : Bool :=
  -- Of different patterns only the two zeros are the same number.
  !x.isNaN && !y.isNaN && ((x.isZero && y.isZero) || x == y)

/-- Whether a pattern stands for the given integer. -/
def equalsInt (x : Binary64) (n : Int) : Bool :=
  x.isFinite && (x.significand == 0 || (x.negative == decide (n < 0)))
    && x.significand * powerOf 2 x.power == n.natAbs * powerOf 2 (-x.power)

end Binary64

end GnuplotScript
