import GnuplotScript.Decimal.Binary64

/-!
# Shortest decimal digits

Among the decimal numerals that round to a number, the shortest is a multiple of the largest
power of ten that has a multiple in the interval of reals rounding to it. Of several such
multiples the one nearest to the number is taken, and of two at the same distance the even
one. All comparisons are between natural numbers: the interval is measured in quarters of
the last place of the number, and both sides are brought to a common denominator.

## Main definitions

* `Shortest.Interval` — the reals that round to a number
* `Shortest.nearestMultiple?` — the multiple of a power of ten in the interval
* `Shortest.digits` — the digits of the shortest numeral and the power of ten they count
-/

namespace GnuplotScript.Shortest

open Decimal (powerOf)

/-- The reals that round to a positive number, in quarters of its last place: the ends, and
whether the ends themselves round to the number. -/
structure Interval where
  low : Nat
  center : Nat
  high : Nat
  closed : Bool
  unit : Int

/-- Below a power of two the numbers are twice as dense, so the lower end is then nearer. -/
def Interval.of (x : Binary64) : Interval where
  low := 4 * x.significand - (if x.fraction.val = 0 ∧ 1 < x.exponent.val then 1 else 2)
  center := 4 * x.significand
  high := 4 * x.significand + 2
  closed := x.significand % 2 == 0
  unit := x.power - 2

/-- What a multiple of `10 ^ k` and a count of units are multiplied with to be compared. -/
def scales (unit k : Int) : Nat × Nat :=
  (powerOf 10 k * powerOf 2 (-unit), powerOf 2 unit * powerOf 10 (-k))

/-- Whether the positive multiple `d * 10 ^ k` lies in the interval. -/
def Interval.contains (i : Interval) (k : Int) (d : Nat) : Bool :=
  let (ten, two) := scales i.unit k
  0 < d && if i.closed then i.low * two ≤ d * ten && d * ten ≤ i.high * two
    else i.low * two < d * ten && d * ten < i.high * two

/-- The multiple of `10 ^ k` in the interval that is nearest to its centre. -/
def nearestMultiple? (i : Interval) (k : Int) : Option Nat :=
  let (ten, two) := scales i.unit k
  let below := i.center * two / ten
  let excess := 2 * (i.center * two % ten)
  -- Of two multiples equally near, the even one is taken.
  let up := ten < excess || (excess == ten && below % 2 == 1)
  match i.contains k below, i.contains k (below + 1) with
  | true, true => some (if up then below + 1 else below)
  | true, false => some below
  | false, true => some (below + 1)
  | false, false => none

/-- The first power of ten, going down, with a multiple in the interval. -/
def search (i : Interval) : Nat → Int → Nat × Int
  | 0, k => (i.center, k)
  | steps + 1, k =>
    match nearestMultiple? i k with
    | some d => (d, k)
    | none => search i steps (k - 1)

/-- The shortest digits of a positive finite number and the power of ten that they count.
The search starts above the greatest number and ends below the least. -/
def digits (x : Binary64) : Nat × Int :=
  search (Interval.of x) 640 309

end GnuplotScript.Shortest
