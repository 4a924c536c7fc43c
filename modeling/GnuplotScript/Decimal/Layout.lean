import GnuplotScript.Decimal.Integer
import GnuplotScript.Decimal.Shortest

/-!
# Layout of decimal numerals

How a number is written in scripts and messages: the shortest digits that read back, with a
decimal point in every finite number, or with an exponent where the point would stand far
from the digits. An integer with more digits than are ever read cannot be written either.

## Main definitions

* `Decimal.Layout` — the decisions of a numeral format
* `Decimal.layout` — the format of scripts and messages
* `Decimal.integer` — the numeral of an integer
* `Decimal.isWritable` — the integers that are written
* `Decimal.binary64` — the numeral of a floating-point number
-/

namespace GnuplotScript.Decimal

/-- The decisions of a format for numbers: the exponents of the first digit from which on,
and below which, the numeral has no exponent; the mark of the exponent; its least number of
digits; and the names of the values that are no finite number. -/
structure Layout where
  positionalFrom : Int
  positionalBelow : Int
  exponentMark : Char
  exponentWidth : Nat
  infinityName : String
  nanName : String

/-- Numerals are positional from a ten-thousandth up to ten to the sixteenth. -/
def layout : Layout where
  positionalFrom := -4
  positionalBelow := 16
  exponentMark := 'e'
  exponentWidth := 2
  infinityName := "inf"
  nanName := "nan"

/-- The digits of a natural number in base ten. -/
def natural (n : Nat) : List Char :=
  Nat.toDigits 10 n

/-- The numeral of an integer. -/
def integer (n : Int) : String :=
  String.ofList ((if n < 0 then ['-'] else []) ++ natural n.natAbs)

/-- Whether an integer is written: only if its numeral has no more digits than one that is read. -/
def isWritable (n : Int) : Bool :=
  (natural n.natAbs).length ≤ maxDigits

/-- Digits written after zeros up to the given width. -/
def padded (width n : Nat) : List Char :=
  let ds := natural n
  List.replicate (width - ds.length) '0' ++ ds

/-- Digits with a point after the first `whole` places; zeros fill the places without a
digit, and a digit stands on both sides of the point. -/
def positional (ds : List Char) (whole : Int) : List Char :=
  -- All digits are behind the point.
  if whole ≤ 0 then '0' :: '.' :: List.replicate (-whole).toNat '0' ++ ds
  else
    let front := ds.take whole.toNat
    let back := ds.drop whole.toNat
    front ++ List.replicate (whole.toNat - ds.length) '0' ++ '.' ::
      (if back.isEmpty then ['0'] else back)

/-- One digit, the others after a point, and the exponent with its sign. -/
def scientific (format : Layout) (ds : List Char) (exponent : Int) : List Char :=
  let front := match ds with
    | first :: second :: rest => first :: '.' :: second :: rest
    | short => short
  front ++ format.exponentMark :: (if exponent < 0 then '-' else '+') ::
    padded format.exponentWidth exponent.natAbs

/-- The numeral of a positive finite number. -/
def magnitude (format : Layout) (x : Binary64) : List Char :=
  let (coefficient, k) := Shortest.digits x
  let ds := natural coefficient
  -- The exponent of the first digit, of those that count units of `10 ^ k`.
  let exponent := k + ds.length - 1
  if format.positionalFrom ≤ exponent ∧ exponent < format.positionalBelow then
    positional ds (exponent + 1)
  else scientific format ds exponent

/-- The numeral of a floating-point number in a format. -/
def binary64In (format : Layout) (x : Binary64) : List Char :=
  let sign := if x.negative then ['-'] else []
  if x.isNaN then format.nanName.toList
  else if !x.isFinite then sign ++ format.infinityName.toList
  else if x.isZero then sign ++ ['0', '.', '0']
  else sign ++ magnitude format x

/-- The numeral of a floating-point number. -/
def binary64 (x : Binary64) : String :=
  String.ofList (binary64In layout x)

end GnuplotScript.Decimal
