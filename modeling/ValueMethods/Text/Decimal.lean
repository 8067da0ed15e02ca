import ValueMethods.Text.Split

/-!
# Shortest decimals

The decimal text of a floating point number: the fewest digits that read back as the number, and of
those the nearest to it.  A finite number is `mantissa * 2 ^ exponent`; the decimals that read back
as it are those between the midpoints to its neighbours, and the digits are found by trying ever
finer grids in exact arithmetic.
-/

namespace ValueMethods
namespace Decimal

/-- A positive decimal fraction: digits after a point, times a power of ten. -/
structure Digits where
  /-- The significant digits, the first one not zero. -/
  digits : List Char
  /-- How many places to the right of its start the point stands. -/
  point : Int
  deriving DecidableEq

/-- The digits of a number to base ten. -/
def digitsOf (value : Nat) : List Char :=
  Nat.toDigits 10 value

/-- How often a fraction below one can be multiplied by ten until it is at least one tenth. -/
def leadingZeros (limit numerator denominator : Nat) : Nat :=
  match limit with
  | 0 => 0
  | limit + 1 =>
      if denominator ≤ numerator * 10 then 0
      else leadingZeros limit (numerator * 10) denominator + 1

/-- The place of the point in front of the first digit of a positive fraction. -/
def pointOf (numerator denominator : Nat) : Int :=
  if denominator ≤ numerator then
    (digitsOf (numerator / denominator)).length
  else
    -(leadingZeros 400 numerator denominator : Int)

/-- A power of ten as a fraction. -/
def tenPower (exponent : Int) : Nat × Nat :=
  if 0 ≤ exponent then (Nat.pow 10 exponent.toNat, 1) else (1, Nat.pow 10 (-exponent).toNat)

/-- The fraction interval that reads back as one number; all three have the same denominator. -/
structure Interval where
  /-- The least fraction. -/
  low : Nat
  /-- The number itself. -/
  value : Nat
  /-- The greatest fraction. -/
  high : Nat
  /-- The common denominator. -/
  denominator : Nat
  /-- Whether the ends belong to the interval. -/
  closed : Bool
  deriving DecidableEq

/-- Whether a multiple of a unit lies in the interval. -/
def Interval.holds (interval : Interval) (multiple : Nat) (unit : Nat × Nat) : Bool :=
  let scaled := multiple * unit.1 * interval.denominator
  let low := interval.low * unit.2
  let high := interval.high * unit.2
  if interval.closed then decide (low ≤ scaled) && decide (scaled ≤ high)
  else decide (low < scaled) && decide (scaled < high)

/-- The multiple of a unit in the interval that is nearest to the value; of two that are equally
near the even one. -/
def Interval.nearest? (interval : Interval) (unit : Nat × Nat) : Option Nat :=
  let below := interval.value * unit.2 / (unit.1 * interval.denominator)
  let above := below + 1
  let doubled := 2 * interval.value * unit.2
  let middle := (below + above) * unit.1 * interval.denominator
  match interval.holds below unit, interval.holds above unit with
  | true, true =>
      if doubled < middle || (doubled == middle && below % 2 == 0) then some below else some above
  | true, false => some below
  | false, true => some above
  | false, false => none

/-- Digits without zeros at the end. -/
def dropEndZeros (digits : List Char) : List Char :=
  (digits.reverse.dropWhile (· = '0')).reverse

/-- Tries grids of `count`, `count + 1`, … digits. -/
def search (interval : Interval) (point : Int) : Nat → Nat → Digits
  | 0, count =>
      ⟨digitsOf (interval.value * Nat.pow 10 count / interval.denominator), point⟩
  | more + 1, count =>
      match interval.nearest? (tenPower (point - count)) with
      | some multiple =>
          let digits := digitsOf multiple
          ⟨dropEndZeros digits, point + ((digits.length : Int) - (count : Int))⟩
      | none => search interval point more (count + 1)

/-- The shortest decimal of `mantissa * 2 ^ exponent`.  Below a power of two the neighbours are
only half as far away. -/
def shortest (mantissa : Nat) (exponent : Int) (nearBelow : Bool) : Digits :=
  let scale : Nat := if 0 ≤ exponent then Nat.pow 2 exponent.toNat else 1
  let denominator : Nat := 4 * (if 0 ≤ exponent then 1 else Nat.pow 2 (-exponent).toNat)
  let interval : Interval :=
    { low := (4 * mantissa - (if nearBelow then 1 else 2)) * scale
      value := 4 * mantissa * scale
      high := (4 * mantissa + 2) * scale
      denominator
      closed := decide (mantissa % 2 = 0) }
  search interval (pointOf interval.value denominator) 17 1

/-! ## Floating point numbers -/

/-- A floating point number as digits. -/
inductive Shown where
  /-- Not a number. -/
  | nan
  /-- Greater or less than all numbers. -/
  | infinite (negative : Bool)
  /-- Zero with its sign. -/
  | zero (negative : Bool)
  /-- Any other number. -/
  | digits (negative : Bool) (value : Digits)
  deriving DecidableEq

/-- The digits of the number with the given bits: a sign, eleven bits of exponent and 52 bits of
mantissa. -/
def ofBits (bits : Nat) : Shown :=
  let negative := decide (Nat.pow 2 63 ≤ bits)
  let exponent : Nat := bits / Nat.pow 2 52 % Nat.pow 2 11
  let fraction : Nat := bits % Nat.pow 2 52
  if exponent = 2047 then
    if fraction = 0 then .infinite negative else .nan
  else if exponent = 0 then
    if fraction = 0 then .zero negative
    else .digits negative (shortest fraction (-1074) false)
  else
    .digits negative
      (shortest (Nat.pow 2 52 + fraction) ((exponent : Int) - 1075)
        (decide (fraction = 0) && decide (1 < exponent)))

/-- The digits of a floating point number. -/
def ofFloat (value : Float) : Shown :=
  ofBits value.toBits.toNat

/-! ## Layout -/

/-- A row of zeros. -/
def zeros (count : Int) : List Char :=
  List.replicate count.toNat '0'

/-- Digits with the point in its place, with at least one digit on each side. -/
def positional (value : Digits) : List Char :=
  let count : Int := value.digits.length
  if value.point ≤ 0 then
    ['0', '.'] ++ zeros (-value.point) ++ value.digits
  else if count ≤ value.point then
    value.digits ++ zeros (value.point - count) ++ ['.', '0']
  else
    value.digits.take value.point.toNat ++ '.' :: value.digits.drop value.point.toNat

/-- An exponent with its sign. -/
def exponentText (exponent : Int) : List Char :=
  (if exponent < 0 then '-' else '+') :: digitsOf exponent.natAbs

/-- Digits with one digit in front of the point and a power of ten after an `e`. -/
def scientific (value : Digits) : List Char :=
  let power := exponentText (value.point - 1)
  match value.digits with
  | [] => []
  | [digit] => digit :: 'e' :: power
  | digit :: rest => digit :: '.' :: rest ++ 'e' :: power

/-- A number with its sign. -/
def signed (negative : Bool) (text : List Char) : String :=
  String.ofList (if negative then '-' :: text else text)

/-- The text of a number.  Places of the point from `least` to `most` are written out, all others
as a power of ten. -/
def text (least most : Int) : Shown → String
  | .nan => "NaN"
  | .infinite negative => signed negative "inf".toList
  | .zero negative => signed negative "0.0".toList
  | .digits negative value =>
      if least ≤ value.point && value.point ≤ most then signed negative (positional value)
      else signed negative (scientific value)

end Decimal
end ValueMethods
