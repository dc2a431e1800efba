import Worksheet.Decimal.Binary64

/-!
# Shortest decimals

Many decimals are nearer to a given binary64 number than to any other, and each
of them reads back as that number.  The one to write has the fewest digits, is
the nearest of those, and lies above the number if two are equally near.

The decimals with a given count of digits form a grid around the number.  The
search tries one digit, two digits and so on.  If any point of a grid reads
back then one of the two next to the number does, and with seventeen digits
one always does.
-/

namespace Worksheet.Decimal

/-- The decimal `coefficient * 10 ^ exponent`. -/
structure Scaled where
  coefficient : Nat
  exponent : Int
  deriving DecidableEq, Repr

/-- A positive fraction and the two ends of the interval of fractions that
round to it, all three over one denominator. -/
structure Neighbourhood where
  low : Nat
  value : Nat
  high : Nat
  denominator : Nat
  /-- Do the ends of the interval themselves round to the value? -/
  closed : Bool
  deriving Repr

namespace Neighbourhood

/-- The neighbourhood of the number `significand * 2 ^ exponent`.  Below a power
of two the numbers lie twice as close, so the interval is shorter there. -/
def of (significand : Nat) (exponent : Int) : Neighbourhood :=
  let unit := powerAbove 2 (exponent - 2)
  let below := if significand = hiddenBit && leastExponent < exponent then 1 else 2
  { low := (4 * significand - below) * unit
    value := 4 * significand * unit
    high := (4 * significand + 2) * unit
    denominator := powerBelow 2 (exponent - 2)
    closed := significand % 2 = 0 }

/-- The place of the first decimal digit: the exponent of the largest power of
ten that does not exceed the value. -/
def leadingPlace (around : Neighbourhood) : Int :=
  if around.denominator ≤ around.value then
    (Nat.toDigits 10 (around.value / around.denominator)).length - 1
  else
    -(Nat.toDigits 10 ((around.denominator - 1) / around.value)).length

/-- Does a fraction round to the value? -/
def holds (around : Neighbourhood) (numerator denominator : Nat) : Bool :=
  let point := numerator * around.denominator
  let low := around.low * denominator
  let high := around.high * denominator
  if around.closed then low ≤ point && point ≤ high else low < point && point < high

/-- The coefficient of the nearest decimal at a place that rounds to the value,
if one does. -/
def coefficientAt? (around : Neighbourhood) (place : Int) : Option Nat :=
  let above := powerAbove 10 place
  let below := powerBelow 10 place
  let numerator := around.value * below
  let denominator := around.denominator * above
  let lower := numerator / denominator
  let upper := lower + 1
  let lowerHolds := around.holds (lower * above) below
  let upperHolds := around.holds (upper * above) below
  if lowerHolds && upperHolds then
    some (if 2 * (numerator % denominator) < denominator then lower else upper)
  else if lowerHolds then some lower
  else if upperHolds then some upper
  else none

/-- Try the given place and up to `tries` places after it. -/
def shortestFrom (around : Neighbourhood) (place : Int) : (tries : Nat) → Scaled
  | 0 => ⟨around.value * powerBelow 10 place / (around.denominator * powerAbove 10 place), place⟩
  | tries + 1 =>
      match around.coefficientAt? place with
      | some coefficient => ⟨coefficient, place⟩
      | none => around.shortestFrom (place - 1) tries

/-- The shortest decimal that rounds to the value. -/
def shortest (around : Neighbourhood) : Scaled :=
  around.shortestFrom around.leadingPlace 17

end Neighbourhood

end Worksheet.Decimal
