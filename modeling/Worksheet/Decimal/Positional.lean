import Worksheet.Decimal.Shortest

/-!
# Written numbers

Numbers are written in positional notation whatever their size, with the digits
of their shortest decimal and never with an exponent.  A point is written only
before digits.  The sign of zero is kept, and the numbers that are not finite
are written `inf`, `-inf` and `NaN`.

The value of a cell is written in the same way, except that both zeros are
written `0`.
-/

namespace Worksheet.Decimal

/-- Zeros at the end of a coefficient are moved into the exponent. -/
def Scaled.withoutTrailingZeros (decimal : Scaled) : Scaled :=
  if h : decimal.coefficient ≠ 0 ∧ decimal.coefficient % 10 = 0 then
    Scaled.withoutTrailingZeros ⟨decimal.coefficient / 10, decimal.exponent + 1⟩
  else decimal
termination_by decimal.coefficient
decreasing_by exact Nat.div_lt_self (Nat.pos_of_ne_zero h.1) (by decide)

/-- A decimal in positional notation. -/
def Scaled.positional (decimal : Scaled) : List Char :=
  let shown := decimal.withoutTrailingZeros
  let digits := Nat.toDigits 10 shown.coefficient
  if 0 ≤ shown.exponent then digits ++ List.replicate shown.exponent.toNat '0'
  else
    let places := (-shown.exponent).toNat
    if places < digits.length then
      digits.take (digits.length - places) ++ '.' :: digits.drop (digits.length - places)
    else
      '0' :: '.' :: List.replicate (places - digits.length) '0' ++ digits

/-- A sign for negative numbers. -/
def signed (negative : Bool) (text : List Char) : List Char :=
  if negative then '-' :: text else text

/-- A value in positional notation. -/
def Binary64.write : Binary64 → List Char
  | .notANumber => "NaN".toList
  | .infinite negative => signed negative "inf".toList
  | .finite negative significand exponent =>
      if significand = 0 then signed negative ['0']
      else signed negative (Neighbourhood.of significand exponent).shortest.positional

/-- A number in positional notation. -/
def write (number : Float) : String :=
  String.ofList (Binary64.ofFloat number).write

/-- The text of a computed value: a number in positional notation, and `0` for
both zeros. -/
def writeValue (number : Float) : String :=
  if number == 0 then "0" else write number

end Worksheet.Decimal
