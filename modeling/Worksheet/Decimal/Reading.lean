import Worksheet.Decimal.Binary64

/-!
# Reading numbers

A number is written as an optional sign, digits with at most one point among,
before or after them, and an optional exponent: `12`, `-.5`, `3.`, `+1e-7`.
The words `inf`, `infinity` and `nan`, in letters of either case, stand for the
numbers that are not finite.  Nothing else is a number; in particular there
are no blanks inside one or around it.

The result is the binary64 number nearest to the decimal.
-/

namespace Worksheet.Decimal

/-- Decimals from `10 ^ 310` on are infinite. -/
def tooManyPlaces : Int := 310

/-- Decimals below `10 ^ -330` are zero. -/
def tooFewPlaces : Int := -330

/-- The bit pattern of the number nearest to `coefficient * 10 ^ exponent`. -/
def decimalBits (coefficient : Nat) (exponent : Int) : Nat :=
  if coefficient = 0 then 0
  else
    let places := exponent + (Nat.toDigits 10 coefficient).length
    if tooManyPlaces < places then infinityBits
    else if places < tooFewPlaces then 0
    else nearestBits (coefficient * powerAbove 10 exponent) (powerBelow 10 exponent)

/-- The number with the given digits before and after the point, times a power
of ten. -/
def ofDigits (negative : Bool) (whole fraction : List Char) (exponent : Int) : Float :=
  floatOfBits negative
    (decimalBits (Nat.ofDigitChars 10 (whole ++ fraction) 0) (exponent - fraction.length))

/-- Read a sign, and tell whether it is a minus. -/
def readSign : List Char → Bool × List Char
  | '-' :: rest => (true, rest)
  | '+' :: rest => (false, rest)
  | text => (false, text)

/-- Read the exponent that ends a number: nothing, or a letter `e` of either
case, an optional sign and digits. -/
def readExponent? : List Char → Option Int
  | [] => some 0
  | c :: rest =>
      if c = 'e' ∨ c = 'E' then
        let (negative, digits) := readSign rest
        if digits.isEmpty || !digits.all Char.isDigit then none
        else
          let size : Int := Nat.ofDigitChars 10 digits 0
          some (if negative then -size else size)
      else none

/-- Read the words for the numbers that are not finite. -/
def readWord? (negative : Bool) (text : List Char) : Option Float :=
  let word := String.ofList (text.map Char.toLower)
  if word = "inf" ∨ word = "infinity" then some (floatOfBits negative infinityBits)
  else if word = "nan" then some (Float.ofBits 0x7FF8000000000000)
  else none

/-- Read a whole text as a number. -/
def read? (text : List Char) : Option Float :=
  let (negative, unsigned) := readSign text
  let whole := unsigned.takeWhile Char.isDigit
  let afterWhole := unsigned.dropWhile Char.isDigit
  let (fraction, rest) :=
    match afterWhole with
    | '.' :: tail => (tail.takeWhile Char.isDigit, tail.dropWhile Char.isDigit)
    | _ => ([], afterWhole)
  if whole.isEmpty && fraction.isEmpty then readWord? negative unsigned
  else (readExponent? rest).map (ofDigits negative whole fraction)

end Worksheet.Decimal
