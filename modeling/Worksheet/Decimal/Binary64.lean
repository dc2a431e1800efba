/-!
# Exact values of binary64 numbers

A finite binary64 number is a sign and a natural number times a power of two.
Writing a number needs that exact value; reading one needs the opposite step,
the binary64 number nearest to a given fraction.  Both are done in exact
arithmetic on natural numbers.

A value halfway between two neighbours goes to the one with the even
significand, and a value too large for the format becomes infinite.
-/

namespace Worksheet.Decimal

/-- What a binary64 number stands for.  The magnitude of a finite number is
`significand * 2 ^ exponent`. -/
inductive Binary64 where
  | finite (negative : Bool) (significand : Nat) (exponent : Int)
  | infinite (negative : Bool)
  | notANumber
  deriving DecidableEq, Repr

/-- The least exponent of a finite number. -/
def leastExponent : Int := -1074

/-- The weight of the exponent field, and the least significand of a normal number. -/
def hiddenBit : Nat := 0x10000000000000

/-- The weight of the sign, which is above the exponent field of eleven bits. -/
def signBit : Nat := 0x8000000000000000

/-- The bit pattern of positive infinity. -/
def infinityBits : Nat := 2047 * hiddenBit

/-- The value of a number, read from the three fields of its bit pattern. -/
def Binary64.ofFloat (number : Float) : Binary64 :=
  let bits := number.toBits.toNat
  let negative := bits / signBit % 2 == 1
  let field : Nat := bits / hiddenBit % 0x800
  let fraction := bits % hiddenBit
  if field = 2047 then
    if fraction = 0 then .infinite negative else .notANumber
  else if field = 0 then .finite negative fraction leastExponent
  else .finite negative (hiddenBit + fraction) (field + leastExponent - 1)

/-- The part of a power of `base` that multiplies: the power itself if the
exponent is not negative, and otherwise one. -/
def powerAbove (base : Nat) (exponent : Int) : Nat :=
  Nat.pow base exponent.toNat

/-- The part of a power of `base` that divides: the inverse of the power if the
exponent is negative, and otherwise one. -/
def powerBelow (base : Nat) (exponent : Int) : Nat :=
  Nat.pow base (-exponent).toNat

/-- The natural number nearest to a fraction; a half goes to the even neighbour. -/
def roundToEven (numerator denominator : Nat) : Nat :=
  let quotient := numerator / denominator
  let remainder := numerator % denominator
  if 2 * remainder < denominator then quotient
  else if denominator < 2 * remainder then quotient + 1
  else quotient + quotient % 2

/-- The exponent at which a positive fraction has a significand of 53 bits, or
the least exponent if that is larger. -/
def exponentFor (numerator denominator : Nat) : Int :=
  let guess : Int := numerator.log2 - denominator.log2 - 52
  let significand :=
    numerator * powerBelow 2 guess / (denominator * powerAbove 2 guess)
  let exact := if significand < hiddenBit then guess - 1 else guess
  max exact leastExponent

/-- The bit pattern of the binary64 number nearest to a fraction.  A significand
rounded up to 54 bits carries into the exponent field. -/
def nearestBits (numerator denominator : Nat) : Nat :=
  if numerator = 0 then 0
  else
    let exponent := exponentFor numerator denominator
    let significand :=
      roundToEven (numerator * powerBelow 2 exponent) (denominator * powerAbove 2 exponent)
    min ((exponent - leastExponent).toNat * hiddenBit + significand) infinityBits

/-- The number with this sign and the bit pattern of this magnitude. -/
def floatOfBits (negative : Bool) (magnitude : Nat) : Float :=
  Float.ofBits (UInt64.ofNat (if negative then signBit + magnitude else magnitude))

end Worksheet.Decimal
