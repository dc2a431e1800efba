import Worksheet.Decimal.Reading
import Worksheet.Json.Fault

/-!
# JSON numbers

Only natural numbers that fit in 64 bits can be the value of a field.  Any
other number is read through to its end, because a fault inside it counts
before the fact that it does not fit the field.

A number that is too large to be represented at all is a fault of the text.
Whether it is follows from its first digits that fit in 64 bits, taken as a
binary64 number, and from the place of the decimal point after them.
-/

namespace Worksheet.Json

/-- A number that has been read. -/
inductive Number where
  | natural (value : Nat)
  /-- A negative number, one with a fraction or an exponent, or one that does not fit in 64 bits. -/
  | other
  deriving DecidableEq, Repr

/-- Append digits to a number as long as it fits in 64 bits, and give the digits
that are left. -/
def takeDigits (number : Nat) : List Char → Nat × List Char
  | [] => (number, [])
  | c :: rest =>
      let longer := number * 10 + (c.toNat - '0'.toNat)
      if longer < 0x10000000000000000 then takeDigits longer rest else (number, c :: rest)

/-- Is the number `significand * 10 ^ exponent` too large to be represented? -/
def isTooLarge (significand : Nat) (exponent : Int) : Bool :=
  if significand = 0 then false
  else if 308 < exponent then true
  else if exponent < 0 then false
  else
    let factor := Decimal.floatOfBits false (Decimal.nearestBits significand 1)
    let power := Decimal.floatOfBits false (Decimal.nearestBits (Decimal.powerAbove 10 exponent) 1)
    (factor * power).isInf

/-- The largest exponent that is looked at. -/
def exponentLimit : Nat := 0x80000000

/-- The digits of the fraction that starts a text, if it starts with a point,
and the text after them. -/
def readFraction (text : List Char) : Except Fault (List Char × List Char) :=
  match text with
  | '.' :: tail =>
      match tail.takeWhile Char.isDigit with
      | [] => .error (if tail.isEmpty then .truncated else .malformed)
      | digits => .ok (digits, tail.dropWhile Char.isDigit)
  | _ => .ok ([], text)

/-- The exponent that starts a text, if it starts with a letter `e` of either
case, and the text after it. -/
def readExponent (text : List Char) : Except Fault (Option (Bool × Nat) × List Char) :=
  match text with
  | [] => .ok (none, [])
  | c :: tail =>
      if c = 'e' ∨ c = 'E' then
        let (negative, unsigned) := Decimal.readSign tail
        match unsigned.takeWhile Char.isDigit with
        | [] => .error (if unsigned.isEmpty then .truncated else .malformed)
        | digits =>
            .ok (some (negative, Nat.ofDigitChars 10 digits 0), unsigned.dropWhile Char.isDigit)
      else .ok (none, text)

/-- Is a number with the given digits before and after the point and the given
exponent too large to be represented?  An exponent beyond `exponentLimit`
decides alone, unless all digits are zero. -/
def isOverflow (whole fraction : List Char) (exponent : Option (Bool × Nat)) : Bool :=
  let (leading, dropped) := takeDigits 0 whole
  let (significand, skipped) := takeDigits leading fraction
  let point : Int := dropped.length - (fraction.length - skipped.length : Nat)
  match exponent with
  | none => isTooLarge significand point
  | some (negative, size) =>
      if exponentLimit ≤ size then !negative && significand != 0
      else isTooLarge significand (if negative then point - size else point + size)

/-- Read the digits of a number without its sign. -/
def readUnsigned (negative : Bool) (text : List Char) : Except Fault (Number × List Char) :=
  match text with
  | [] => .error .truncated
  | c :: _ =>
      if !c.isDigit then .error .malformed
      else
        let digits := text.takeWhile Char.isDigit
        if c = '0' ∧ digits.length ≠ 1 then .error .malformed
        else
          match readFraction (text.dropWhile Char.isDigit) with
          | .error fault => .error fault
          | .ok (fraction, afterFraction) =>
              match readExponent afterFraction with
              | .error fault => .error fault
              | .ok (exponent, rest) =>
                  let (value, dropped) := takeDigits 0 digits
                  if !negative && dropped.isEmpty && fraction.isEmpty && exponent.isNone then
                    .ok (.natural value, rest)
                  else if isOverflow digits fraction exponent then .error .malformed
                  else .ok (.other, rest)

/-- Read a number. -/
def readNumber (text : List Char) : Except Fault (Number × List Char) :=
  match text with
  | '-' :: tail => readUnsigned true tail
  | _ => readUnsigned false text

end Worksheet.Json
