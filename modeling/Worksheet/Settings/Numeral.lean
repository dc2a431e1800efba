/-!
# Integers in settings files

An integer is written in decimal with an optional sign and no leading zeros, or
without a sign in hexadecimal, octal or binary after `0x`, `0o` or `0b`.  A
single underscore may stand between two digits.  Integers have 64 bits and a
sign.
-/

namespace Worksheet.Settings

/-- The value of a digit in some base up to sixteen. -/
def digitValue? (base : Nat) (c : Char) : Option Nat :=
  let value :=
    if '0' ≤ c ∧ c ≤ '9' then c.toNat - '0'.toNat
    else if 'a' ≤ c ∧ c ≤ 'f' then c.toNat - 'a'.toNat + 10
    else if 'A' ≤ c ∧ c ≤ 'F' then c.toNat - 'A'.toNat + 10
    else base
  if value < base then some value else none

/-- Read digits to the end of a text, each after at most one underscore and none
at the end.  The number read so far is given unless no digit has been read or
the last character was an underscore. -/
def digitsValue? (base : Nat) (number : Option Nat) (afterDigit : Bool) :
    List Char → Option Nat
  | [] => if afterDigit then number else none
  | c :: rest =>
      if c = '_' then
        if afterDigit then digitsValue? base number false rest else none
      else
        match digitValue? base c with
        | none => none
        | some digit => digitsValue? base (some (number.getD 0 * base + digit)) true rest

/-- The value of a whole text of digits. -/
def natural? (base : Nat) (digits : List Char) : Option Nat :=
  digitsValue? base none false digits

/-- The value of decimal digits without a leading zero. -/
def decimal? (digits : List Char) : Option Nat :=
  match digits with
  | '0' :: _ :: _ => none
  | _ => natural? 10 digits

/-- Refuse integers that do not fit in 64 bits with a sign. -/
def inRange? (value : Int) : Option Int :=
  if -0x8000000000000000 ≤ value ∧ value < 0x8000000000000000 then some value else none

/-- The value of a whole text that is an integer. -/
def integer? (text : List Char) : Option Int :=
  match text with
  | '+' :: digits => (decimal? digits).bind fun size => inRange? size
  | '-' :: digits => (decimal? digits).bind fun size => inRange? (-size)
  | '0' :: 'x' :: digits => (natural? 16 digits).bind fun size => inRange? size
  | '0' :: 'o' :: digits => (natural? 8 digits).bind fun size => inRange? size
  | '0' :: 'b' :: digits => (natural? 2 digits).bind fun size => inRange? size
  | digits => (decimal? digits).bind fun size => inRange? size

end Worksheet.Settings
