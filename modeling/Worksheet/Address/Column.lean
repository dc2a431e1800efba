/-!
# Column letters

Columns are named `A` to `Z`, then `AA`, `AB` and so on.  Read as a number the
letters are digits from 1 to 26 in base 26, so there is no digit zero, and
every positive number has exactly one spelling.  Columns themselves are counted
from zero, one less than that number.

Letters of either case are read; capitals are written.
-/

namespace Worksheet

/-- Rows and columns counted from one fit in 64 bits. -/
def gridLimit : Nat := 0x10000000000000000

namespace Column

/-- The digit, from 1 to 26, that an ASCII letter of either case stands for. -/
def digit? (c : Char) : Option Nat :=
  if c.isAlpha then some (c.toUpper.toNat - 'A'.toNat + 1) else none

/-- Read letters as the remaining digits of a number, refusing numbers that do
not fit below `gridLimit`. -/
def numberFrom? (number : Nat) : List Char → Option Nat
  | [] => some number
  | c :: rest =>
      match digit? c with
      | none => none
      | some digit =>
          let longer := number * 26 + digit
          if longer < gridLimit then numberFrom? longer rest else none

/-- The column that one or more letters name, counted from zero. -/
def ofLetters? (letters : List Char) : Option Nat :=
  if letters.isEmpty then none else (numberFrom? 0 letters).map (· - 1)

/-- The capital letter for a digit counted from zero. -/
def letter (digit : Nat) : Char :=
  Char.ofNat ('A'.toNat + digit)

/-- Put the letters of a column in front of letters already written. -/
def lettersBefore (column : Nat) (written : List Char) : List Char :=
  let longer := letter (column % 26) :: written
  if column < 26 then longer else lettersBefore (column / 26 - 1) longer
termination_by column

/-- The capital letters that name a column counted from zero. -/
def letters (column : Nat) : List Char :=
  lettersBefore column []

end Column

end Worksheet
