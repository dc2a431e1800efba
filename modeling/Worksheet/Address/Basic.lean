import Worksheet.Address.Column

/-!
# Cell addresses

A cell is named by column letters and a row number counted from one, such as
`B3` or `AA10`.  An address holds the row and the column counted from zero.
Names are read with letters of either case and with leading zeros in the row
number; they are written with capitals and without leading zeros.
-/

namespace Worksheet

/-- The place of a cell, row and column counted from zero. -/
structure Address where
  row : Nat
  column : Nat
  deriving DecidableEq, Hashable, Inhabited, Repr

namespace Address

/-- The address that a name denotes: one or more letters and one or more
digits, with a row number of at least one and both numbers below `gridLimit`. -/
def ofName? (name : List Char) : Option Address :=
  let letters := name.takeWhile Char.isAlpha
  let digits := name.dropWhile Char.isAlpha
  if digits.isEmpty || !digits.all Char.isDigit then none
  else
    match Column.ofLetters? letters with
    | none => none
    | some column =>
        let number := Nat.ofDigitChars 10 digits 0
        if 0 < number && number < gridLimit then some ⟨number - 1, column⟩ else none

/-- `ofName?` for strings. -/
def ofString? (name : String) : Option Address :=
  ofName? name.toList

/-- The name of an address. -/
def name (address : Address) : List Char :=
  Column.letters address.column ++ Nat.toDigits 10 (address.row + 1)

/-- The name of an address as a string. -/
def toString (address : Address) : String :=
  String.ofList address.name

instance : ToString Address where
  toString := Address.toString

/-- Addresses are in reading order: by row, then by column. -/
def compareInReadingOrder (a b : Address) : Ordering :=
  (compare a.row b.row).then (compare a.column b.column)

instance : Ord Address where
  compare := compareInReadingOrder

/-- The names of some addresses with a separator between them. -/
def joinNames (separator : String) (addresses : List Address) : String :=
  separator.intercalate (addresses.map Address.toString)

end Address

end Worksheet
