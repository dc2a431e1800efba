import Worksheet.Address.Basic
import Worksheet.Formula.Error
import Worksheet.Json.Fields
import Worksheet.Sheet.Cell

/-!
# Records

A record is one cell as it is saved: its row counted from one, the letters of
its column, its text, its value and its color.  It is written as a JSON object
with these five fields in this order.  When it is read, the row and the column
are required; the texts that are missing are empty and a missing color is the
default one.

The value is saved for the benefit of other readers.  A sheet that is loaded
computes its values again.
-/

namespace Worksheet

/-- One saved cell. -/
structure Record where
  /-- The number of the row, counted from one. -/
  row : Nat
  /-- The letters of the column. -/
  column : String
  text : String
  value : String
  color : Color
  deriving DecidableEq, Repr

namespace Record

/-- The record of a cell. -/
def ofCell (address : Address) (cell : Cell) : Record :=
  { row := address.row + 1
    column := String.ofList (Column.letters address.column)
    text := cell.text
    value := cell.value
    color := cell.color }

/-- The name that the column letters and the row number make. -/
def name (record : Record) : String :=
  record.column ++ record.row.repr

/-- The address of the recorded cell. -/
def address? (record : Record) : Option Address :=
  match Column.ofLetters? record.column.toList with
  | none => none
  | some column => if record.row = 0 then none else some ⟨record.row - 1, column⟩

/-- The address of the recorded cell, or the error that there is no such cell. -/
def address (record : Record) : Except FormulaError Address :=
  match record.address? with
  | some address => .ok address
  | none => .error (.invalidCellReference record.name)

/-! ## Written form -/

/-- The record as a JSON object. -/
def write (record : Record) : List Char :=
  "\x7b\"row\":".toList ++ Nat.toDigits 10 record.row ++
    ",\"column\":".toList ++ Json.writeText record.column.toList ++
    ",\"text\":".toList ++ Json.writeText record.text.toList ++
    ",\"value\":".toList ++ Json.writeText record.value.toList ++
    ",\"color\":".toList ++ Nat.toDigits 10 record.color.toNat ++ ['\x7d']

/-- The fields of a record, in the order in which they are written. -/
def jsonFields : List Json.Field :=
  [ ⟨"row".toList, .natural gridLimit, true⟩,
    ⟨"column".toList, .text, true⟩,
    ⟨"text".toList, .text, false⟩,
    ⟨"value".toList, .text, false⟩,
    ⟨"color".toList, .natural UInt32.size, false⟩ ]

/-- The record with some fields, if it has those that are required. -/
def ofFields? (values : Json.FieldValues) : Option Record :=
  match values.natural? "row".toList, values.text? "column".toList with
  | some row, some column =>
      some
        { row
          column := String.ofList column
          text := String.ofList ((values.text? "text".toList).getD [])
          value := String.ofList ((values.text? "value".toList).getD [])
          color := ((values.natural? "color".toList).map UInt32.ofNat).getD defaultColor }
  | _, _ => none

/-- Read a record from JSON. -/
def read (text : List Char) : Except Json.Fault Record :=
  match Json.read jsonFields text with
  | .error fault => .error fault
  | .ok values =>
      match ofFields? values with
      | some record => .ok record
      | none => .error .mismatched

end Record

end Worksheet
