import Worksheet.Address.Basic
import Worksheet.Json.Fields

/-!
# Addresses as JSON

An address is exchanged as the JSON object of its row and its column, both
counted from zero.  It is read from such an object or from the list of the two
numbers.
-/

namespace Worksheet.Address

/-- The fields of an address. -/
def jsonFields : List Json.Field :=
  [⟨"row".toList, .natural gridLimit, true⟩, ⟨"col".toList, .natural gridLimit, true⟩]

/-- An address as a JSON object. -/
def toJson (address : Address) : List Char :=
  "\x7b\"row\":".toList ++ Nat.toDigits 10 address.row ++ ",\"col\":".toList ++
    Nat.toDigits 10 address.column ++ ['\x7d']

/-- Read an address from JSON. -/
def ofJson (text : List Char) : Except Json.Fault Address :=
  match Json.read jsonFields text with
  | .error fault => .error fault
  | .ok values =>
      match values.natural? "row".toList, values.natural? "col".toList with
      | some row, some column => .ok ⟨row, column⟩
      | _, _ => .error .mismatched

end Worksheet.Address
