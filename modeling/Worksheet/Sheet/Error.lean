import Worksheet.Address.Basic
import Worksheet.File.Error
import Worksheet.Formula.Error
import Worksheet.Json.Fault
import Worksheet.Sheet.Cell
import Worksheet.Text.Quoted

/-!
# Faults of sheets

Each way in which an operation on a sheet can fail, with its message, the cell
that it is about, and the marker that this cell shows.
-/

namespace Worksheet

/-- The causes for which an operation on a sheet fails. -/
inductive SheetError where
  /-- The formula of a cell has no value, or the cell is outside the grid. -/
  | formula (cell : Address) (fault : FormulaError)
  | selfReference (cell : Address)
  | circularReference (cell : Address)
  /-- A formula reads a cell whose value is not a number. -/
  | nonNumericReference (cell reference : Address) (value : String)
  /-- Some records cannot be loaded, because they wait for each other. -/
  | circularDependency (cells : List Address)
  | file (fault : FileError)
  /-- A record names no cell. -/
  | recordAddress (line : Nat) (fault : FormulaError)
  /-- A line of a sheet file is not a record. -/
  | recordFormat (line : Nat) (fault : Json.Fault)
  | gridTooLarge (rows columns : Nat)
  | noFilePath
  | nothingToUndo
  | nothingToRedo
  deriving DecidableEq, Repr

namespace SheetError

/-- The error of an operation on a cell outside the grid. -/
def outsideGrid (cell : Address) : SheetError :=
  formula cell (.invalidCellReference cell.toString)

/-- The message for a fault. -/
def message : SheetError → String
  | formula cell fault => "Error in " ++ cell.toString ++ ": " ++ fault.message
  | selfReference cell => cell.toString ++ " refers to itself"
  | circularReference cell => cell.toString ++ " is part of a circular reference"
  | nonNumericReference cell reference value =>
      "Error in " ++ cell.toString ++ ": " ++ reference.toString ++
        " holds non-numeric value " ++ Text.quoted value
  | circularDependency cells =>
      "Circular dependency detected while loading: " ++ Address.joinNames ", " cells
  | file fault => "IO error: " ++ fault.message
  | recordAddress line fault => "Parse error at line " ++ line.repr ++ ": " ++ fault.message
  | recordFormat line _ => "Invalid record at line " ++ line.repr
  | gridTooLarge rows columns =>
      "Grid of " ++ rows.repr ++ " x " ++ columns.repr ++ " cells is too large"
  | noFilePath => "No file path set"
  | nothingToUndo => "Nothing to undo"
  | nothingToRedo => "Nothing to redo"

/-- The message of the fault behind this one, if it has one of its own. -/
def causeMessage? : SheetError → Option String
  | formula _ fault => some fault.message
  | file fault => some fault.message
  | _ => none

/-- The cell that a fault is about. -/
def cell? : SheetError → Option Address
  | formula cell _ => some cell
  | selfReference cell => some cell
  | circularReference cell => some cell
  | nonNumericReference cell _ _ => some cell
  | _ => none

/-- What a cell shows for a fault. -/
def cellError : SheetError → CellError
  | selfReference _ => .selfReference
  | circularReference _ => .circularReference
  | _ => .formula

end SheetError

end Worksheet
