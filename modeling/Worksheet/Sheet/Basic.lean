import Worksheet.Dependency.Graph
import Worksheet.Dependency.Guard
import Worksheet.Formula.Operator
import Worksheet.Log.Event
import Worksheet.Sheet.Changes
import Worksheet.Sheet.Grid
import Worksheet.Sheet.History

/-!
# Sheets

A sheet is a grid of cells of fixed size, together with what is needed to keep
the values of its formulas up to date: the operators that formulas may use, the
references between cells, the cells that are being evaluated, the changes that
wait to be announced, and the history of edits.  A sheet also knows the file it
belongs to and whether it has been changed since it was last saved or loaded.

An operation on a sheet gives the sheet afterwards, tells whether the operation
failed, and reports its progress as log events.  Many operations do their work
even if they fail: the text of a faulty formula is kept, and only its value
shows the fault.
-/

namespace Worksheet

/-- The largest number of cells of a sheet. -/
def maxCells : Nat := 1000000

/-- A grid of cells whose formulas are kept up to date. -/
structure Sheet where
  grid : Grid Cell
  operators : OperatorTable
  graph : DependencyGraph
  guard : Guard
  changes : Changes
  history : History
  /-- The file that the sheet belongs to. -/
  filePath : Option String
  /-- Has a text or a color changed since the sheet was saved or loaded? -/
  modified : Bool

/-- What an operation on a sheet has brought about. -/
structure Outcome where
  sheet : Sheet
  result : Except SheetError Unit
  log : Array LogEvent

namespace Outcome

/-- An operation that succeeded without a report. -/
def success (sheet : Sheet) : Outcome :=
  ⟨sheet, .ok (), #[]⟩

/-- An operation that failed without a report. -/
def failure (sheet : Sheet) (fault : SheetError) : Outcome :=
  ⟨sheet, .error fault, #[]⟩

/-- Go on with another operation whatever became of this one.  Of two faults
the first counts. -/
def andAlso (first : Outcome) (next : Sheet → Outcome) : Outcome :=
  let second := next first.sheet
  { sheet := second.sheet
    result :=
      match first.result with
      | .error fault => .error fault
      | .ok () => second.result
    log := first.log ++ second.log }

end Outcome

namespace Sheet

/-- A sheet of blank cells. -/
def blank (rows columns : Nat) : Sheet :=
  { grid := Grid.filled rows columns Cell.blank
    operators := OperatorTable.arithmetic
    graph := DependencyGraph.empty
    guard := Guard.empty
    changes := Changes.empty
    history := History.empty
    filePath := none
    modified := false }

/-- A sheet of blank cells, unless there would be too many of them. -/
def create (rows columns : Nat) : Except SheetError Sheet :=
  if rows * columns ≤ maxCells then .ok (blank rows columns)
  else .error (.gridTooLarge rows columns)

/-- The number of rows and the number of columns. -/
def dimensions (sheet : Sheet) : Nat × Nat :=
  (sheet.grid.rows, sheet.grid.columns)

/-- Is there a cell at an address? -/
def contains (sheet : Sheet) (address : Address) : Bool :=
  sheet.grid.contains address

/-- The cell at an address. -/
def cell? (sheet : Sheet) (address : Address) : Option Cell :=
  sheet.grid.get? address

/-- The cell at an address, or the error that the address is outside the grid. -/
def cell (sheet : Sheet) (address : Address) : Except SheetError Cell :=
  match sheet.cell? address with
  | some cell => .ok cell
  | none => .error (.outsideGrid address)

/-- Put a cell in place of another one. -/
def setCell (sheet : Sheet) (address : Address) (cell : Cell) : Sheet :=
  { sheet with grid := sheet.grid.set address cell }

/-- The cells that differ from blank ones in what is saved, row by row. -/
def modifiedCells (sheet : Sheet) : List (Address × Cell) :=
  sheet.grid.select fun _ cell => cell.isModified

/-- Is a cell being evaluated? -/
def isEvaluating (sheet : Sheet) (address : Address) : Bool :=
  sheet.guard.isEvaluating address

/-- Note that the value or the color of a cell has changed. -/
def announce (sheet : Sheet) (address : Address) : Sheet :=
  { sheet with changes := sheet.changes.announce address }

/-- Take out the changes that wait to be announced. -/
def takeChanges (sheet : Sheet) : List Address × Sheet :=
  (sheet.changes.toList, { sheet with changes := Changes.empty })

/-- Let the sheet belong to a file, or to none. -/
def withPath (sheet : Sheet) (path : Option String) : Sheet :=
  { sheet with filePath := path }

/-- Can an edit be undone? -/
def canUndo (sheet : Sheet) : Bool :=
  sheet.history.canUndo

/-- Can an edit be redone? -/
def canRedo (sheet : Sheet) : Bool :=
  sheet.history.canRedo

/-- Make all cells blank, and forget references and history.  The file path, the
operators and the changes that wait stay; the cells that were not blank count
as changed. -/
def reset (sheet : Sheet) : Sheet :=
  let cleared := sheet.grid.select fun _ cell => cell != Cell.blank
  { sheet with
    grid := Grid.filled sheet.grid.rows sheet.grid.columns Cell.blank
    graph := DependencyGraph.empty
    guard := Guard.empty
    changes := sheet.changes.announceAll (cleared.map Prod.fst)
    history := History.empty
    modified := false }

end Sheet

end Worksheet
