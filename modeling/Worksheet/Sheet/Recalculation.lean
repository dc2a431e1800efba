import Worksheet.Dependency.Cascade
import Worksheet.Sheet.Evaluation

/-!
# Recalculation

When a cell has changed, it and the cells that depend on it are evaluated in
the order that the cascade gives.  A cell whose evaluation fails shows a marker,
and the recalculation goes on.  The first failure is the fault of the whole
recalculation.

While this goes on the cells of the cascade are in the guard.  A cell that is
in the guard already cannot be recalculated.
-/

namespace Worksheet.Sheet

/-- What became of the evaluation of one cell. -/
structure Evaluation where
  cell : Address
  outcome : Except SheetError String

namespace Evaluation

/-- What the cell shows after the evaluation. -/
def shown (evaluation : Evaluation) : String :=
  match evaluation.outcome with
  | .ok value => value
  | .error fault => fault.cellError.marker

/-- The fault, if the evaluation failed. -/
def fault? (evaluation : Evaluation) : Option SheetError :=
  match evaluation.outcome with
  | .ok _ => none
  | .error fault => some fault

/-- The report on an evaluation. -/
def events (evaluation : Evaluation) : List LogEvent :=
  .evaluated evaluation.cell evaluation.shown :: (evaluation.fault?.map LogEvent.failed).toList

/-- The first fault among some evaluations. -/
def firstFault (evaluations : List Evaluation) : Except SheetError Unit :=
  match evaluations.findSome? fault? with
  | some fault => .error fault
  | none => .ok ()

end Evaluation

/-- Evaluate a cell and store its value or a marker.  If that changes the value,
the cell is announced. -/
def evaluateCell (sheet : Sheet) (address : Address) (onCycle : Bool) : Sheet × Evaluation :=
  match sheet.cell? address with
  | none => (sheet, ⟨address, .error (.outsideGrid address)⟩)
  | some cell =>
      let working := sheet.setCell address cell.evaluating
      let evaluation : Evaluation := ⟨address, working.compute address onCycle⟩
      let finished :=
        match evaluation.outcome with
        | .ok value => cell.settle value
        | .error fault => cell.fail fault.cellError
      let stored := working.setCell address finished
      (if finished.value = cell.value then stored else stored.announce address, evaluation)

/-- Evaluate cells one after another.  The evaluations done so far are reversed. -/
def evaluateFrom (sheet : Sheet) (done : List Evaluation) :
    List (Address × Bool) → Sheet × List Evaluation
  | [] => (sheet, done.reverse)
  | (address, onCycle) :: rest =>
      let (evaluated, evaluation) := sheet.evaluateCell address onCycle
      evaluateFrom evaluated (evaluation :: done) rest

/-- Evaluate a cell and all cells that depend on it, in an order in which each
comes after the cells that it reads. -/
def recalculate (sheet : Sheet) (address : Address) : Outcome :=
  if !sheet.contains address then .failure sheet (.outsideGrid address)
  else
    match sheet.guard.enter? address with
    | none => .failure sheet (.circularReference address)
    | some (entered, start) =>
        let (cascade, guard, scope) := Cascade.plan sheet.graph address entered start
        let (evaluated, evaluations) :=
          evaluateFrom { sheet with guard } [] cascade.steps
        { sheet := { evaluated with guard := evaluated.guard.release scope }
          result := Evaluation.firstFault evaluations
          log :=
            (LogEvent.cascade address cascade.order ::
              evaluations.flatMap Evaluation.events).toArray }

end Worksheet.Sheet
