import Worksheet.Formula.Basic
import Worksheet.Sheet.Basic

/-!
# Value of a cell

A text that is not a formula is its own value.  The value of a formula depends
on the cells that it names.  If one of them has no text the formula is 0; this
is decided in the order in which the formula names the cells, before a later one
is looked at.  Otherwise the value of each must be a number.  Names that are
not names of cells have no value, so the formula fails when it is evaluated.

A cell that reads itself and a cell on a reference cycle have no value.
-/

namespace Worksheet.Sheet

/-- The number that a formula reads from a cell, or nothing if that cell has no
text. -/
def operand (sheet : Sheet) (reading referenced : Address) : Except SheetError (Option Float) :=
  match sheet.cell? referenced with
  | none => .error (.formula reading (.invalidCellReference referenced.toString))
  | some cell =>
      if cell.text.isEmpty then .ok none
      else
        match Decimal.read? (Text.trim cell.value.toList) with
        | some number => .ok (some number)
        | none => .error (.nonNumericReference reading referenced cell.value)

/-- Give the variables of a formula the values of the cells that they name, or
nothing if one of these cells has no text. -/
def bind (sheet : Sheet) (reading : Address) (formula : Formula) :
    (names : List String) → Except SheetError (Option Formula)
  | [] => .ok (some formula)
  | name :: rest =>
      match Address.ofString? name with
      | none => sheet.bind reading formula rest
      | some referenced =>
          match sheet.operand reading referenced with
          | .error fault => .error fault
          | .ok none => .ok none
          | .ok (some number) =>
              match formula.set name number with
              | .error fault => .error (.formula reading fault)
              | .ok bound => sheet.bind reading bound rest

/-- The value of a formula in a cell. -/
def computeFormula (sheet : Sheet) (address : Address) (body : List Char) :
    Except SheetError String :=
  match Formula.parse sheet.operators body with
  | .error fault => .error (.formula address fault)
  | .ok formula =>
      match sheet.bind address formula formula.names with
      | .error fault => .error fault
      | .ok none => .ok "0"
      | .ok (some bound) =>
          match bound.evaluate with
          | .error fault => .error (.formula address fault)
          | .ok number => .ok (Decimal.writeValue number)

/-- The value of a cell, where `onCycle` says whether it is on a reference cycle. -/
def compute (sheet : Sheet) (address : Address) (onCycle : Bool) : Except SheetError String :=
  match sheet.cell? address with
  | none => .error (.outsideGrid address)
  | some cell =>
      match cell.formula? with
      | none => .ok cell.text
      | some body =>
          if (sheet.graph.precedentsOf address).contains address then
            .error (.selfReference address)
          else if onCycle then .error (.circularReference address)
          else sheet.computeFormula address body

end Worksheet.Sheet
