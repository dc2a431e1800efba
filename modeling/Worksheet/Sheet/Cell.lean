/-!
# Cells

A cell holds the text that was entered, the value computed from it, a
background color, and how its last evaluation went.  A text that starts with
`=` is a formula; every other text is its own value.
-/

namespace Worksheet

/-- A background color, packed as red, green and blue bytes. -/
abbrev Color := UInt32

/-- The color of a cell to which none was given: white. -/
def defaultColor : Color := 0xFFFFFF

/-- How far the evaluation of a cell has come. -/
inductive CellState where
  /-- The text has not been evaluated. -/
  | idle
  | evaluating
  /-- The cell has a value. -/
  | settled
  /-- The evaluation failed, and the cell shows a marker. -/
  | errored
  deriving DecidableEq, Repr

/-- The kinds of failure that a cell shows. -/
inductive CellError where
  | selfReference
  | circularReference
  | formula
  deriving DecidableEq, Repr

/-- What a failed cell shows in place of a value. -/
def CellError.marker : CellError → String
  | .selfReference => "#SELF!"
  | .circularReference => "#CYCLE!"
  | .formula => "#ERR!"

/-- A cell of a sheet. -/
structure Cell where
  /-- The text as entered. -/
  text : String
  /-- The computed value, or a marker. -/
  value : String
  color : Color
  error : Option CellError
  state : CellState
  deriving DecidableEq, Repr

namespace Cell

/-- A cell without text in the default color. -/
def blank : Cell :=
  { text := "", value := "", color := defaultColor, error := none, state := .idle }

/-- The part of a text after the `=` that makes it a formula. -/
def formulaOf? (text : List Char) : Option (List Char) :=
  match text with
  | '=' :: body => some body
  | _ => none

/-- The formula of a cell, without its `=`. -/
def formula? (cell : Cell) : Option (List Char) :=
  formulaOf? cell.text.toList

/-- Does the cell hold a formula? -/
def isFormula (cell : Cell) : Bool :=
  cell.formula?.isSome

/-- Does the cell differ from a blank one in what is saved? -/
def isModified (cell : Cell) : Bool :=
  !cell.text.isEmpty || cell.color != defaultColor

/-- The cell with a new text, not evaluated yet. -/
def withText (cell : Cell) (text : String) : Cell :=
  { cell with text, state := .idle }

/-- The cell while it is evaluated. -/
def evaluating (cell : Cell) : Cell :=
  { cell with state := .evaluating }

/-- The cell after an evaluation that gave a value. -/
def settle (cell : Cell) (value : String) : Cell :=
  { cell with value, error := none, state := .settled }

/-- The cell after an evaluation that failed. -/
def fail (cell : Cell) (error : CellError) : Cell :=
  { cell with value := error.marker, error := some error, state := .errored }

end Cell

end Worksheet
