import Worksheet.Formula.References
import Worksheet.Sheet.Recalculation

/-!
# Editing

Giving a cell a text stores the text, replaces the references of the cell, and
recalculates.  Giving it a color stores the color.  An edit that changes
something is recorded in the history.  Undoing and redoing an entry goes
through the same steps, so values are computed as after an edit.

The work is done even if the recalculation reports a fault.  Only an edit of a
cell outside the grid changes nothing.
-/

namespace Worksheet

namespace Cell

/-- The cells that a cell with this text reads. -/
def referencesOf (text : String) : List Address :=
  match formulaOf? text.toList with
  | some body => References.inText body
  | none => []

end Cell

namespace Sheet

/-! ## Committing -/

/-- Store a text, replace the references of its cell, and recalculate. -/
def commitText (sheet : Sheet) (address : Address) (text : String) : Outcome :=
  match sheet.cell? address with
  | none => .failure sheet (.outsideGrid address)
  | some cell =>
      let references := Cell.referencesOf text
      let stored := sheet.setCell address (cell.withText text)
      let linked := { stored with graph := stored.graph.setReferences address references }
      let outcome := linked.recalculate address
      { outcome with
        log := #[LogEvent.committed address text references.length] ++ outcome.log }

/-- Store a color and announce the cell. -/
def commitColor (sheet : Sheet) (address : Address) (color : Color) : Outcome :=
  match sheet.cell? address with
  | none => .failure sheet (.outsideGrid address)
  | some cell => .success ((sheet.setCell address { cell with color }).announce address)

/-- Make an edit without recording it. -/
def apply (sheet : Sheet) (edit : Edit) : Outcome :=
  match edit with
  | .text cell _ new => sheet.commitText cell new
  | .color cell _ new => sheet.commitColor cell new

/-- Make edits one after another without recording them.  Of several faults the
first counts. -/
def applyAll (sheet : Sheet) (edits : List Edit) : Outcome :=
  edits.foldl (fun outcome edit => outcome.andAlso fun sheet => sheet.apply edit)
    (.success sheet)

/-- Record an entry in the history. -/
def record (sheet : Sheet) (entry : HistoryEntry) : Sheet :=
  { sheet with history := sheet.history.record entry, modified := true }

/-! ## Edits -/

/-- Give a cell a text. -/
def setText (sheet : Sheet) (address : Address) (text : String) : Outcome :=
  match sheet.cell? address with
  | none => .failure sheet (.outsideGrid address)
  | some cell =>
      let recorded :=
        if cell.text = text then sheet
        else sheet.record (.single (.text address cell.text text))
      recorded.commitText address text

/-- Give a cell a color. -/
def setColor (sheet : Sheet) (address : Address) (color : Color) : Outcome :=
  match sheet.cell? address with
  | none => .failure sheet (.outsideGrid address)
  | some cell =>
      if cell.color = color then .success sheet
      else
        (sheet.record (.single (.color address cell.color color))).commitColor address color

/-- The edits that make a cell blank. -/
def clearingEdits (address : Address) (cell : Cell) : List Edit :=
  (if cell.color = defaultColor then [] else [.color address cell.color defaultColor]) ++
    (if cell.text.isEmpty then [] else [.text address cell.text ""])

/-- Take away the text and the color of a cell, as one entry in the history. -/
def clearCell (sheet : Sheet) (address : Address) : Outcome :=
  match sheet.cell? address with
  | none => .failure sheet (.outsideGrid address)
  | some cell =>
      match clearingEdits address cell with
      | [] => .success sheet
      | edits => (sheet.record (.batch edits)).applyAll edits

/-! ## Undoing and redoing -/

/-- Make the edits of an entry that has been moved in the history. -/
def replay (sheet : Sheet) (history : History) (edits : List Edit) : Outcome :=
  let outcome := sheet.applyAll edits
  { outcome with sheet := { outcome.sheet with history, modified := true } }

/-- Take back the latest edit. -/
def undo (sheet : Sheet) : Outcome :=
  match sheet.history.undo? with
  | none => .failure sheet .nothingToUndo
  | some (entry, history) => sheet.replay history (entry.edits.reverse.map Edit.inverse)

/-- Make the edit again that was taken back last. -/
def redo (sheet : Sheet) : Outcome :=
  match sheet.history.redo? with
  | none => .failure sheet .nothingToRedo
  | some (entry, history) => sheet.replay history entry.edits

end Sheet

end Worksheet
