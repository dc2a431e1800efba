import Worksheet.Address.Basic
import Worksheet.Sheet.Cell

/-!
# History of edits

The history keeps the edits that can be undone and those that can be redone.
An edit records the text or the color of one cell before and after; an entry is
a single edit or a batch of edits that are undone and redone together.  A new
entry makes the undone ones unreachable, and only the latest hundred entries
are kept.
-/

namespace Worksheet

/-- A change of one cell that can be undone. -/
inductive Edit where
  | text (cell : Address) (old new : String)
  | color (cell : Address) (old new : Color)
  deriving DecidableEq, Repr

/-- The edited cell. -/
def Edit.cell : Edit → Address
  | .text cell _ _ => cell
  | .color cell _ _ => cell

/-- The edit that takes a change back. -/
def Edit.inverse : Edit → Edit
  | .text cell old new => .text cell new old
  | .color cell old new => .color cell new old

/-- Edits that are undone and redone together. -/
inductive HistoryEntry where
  | single (edit : Edit)
  | batch (edits : List Edit)
  deriving DecidableEq, Repr

/-- The edits of an entry in the order in which they were made. -/
def HistoryEntry.edits : HistoryEntry → List Edit
  | .single edit => [edit]
  | .batch edits => edits

/-- The number of entries that are kept. -/
def historyLimit : Nat := 100

/-- The entries that can be undone and redone, the next one of each first. -/
structure History where
  undoable : List HistoryEntry
  redoable : List HistoryEntry
  deriving DecidableEq, Repr

namespace History

/-- Nothing has been edited. -/
def empty : History :=
  ⟨[], []⟩

/-- Record an entry. -/
def record (history : History) (entry : HistoryEntry) : History :=
  ⟨(entry :: history.undoable).take historyLimit, []⟩

/-- The entry to undo and the history after undoing it. -/
def undo? (history : History) : Option (HistoryEntry × History) :=
  match history.undoable with
  | [] => none
  | entry :: rest => some (entry, ⟨rest, entry :: history.redoable⟩)

/-- The entry to redo and the history after redoing it. -/
def redo? (history : History) : Option (HistoryEntry × History) :=
  match history.redoable with
  | [] => none
  | entry :: rest => some (entry, ⟨entry :: history.undoable, rest⟩)

/-- Is there an entry to undo? -/
def canUndo (history : History) : Bool :=
  !history.undoable.isEmpty

/-- Is there an entry to redo? -/
def canRedo (history : History) : Bool :=
  !history.redoable.isEmpty

end History

end Worksheet
