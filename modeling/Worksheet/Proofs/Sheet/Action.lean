import Worksheet.Sheet.Loading

/-!
# Reached sheets

A sheet is reached if it can be got from a new one by operations that succeed or
fail.  All operations are made of the same few steps: a text or a color is
committed, a cell is recalculated, a blank sheet takes the place of another, or
something is noted that has nothing to do with cells.  The main statement is the
principle of induction that follows from this.  What these steps keep holds of
every reached sheet.
-/

namespace Worksheet

/-- An operation on a sheet. -/
inductive Action where
  | setText (cell : Address) (text : String)
  | setColor (cell : Address) (color : Color)
  | clearCell (cell : Address)
  | recalculate (cell : Address)
  | undo
  | redo
  | reset
  | loadRecords (records : List Record)

namespace Sheet

/-- The sheet after an operation, whether it has succeeded or failed. -/
def perform (sheet : Sheet) : Action → Sheet
  | .setText cell text => (sheet.setText cell text).sheet
  | .setColor cell color => (sheet.setColor cell color).sheet
  | .clearCell cell => (sheet.clearCell cell).sheet
  | .recalculate cell => (sheet.recalculate cell).sheet
  | .undo => sheet.undo.sheet
  | .redo => sheet.redo.sheet
  | .reset => sheet.reset
  | .loadRecords records => (sheet.loadRecords records).sheet

/-- A sheet that comes from a new one by some operations. -/
inductive Reached : Sheet → Prop
  | created {rows columns : Nat} {sheet : Sheet} (new : create rows columns = .ok sheet) :
      Reached sheet
  | performed {sheet : Sheet} (action : Action) (before : Reached sheet) :
      Reached (sheet.perform action)

theorem reached_blank {rows columns : Nat} (small : rows * columns ≤ maxCells) :
    Reached (blank rows columns) :=
  Reached.created (if_pos small)

/-- A property that committing a text or a color keeps. -/
structure KeptByCommits (property : Sheet → Prop) : Prop where
  commitText : ∀ {sheet : Sheet} (address : Address) (text : String),
    property sheet → property (sheet.commitText address text).sheet
  commitColor : ∀ {sheet : Sheet} (address : Address) (color : Color),
    property sheet → property (sheet.commitColor address color).sheet

/-- A property that the steps keep of which all operations are made. -/
structure KeptBySteps (property : Sheet → Prop) : Prop extends KeptByCommits property where
  recalculate : ∀ {sheet : Sheet} (address : Address),
    property sheet → property (sheet.recalculate address).sheet
  blank : ∀ {sheet : Sheet}, property sheet →
    property { blank sheet.grid.rows sheet.grid.columns with operators := sheet.operators }
  noted : ∀ {sheet : Sheet} (history : History) (modified : Bool),
    property sheet → property { sheet with history, modified }
  adopted : ∀ {sheet : Sheet} (changes : Changes) (filePath : Option String),
    property sheet → property { sheet with changes, filePath }

/-! ## Committing many -/

namespace KeptByCommits

variable {property : Sheet → Prop} {sheet : Sheet}

theorem applyAll (kept : KeptByCommits property) (edits : List Edit) (before : property sheet) :
    property (sheet.applyAll edits).sheet := by
  rw [Sheet.applyAll]
  generalize start : Outcome.success sheet = outcome
  have now : property outcome.sheet := by
    subst start
    exact before
  clear start
  induction edits generalizing outcome with
  | nil => exact now
  | cons edit edits ih =>
      apply ih _
      cases edit with
      | text cell old new => exact kept.commitText cell new now
      | color cell old new => exact kept.commitColor cell new now

theorem loadRecord (kept : KeptByCommits property) (pending : PendingRecord)
    (before : property sheet) : property (sheet.loadRecord pending).1 := by
  unfold Sheet.loadRecord
  dsimp only
  split <;> exact kept.commitText _ _ (kept.commitColor _ _ before)

theorem loadPass (kept : KeptByCommits property) (pending : List PendingRecord)
    (pass : LoadPass) (before : property pass.sheet) :
    property (pending.foldl LoadPass.step pass).sheet := by
  induction pending generalizing pass with
  | nil => exact before
  | cons first pending ih =>
      apply ih _
      unfold LoadPass.step
      split
      dsimp only
      split
      · exact before
      · exact kept.loadRecord first before

theorem loadPasses (kept : KeptByCommits property) (waiting : Std.HashSet Address)
    (log : Array LogEvent) (number : Nat) (pending : List PendingRecord)
    (before : property sheet) :
    property (sheet.loadPasses waiting log number pending).sheet := by
  induction sheet, waiting, log, number, pending using Sheet.loadPasses.induct with
  | case1 sheet waiting log number pending empty =>
      rw [Sheet.loadPasses, if_pos empty]
      exact before
  | case2 sheet waiting log number pending some pass deferred log' shorter ih =>
      rw [Sheet.loadPasses, if_neg some]
      dsimp only
      rw [dif_pos shorter]
      exact ih (kept.loadPass pending _ before)
  | case3 sheet waiting log number pending some pass deferred stalled =>
      rw [Sheet.loadPasses, if_neg some]
      dsimp only
      rw [dif_neg stalled]
      exact kept.loadPass pending _ before

theorem fill (kept : KeptByCommits property) (records : List Record) (before : property sheet) :
    property (sheet.fill records).sheet := by
  rw [Sheet.fill]
  split
  · exact before
  · exact kept.loadPasses _ _ _ _ before

end KeptByCommits

namespace KeptBySteps

variable {property : Sheet → Prop} {sheet : Sheet}

theorem record (kept : KeptBySteps property) (entry : HistoryEntry) (before : property sheet) :
    property (sheet.record entry) :=
  kept.noted _ _ before

theorem replay (kept : KeptBySteps property) (history : History) (edits : List Edit)
    (before : property sheet) : property (sheet.replay history edits).sheet :=
  kept.noted history true (kept.applyAll edits before)

theorem reset (kept : KeptBySteps property) (before : property sheet) : property sheet.reset :=
  kept.adopted _ sheet.filePath (kept.blank before)

/-! ## Editing -/

theorem setText (kept : KeptBySteps property) (address : Address) (text : String)
    (before : property sheet) : property (sheet.setText address text).sheet := by
  rw [Sheet.setText]
  split
  · exact before
  · dsimp only
    split
    · exact kept.commitText address text before
    · exact kept.commitText address text (kept.record _ before)

theorem setColor (kept : KeptBySteps property) (address : Address) (color : Color)
    (before : property sheet) : property (sheet.setColor address color).sheet := by
  rw [Sheet.setColor]
  split
  · exact before
  · split
    · exact before
    · exact kept.commitColor address color (kept.record _ before)

theorem clearCell (kept : KeptBySteps property) (address : Address)
    (before : property sheet) : property (sheet.clearCell address).sheet := by
  rw [Sheet.clearCell]
  split
  · exact before
  · split
    · exact before
    · exact kept.applyAll _ (kept.record _ before)

theorem undo (kept : KeptBySteps property) (before : property sheet) :
    property sheet.undo.sheet := by
  rw [Sheet.undo]
  split
  · exact before
  · exact kept.replay _ _ before

theorem redo (kept : KeptBySteps property) (before : property sheet) :
    property sheet.redo.sheet := by
  rw [Sheet.redo]
  split
  · exact before
  · exact kept.replay _ _ before

/-! ## Loading -/

theorem loadRecords (kept : KeptBySteps property) (records : List Record)
    (before : property sheet) : property (sheet.loadRecords records).sheet := by
  rw [Sheet.loadRecords]
  dsimp only
  split
  · exact before
  · exact kept.adopted _ _ (kept.fill records (kept.blank before))

/-! ## All operations -/

/-- What the steps keep is kept by every operation. -/
theorem perform (kept : KeptBySteps property) (action : Action) (before : property sheet) :
    property (sheet.perform action) := by
  cases action with
  | setText cell text => exact kept.setText cell text before
  | setColor cell color => exact kept.setColor cell color before
  | clearCell cell => exact kept.clearCell cell before
  | recalculate cell => exact kept.recalculate cell before
  | undo => exact kept.undo before
  | redo => exact kept.redo before
  | reset => exact kept.reset before
  | loadRecords records => exact kept.loadRecords records before

/-- What holds of blank sheets and is kept by the steps holds of every reached
sheet. -/
theorem of_reached (kept : KeptBySteps property)
    (blank : ∀ rows columns, property (Sheet.blank rows columns)) (reached : sheet.Reached) :
    property sheet := by
  induction reached with
  | @created rows columns sheet new =>
      rw [create] at new
      split at new
      · cases new
        exact blank rows columns
      · cases new
  | performed action _ ih => exact kept.perform action ih

end KeptBySteps

end Sheet

end Worksheet
