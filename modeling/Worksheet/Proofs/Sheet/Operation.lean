import Worksheet.Proofs.Sheet.Retracing
import Worksheet.SheetFile

/-!
# Sheets in use

Besides the operations on cells there are those that take out the waiting changes and
those that save a sheet or load it from a file.  A sheet is in use if it has come from a
new one by any of them, whether they succeed or fail, and whatever happens to the files in
between.

Saving and taking out changes touch no cell, and loading a file is loading its records.  So
what the steps keep of which the operations on cells are made holds of every sheet in use.
-/

namespace Worksheet

/-- An operation on a sheet.  One that saves or loads comes with the files that it finds. -/
inductive Operation where
  | action (action : Action)
  | takeChanges
  | save (files : FileStore)
  | saveAs (files : FileStore) (path : String)
  | loadFile (files : FileStore) (path : String)

/-- Does an operation replace all cells at once? -/
def Action.replacesAll : Action → Bool
  | .reset => true
  | .loadRecords _ => true
  | _ => false

/-- Does an operation replace all cells at once? -/
def Operation.replacesAll : Operation → Bool
  | .action performed => performed.replacesAll
  | .loadFile _ _ => true
  | _ => false

namespace Sheet

/-- What an operation on cells brings about. -/
def act (sheet : Sheet) : Action → Outcome
  | .setText cell text => sheet.setText cell text
  | .setColor cell color => sheet.setColor cell color
  | .clearCell cell => sheet.clearCell cell
  | .recalculate cell => sheet.recalculate cell
  | .undo => sheet.undo
  | .redo => sheet.redo
  | .reset => .success sheet.reset
  | .loadRecords records => sheet.loadRecords records

/-- What an operation brings about. -/
def operate (sheet : Sheet) : Operation → Outcome
  | .action action => sheet.act action
  | .takeChanges => .success sheet.takeChanges.2
  | .save files => (sheet.save files).outcome
  | .saveAs files path => (sheet.saveAs files path).outcome
  | .loadFile files path => sheet.loadFile files path

/-- The sheet after some operations. -/
def operateAll (sheet : Sheet) (operations : List Operation) : Sheet :=
  operations.foldl (fun sheet operation => (sheet.operate operation).sheet) sheet

/-- A sheet that comes from a new one by some operations. -/
inductive InUse : Sheet → Prop
  | created {rows columns : Nat} {sheet : Sheet} (new : create rows columns = .ok sheet) :
      InUse sheet
  | operated {sheet : Sheet} (operation : Operation) (before : InUse sheet) :
      InUse (sheet.operate operation).sheet

variable {sheet : Sheet}

theorem act_sheet (sheet : Sheet) (action : Action) :
    (sheet.act action).sheet = sheet.perform action := by
  cases action <;> rfl

theorem Reached.inUse (reached : sheet.Reached) : sheet.InUse := by
  induction reached with
  | created new => exact InUse.created new
  | performed action _ ih =>
      rw [← act_sheet]
      exact ih.operated (.action action)

/-! ## Loading a file -/

/-- Loading a text loads the records that it holds, or it fails and leaves the sheet as it
is. -/
theorem loadText_cases (sheet : Sheet) (content : String) :
    (∃ fault, (sheet.loadText content).result = .error fault ∧
      (sheet.loadText content).sheet = sheet) ∨
    ∃ records, (sheet.loadRecords records).result = .ok () ∧
      sheet.loadText content = sheet.loadRecords records := by
  rw [loadText]
  split
  · next fault _ => exact .inl ⟨fault, rfl, rfl⟩
  · next records _ =>
      cases result : (sheet.loadRecords records).result with
      | error fault => exact .inl ⟨fault, rfl, loadRecords_sheet_of_error result⟩
      | ok _ => exact .inr ⟨records, result, rfl⟩

/-- Loading a file loads the records that it holds, or it fails and leaves the sheet as it
is. -/
theorem loadFile_cases (sheet : Sheet) (files : FileStore) (path : String) :
    (∃ fault, (sheet.loadFile files path).result = .error fault ∧
      (sheet.loadFile files path).sheet = sheet) ∨
    ∃ records, (sheet.loadRecords records).result = .ok () ∧
      (sheet.loadFile files path).result = .ok () ∧
      (sheet.loadFile files path).sheet =
        (sheet.loadRecords records).sheet.withPath (some path) := by
  rw [loadFile]
  split
  · next fault _ => exact .inl ⟨.file fault, rfl, rfl⟩
  · next content _ =>
      dsimp only
      rcases sheet.loadText_cases content with ⟨fault, failed, same⟩ | ⟨records, succeeded, loads⟩
      · rw [failed]
        exact .inl ⟨fault, failed, same⟩
      · rw [loads, succeeded]
        exact .inr ⟨records, succeeded, rfl, rfl⟩

theorem dimensions_of_loaded {records : List Record}
    (succeeds : (sheet.loadRecords records).result = .ok ()) :
    (sheet.loadRecords records).sheet.dimensions = sheet.dimensions := by
  obtain ⟨all, prepared⟩ := exists_prepared_of_loaded succeeds
  cases loadRecords_concluded prepared with
  | loaded _ _ entered => exact entered.untouched.dimensions
  | stalled _ fails =>
      rw [fails] at succeeds
      cases succeeds

/-- Saving a sheet notes the file, or it fails and leaves the sheet as it is. -/
theorem saveAs_sheet (sheet : Sheet) (files : FileStore) (path : String) :
    (sheet.saveAs files path).outcome.sheet = sheet ∨
      (sheet.saveAs files path).outcome.sheet =
        { sheet with filePath := some path, modified := false } := by
  rw [saveAs]
  split
  · exact .inl rfl
  · exact .inr rfl

theorem save_sheet (sheet : Sheet) (files : FileStore) :
    (sheet.save files).outcome.sheet = sheet ∨
      ∃ path, (sheet.save files).outcome.sheet =
        { sheet with filePath := some path, modified := false } := by
  rw [save]
  split
  · exact .inl rfl
  · next path _ => exact (sheet.saveAs_sheet files path).imp_right fun saved => ⟨path, saved⟩

/-! ## What operations keep -/

/-- What the operations on cells keep is kept by all operations, if it is a matter neither of
the changes that have been taken out nor of the file. -/
theorem operate_keeps (property : Sheet → Prop) {operation : Operation} (before : property sheet)
    (perform : ∀ action, property (sheet.perform action))
    (takeChanges : operation = .takeChanges → property sheet.takeChanges.2)
    (filed : ∀ {sheet : Sheet} (path : String) (modified : Bool), property sheet →
      property { sheet with filePath := some path, modified }) :
    property (sheet.operate operation).sheet := by
  cases operation with
  | action action =>
      rw [operate, act_sheet]
      exact perform action
  | takeChanges => exact takeChanges rfl
  | save files =>
      rw [operate]
      rcases sheet.save_sheet files with same | ⟨path, saved⟩
      · rw [same]
        exact before
      · rw [saved]
        exact filed path false before
  | saveAs files path =>
      rw [operate]
      rcases sheet.saveAs_sheet files path with same | saved
      · rw [same]
        exact before
      · rw [saved]
        exact filed path false before
  | loadFile files path =>
      rw [operate]
      rcases sheet.loadFile_cases files path with ⟨_, _, same⟩ | ⟨records, _, _, loaded⟩
      · rw [same]
        exact before
      · rw [loaded]
        exact filed path _ (perform (.loadRecords records))

namespace KeptBySteps

variable {property : Sheet → Prop}

/-- What the steps keep is kept by the operations that are not about cells as well. -/
theorem operate (kept : KeptBySteps property) (operation : Operation) (before : property sheet) :
    property (sheet.operate operation).sheet := by
  apply operate_keeps property before
  · exact fun action => kept.perform action before
  · exact fun _ => kept.adopted Changes.empty sheet.filePath before
  · intro sheet path modified now
    exact kept.noted sheet.history modified (kept.adopted sheet.changes (some path) now)

/-- What holds of blank sheets and is kept by the steps holds of every sheet in use. -/
theorem of_inUse (kept : KeptBySteps property)
    (blank : ∀ rows columns, property (Sheet.blank rows columns)) (used : sheet.InUse) :
    property sheet := by
  induction used with
  | created new => exact kept.of_reached blank (Reached.created new)
  | operated operation _ ih => exact kept.operate operation ih

end KeptBySteps

namespace InUse

/-- Every sheet in use is consistent. -/
theorem consistent (used : sheet.InUse) : sheet.Consistent :=
  keptBySteps_consistent.of_inUse consistent_blank used

theorem operateAll (used : sheet.InUse) (operations : List Operation) :
    (sheet.operateAll operations).InUse := by
  induction operations generalizing sheet with
  | nil => exact used
  | cons operation operations ih => exact ih (used.operated operation)

theorem dimensions_operate (used : sheet.InUse) (operation : Operation) :
    (sheet.operate operation).sheet.dimensions = sheet.dimensions :=
  ((keptBySteps_dimensions sheet.dimensions).operate operation ⟨used.consistent, rfl⟩).2

theorem dimensions_operateAll (used : sheet.InUse) (operations : List Operation) :
    (sheet.operateAll operations).dimensions = sheet.dimensions := by
  induction operations generalizing sheet with
  | nil => rfl
  | cons operation operations ih =>
      exact (ih (used.operated operation)).trans (used.dimensions_operate operation)

theorem contains_operate (used : sheet.InUse) (operation : Operation) (address : Address) :
    (sheet.operate operation).sheet.contains address = sheet.contains address :=
  contains_congr (used.dimensions_operate operation) address

end InUse

end Sheet

end Worksheet
