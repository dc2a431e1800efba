import Worksheet.Proofs.Sheet.Loading
import Worksheet.Proofs.Sheet.Locating
import Worksheet.Proofs.Sheet.Size
import Worksheet.Proofs.Sheet.Timeline

/-!
# The history of a sheet retraces a timeline

Whatever is done with a new sheet, its texts and colors are the present snapshot of a
timeline, and its history retraces that line.  Every operation moves the sheet and the
timeline alike: nothing is entered in a cell behind the back of the history, and the
edits of an entry are replayed in full even if a recalculation reports a fault.

Such a fault is about a cell.  So undoing and redoing report that there is nothing to
undo or redo only if the timeline has no snapshot in that direction.
-/

namespace Worksheet

/-! ## Operations on a timeline -/

/-- The snapshot of a blank sheet. -/
def Snapshot.blank (rows columns : Nat) : Snapshot := fun address =>
  if address.row < rows ∧ address.column < columns then some ("", defaultColor) else none

namespace Timeline

/-- The timeline after an operation on a sheet of the given size.  A load leaves the
snapshot to which the records lead in a new sheet. -/
def perform (rows columns : Nat) (line : Timeline) : Action → Timeline
  | .setText cell text => line.edit cell fun entry => (text, entry.2)
  | .setColor cell color => line.edit cell fun entry => (entry.1, color)
  | .clearCell cell => line.edit cell fun _ => ("", defaultColor)
  | .recalculate _ => line
  | .undo => line.back?.getD line
  | .redo => line.forward?.getD line
  | .reset => single (Snapshot.blank rows columns)
  | .loadRecords records =>
      let outcome := (Sheet.blank rows columns).loadRecords records
      match outcome.result with
      | .ok () => single outcome.sheet.entered?
      | .error _ => line

/-- The timeline after operations one after another. -/
def run (rows columns : Nat) (line : Timeline) (actions : List Action) : Timeline :=
  actions.foldl (perform rows columns) line

variable {line : Timeline} {address : Address} {change : String × Color → String × Color}
  {entry : String × Color}

theorem edit_of_none (absent : line.now address = none) : line.edit address change = line := by
  rw [edit, absent]

theorem edit_of_eq (present : line.now address = some entry) (same : change entry = entry) :
    line.edit address change = line := by
  rw [edit, present]
  exact if_pos same

theorem edit_of_ne (present : line.now address = some entry) (differs : change entry ≠ entry) :
    line.edit address change = line.append (line.now.change address change) := by
  rw [edit, present]
  exact if_neg differs

end Timeline

namespace Sheet

variable {sheet after : Sheet} {line : Timeline} {address : Address} {rows columns : Nat}

/-- The sheet after operations one after another, whether they succeed or fail. -/
def run (sheet : Sheet) (actions : List Action) : Sheet :=
  actions.foldl perform sheet

theorem entered?_blank_eq (rows columns : Nat) :
    (blank rows columns).entered? = Snapshot.blank rows columns := by
  funext address
  rw [entered?_blank, Snapshot.blank]
  apply if_congr _ rfl rfl
  rw [contains, Grid.contains, Bool.and_eq_true, decide_eq_true_iff, decide_eq_true_iff]
  rfl

theorem history_of_loaded {records : List Record}
    (succeeds : (sheet.loadRecords records).result = .ok ()) :
    (sheet.loadRecords records).sheet.history = History.empty := by
  rcases exists_prepared_of_loaded succeeds with ⟨all, prepare⟩
  cases loadRecords_concluded prepare with
  | loaded _ _ entered => exact entered.untouched.history
  | stalled _ fails =>
      rw [fails] at succeeds
      cases succeeds

/-! ## Making edits -/

theorem applyAll_sheet (sheet : Sheet) (edits : List Edit) :
    (sheet.applyAll edits).sheet =
      edits.foldl (fun sheet edit => (sheet.apply edit).sheet) sheet :=
  (List.foldl_hom Outcome.sheet fun _ _ => rfl).symm

theorem entered?_apply (sheet : Sheet) (edit : Edit) :
    (sheet.apply edit).sheet.entered? = edit.enter sheet.entered? := by
  cases edit with
  | text cell old new => exact entered?_commitText sheet cell new
  | color cell old new => exact entered?_commitColor sheet cell new

theorem Untouched.apply (sheet : Sheet) (edit : Edit) :
    Untouched sheet (sheet.apply edit).sheet := by
  cases edit with
  | text cell old new => exact Untouched.commitText sheet cell new
  | color cell old new => exact Untouched.commitColor sheet cell new

/-- Edits that are made in a sheet are made in its snapshot. -/
theorem entered?_applyAll (sheet : Sheet) (edits : List Edit) :
    (sheet.applyAll edits).sheet.entered? = Edit.enterAll sheet.entered? edits := by
  rw [applyAll_sheet]
  exact (List.foldl_hom entered? fun sheet edit => (entered?_apply sheet edit).symm).symm

theorem Untouched.applyAll (sheet : Sheet) (edits : List Edit) :
    Untouched sheet (sheet.applyAll edits).sheet := by
  rw [applyAll_sheet]
  induction edits generalizing sheet with
  | nil => exact Untouched.refl sheet
  | cons edit edits ih => exact (Untouched.apply sheet edit).trans (ih _)

/-- Edits that are replayed do not fail with a fault that is about no cell. -/
theorem replay_result_ne (sheet : Sheet) (history : History) (edits : List Edit)
    {fault : SheetError} (nowhere : fault.cell? = none) :
    (sheet.replay history edits).result ≠ .error fault := by
  intro failed
  have located := applyAll_located sheet edits fault failed
  rw [nowhere] at located
  cases located

/-- The edits that make a cell blank lead to the snapshot in which it is blank. -/
theorem connect_clearingEdits {snapshot : Snapshot} {cell : Cell}
    (present : snapshot address = some (cell.text, cell.color)) :
    Edit.Connect (clearingEdits address cell) snapshot
      (snapshot.change address fun _ => ("", defaultColor)) := by
  have colored := Snapshot.change_self snapshot address fun entry => (entry.1, defaultColor)
  rw [present, Option.map_some] at colored
  have blanked : (snapshot.change address fun entry => (entry.1, defaultColor)).change address
      (fun entry => ("", entry.2)) = snapshot.change address fun _ => ("", defaultColor) :=
    Snapshot.change_change snapshot address _ _
  rw [← blanked]
  -- The text is taken away from the cell that has the default color already.
  apply Edit.Connect.append
  · apply (Edit.Connect.color present defaultColor).leaveOut
    intro white
    exact Snapshot.change_eq_self_of_entry present (by rw [white])
  · apply (Edit.Connect.text colored "").leaveOut
    intro empty
    exact Snapshot.change_eq_self_of_entry colored (by rw [String.isEmpty_iff.1 empty])

theorem clearingEdits_eq_nil_iff {cell : Cell} :
    clearingEdits address cell = [] ↔ (cell.text, cell.color) = ("", defaultColor) := by
  simp [clearingEdits, and_comm]

/-! ## Operations that follow a timeline -/

/-- A sheet is at the present snapshot of a timeline, and its history retraces the line. -/
structure Follows (sheet : Sheet) (line : Timeline) : Prop where
  now : sheet.entered? = line.now
  retraces : Retraces sheet.history line

namespace Follows

/-- If neither the entries nor the history change, the sheet stays at its snapshot. -/
theorem stay (follows : sheet.Follows line) (entered : after.entered? = sheet.entered?)
    (history : after.history = sheet.history) : after.Follows line where
  now := entered.trans follows.now
  retraces := by
    rw [history]
    exact follows.retraces

/-- If a recorded entry leads to what is entered afterwards, the sheet goes on with a new
snapshot. -/
theorem proceed (follows : sheet.Follows line) (entry : HistoryEntry) {snapshot : Snapshot}
    (connect : Edit.Connect entry.edits line.now snapshot) (entered : after.entered? = snapshot)
    (history : after.history = sheet.history.record entry) :
    after.Follows (line.append snapshot) where
  now := entered
  retraces := by
    rw [history]
    exact follows.retraces.record connect

theorem now_outside (follows : sheet.Follows line) (outside : sheet.cell? address = none) :
    line.now address = none := by
  rw [← follows.now]
  exact entered?_outside outside

theorem now_inside (follows : sheet.Follows line) {cell : Cell}
    (inside : sheet.cell? address = some cell) :
    line.now address = some (cell.text, cell.color) := by
  rw [← follows.now]
  exact entered?_of_cell? inside

theorem setText (follows : sheet.Follows line) (address : Address) (text : String) :
    (sheet.setText address text).sheet.Follows
      (line.edit address fun entry => (text, entry.2)) := by
  rw [Sheet.setText]
  cases inside : sheet.cell? address with
  | none =>
      rw [Timeline.edit_of_none (follows.now_outside inside)]
      exact follows
  | some cell =>
      have present := follows.now_inside inside
      dsimp only
      by_cases same : cell.text = text
      · -- The text is committed once more, which enters nothing new.
        rw [if_pos same, Timeline.edit_of_eq present (by rw [same])]
        apply follows.stay _ (Untouched.commitText sheet address text).history
        rw [entered?_commitText, follows.now]
        exact Snapshot.change_eq_self_of_entry present (by rw [same])
      · rw [if_neg same, Timeline.edit_of_ne present (by simpa using Ne.symm same)]
        apply follows.proceed (.single _) (Edit.Connect.text present text)
        · rw [entered?_commitText, ← follows.now]
          rfl
        · exact (Untouched.commitText _ address text).history

theorem setColor (follows : sheet.Follows line) (address : Address) (color : Color) :
    (sheet.setColor address color).sheet.Follows
      (line.edit address fun entry => (entry.1, color)) := by
  rw [Sheet.setColor]
  cases inside : sheet.cell? address with
  | none =>
      rw [Timeline.edit_of_none (follows.now_outside inside)]
      exact follows
  | some cell =>
      have present := follows.now_inside inside
      dsimp only
      by_cases same : cell.color = color
      · rw [if_pos same, Timeline.edit_of_eq present (by rw [same])]
        exact follows
      · rw [if_neg same, Timeline.edit_of_ne present (by simpa using Ne.symm same)]
        apply follows.proceed (.single _) (Edit.Connect.color present color)
        · rw [entered?_commitColor, ← follows.now]
          rfl
        · exact (Untouched.commitColor _ address color).history

theorem clearCell (follows : sheet.Follows line) (address : Address) :
    (sheet.clearCell address).sheet.Follows (line.edit address fun _ => ("", defaultColor)) := by
  rw [Sheet.clearCell]
  cases inside : sheet.cell? address with
  | none =>
      rw [Timeline.edit_of_none (follows.now_outside inside)]
      exact follows
  | some cell =>
      have present := follows.now_inside inside
      have connect := connect_clearingEdits present
      dsimp only
      split
      · next nothing =>
          rw [Timeline.edit_of_eq present (clearingEdits_eq_nil_iff.1 nothing).symm]
          exact follows
      · next some =>
          rw [Timeline.edit_of_ne present fun same =>
            some (clearingEdits_eq_nil_iff.2 same.symm)]
          apply follows.proceed (.batch _) connect
          · rw [entered?_applyAll, ← connect.made, ← follows.now]
            rfl
          · exact (Untouched.applyAll _ _).history

theorem recalculate (follows : sheet.Follows line) (address : Address) :
    (sheet.recalculate address).sheet.Follows line := by
  have inputs := recalculate_sameInputs sheet address
  exact follows.stay (funext inputs.entered) inputs.history

/-- If the edits that are replayed lead to another snapshot, the sheet moves there. -/
theorem replay (follows : sheet.Follows line) {remaining : History} {target : Timeline}
    (retraces : Retraces remaining target) {edits : List Edit}
    (leads : Edit.enterAll line.now edits = target.now) :
    (sheet.replay remaining edits).sheet.Follows target where
  now := by
    rw [← leads, ← follows.now]
    exact entered?_applyAll sheet edits
  retraces := retraces

theorem undo (follows : sheet.Follows line) :
    sheet.undo.sheet.Follows (line.back?.getD line) := by
  rw [Sheet.undo]
  rcases follows.retraces.undo? with ⟨nothing, first⟩ |
    ⟨entry, remaining, before, some, back, retraces, leads⟩
  · rw [nothing, first]
    exact follows
  · rw [some, back]
    exact follows.replay retraces leads

theorem redo (follows : sheet.Follows line) :
    sheet.redo.sheet.Follows (line.forward?.getD line) := by
  rw [Sheet.redo]
  rcases follows.retraces.redo? with ⟨nothing, last⟩ |
    ⟨entry, remaining, after, some, forward, retraces, leads⟩
  · rw [nothing, last]
    exact follows
  · rw [some, forward]
    exact follows.replay retraces leads

theorem reset (size : sheet.dimensions = (rows, columns)) :
    sheet.reset.Follows (Timeline.single (Snapshot.blank rows columns)) where
  now := by
    rcases Prod.mk.inj size with ⟨rfl, rfl⟩
    exact entered?_blank_eq sheet.grid.rows sheet.grid.columns
  retraces := Retraces.single _

theorem loadRecords (follows : sheet.Follows line) (records : List Record)
    (size : sheet.dimensions = (rows, columns))
    (operators : sheet.operators = OperatorTable.arithmetic) :
    (sheet.loadRecords records).sheet.Follows
      (line.perform rows columns (.loadRecords records)) := by
  -- The records do not see what the sheet held before.
  have fresh : sheet.fresh = (Sheet.blank rows columns).fresh := by
    rw [fresh_eq_blank operators]
    rcases Prod.mk.inj size with ⟨rfl, rfl⟩
    rfl
  have same := loadRecords_result sheet records
  rw [fresh, ← loadRecords_result] at same
  rw [Timeline.perform, ← same]
  cases result : (sheet.loadRecords records).result with
  | error fault =>
      rw [loadRecords_sheet_of_error result]
      exact follows
  | ok _ =>
      constructor
      · rw [loadRecords_sheet_of_ok result, loadRecords_sheet_of_ok (same.symm.trans result), fresh]
        rfl
      · rw [history_of_loaded result]
        exact Retraces.single _

/-- Every operation moves the sheet and the timeline alike. -/
theorem perform (follows : sheet.Follows line)
    (operators : sheet.operators = OperatorTable.arithmetic)
    (size : sheet.dimensions = (rows, columns)) (action : Action) :
    (sheet.perform action).Follows (line.perform rows columns action) := by
  cases action with
  | setText cell text => exact follows.setText cell text
  | setColor cell color => exact follows.setColor cell color
  | clearCell cell => exact follows.clearCell cell
  | recalculate cell => exact follows.recalculate cell
  | undo => exact follows.undo
  | redo => exact follows.redo
  | reset => exact reset size
  | loadRecords records => exact follows.loadRecords records size operators

/-- So a sheet that follows a timeline does so after any run. -/
theorem run (follows : sheet.Follows line) (reached : sheet.Reached)
    (size : sheet.dimensions = (rows, columns)) (actions : List Action) :
    (sheet.run actions).Follows (line.run rows columns actions) := by
  induction actions generalizing sheet line with
  | nil => exact follows
  | cons action actions ih =>
      exact ih (follows.perform reached.consistent.operators size action) (reached.performed action)
        ((reached.dimensions_perform action).trans size)

/-- There is nothing to undo exactly at the start of the timeline. -/
theorem undo_result_iff (follows : sheet.Follows line) :
    sheet.undo.result = .error .nothingToUndo ↔ line.back? = none := by
  rw [Sheet.undo]
  rcases follows.retraces.undo? with ⟨nothing, first⟩ |
    ⟨entry, remaining, before, some, back, _, _⟩
  · rw [nothing, first]
    exact iff_of_true rfl rfl
  · rw [some, back]
    exact iff_of_false (replay_result_ne sheet _ _ rfl) (Option.some_ne_none _)

/-- There is nothing to redo exactly at the end of the timeline. -/
theorem redo_result_iff (follows : sheet.Follows line) :
    sheet.redo.result = .error .nothingToRedo ↔ line.forward? = none := by
  rw [Sheet.redo]
  rcases follows.retraces.redo? with ⟨nothing, last⟩ |
    ⟨entry, remaining, after, some, forward, _, _⟩
  · rw [nothing, last]
    exact iff_of_true rfl rfl
  · rw [some, forward]
    exact iff_of_false (replay_result_ne sheet _ _ rfl) (Option.some_ne_none _)

end Follows

/-- After any operations on a new sheet, failed ones among them, its texts and colors are
the present snapshot of its timeline, and there is something to undo or to redo exactly
if the timeline has a snapshot in that direction. -/
theorem follows_of_created {rows columns : Nat} {start : Sheet}
    (new : create rows columns = .ok start) (actions : List Action) :
    let now := start.run actions
    let line := (Timeline.single (Snapshot.blank rows columns)).run rows columns actions
    now.entered? = line.now ∧
      now.canUndo = line.back?.isSome ∧ now.canRedo = line.forward?.isSome ∧
      (now.undo.result = .error .nothingToUndo ↔ line.back? = none) ∧
      (now.redo.result = .error .nothingToRedo ↔ line.forward? = none) := by
  have reached := Reached.created new
  have blank : start = Sheet.blank rows columns := by
    rw [create] at new
    split at new
    · exact (Except.ok.inj new).symm
    · cases new
  subst blank
  have start : (Sheet.blank rows columns).Follows
      (Timeline.single (Snapshot.blank rows columns)) :=
    ⟨entered?_blank_eq rows columns, Retraces.single _⟩
  have follows := start.run reached rfl actions
  exact ⟨follows.now, follows.retraces.canUndo_eq, follows.retraces.canRedo_eq,
    follows.undo_result_iff, follows.redo_result_iff⟩

/-- Undoing goes back to a formula that has no value, and redoing is possible then. -/
theorem follows_of_faulty_formula :
    ∃ start now, create 1 1 = .ok start ∧
      now = start.run [.setText ⟨0, 0⟩ "=A1", .setText ⟨0, 0⟩ "2", .undo] ∧
      now.entered? ⟨0, 0⟩ = some ("=A1", defaultColor) ∧
      now.canUndo = true ∧ now.canRedo = true := by
  have new : create 1 1 = .ok (blank 1 1) := rfl
  have follows := follows_of_created new
    [.setText ⟨0, 0⟩ "=A1", .setText ⟨0, 0⟩ "2", .undo]
  refine ⟨_, _, new, rfl, ?_⟩
  rw [follows.1, follows.2.1, follows.2.2.1]
  decide +kernel

end Sheet

end Worksheet
