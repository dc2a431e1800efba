import Worksheet.Proofs.Sheet.Operation

/-!
# What a history records

An edit of a cell is recorded if it brings something new, and the recorded entry is about
this cell alone: it changes the color of the cell, its text, or first the color and then the
text.  A color is always changed into another one.

The history of a sheet in use retraces a timeline.  So the color that an entry is about to
replace, when it is undone or redone, is the one that the cell has, and it is replaced by
another one.
-/

namespace Worksheet

/-! ## Entries about one cell -/

namespace Edit

/-- The edits of an entry that is about one cell. -/
inductive OfCell (address : Address) : List Edit → Prop
  | text (old new : String) : OfCell address [.text address old new]
  | color {old new : Color} (differs : old ≠ new) : OfCell address [.color address old new]
  | both {old new : Color} (differs : old ≠ new) (text text' : String) :
      OfCell address [.color address old new, .text address text text']

/-- The edits are to be made in a cell that has the given color.  They change its color into
another one, its text, or both in either order. -/
inductive Fitting (address : Address) (present : Color) : List Edit → Prop
  | text (old new : String) : Fitting address present [.text address old new]
  | color {new : Color} (differs : present ≠ new) :
      Fitting address present [.color address present new]
  | colorFirst {new : Color} (differs : present ≠ new) (text text' : String) :
      Fitting address present [.color address present new, .text address text text']
  | textFirst {new : Color} (differs : present ≠ new) (text text' : String) :
      Fitting address present [.text address text text', .color address present new]

theorem ofCell_clearingEdits {address : Address} {cell : Cell}
    (some : Sheet.clearingEdits address cell ≠ []) :
    OfCell address (Sheet.clearingEdits address cell) := by
  rw [Sheet.clearingEdits] at some ⊢
  by_cases white : cell.color = defaultColor
  · by_cases empty : cell.text.isEmpty = true
    · rw [if_pos white, if_pos empty] at some
      exact absurd rfl some
    · rw [if_pos white, if_neg empty]
      exact OfCell.text _ _
  · by_cases empty : cell.text.isEmpty = true
    · rw [if_neg white, if_pos empty]
      exact OfCell.color white
    · rw [if_neg white, if_neg empty]
      exact OfCell.both white _ _

variable {snapshot other : Snapshot} {address : Address} {edits : List Edit}

theorem exists_of_change {change : String × Color → String × Color} {entry : String × Color}
    (present : snapshot.change address change address = some entry) :
    ∃ old, snapshot address = some old ∧ change old = entry := by
  rw [Snapshot.change_self, Option.map_eq_some_iff] at present
  exact present

/-- Edits that have led to a snapshot fit into it when they are taken back. -/
theorem OfCell.fitting_inverse (ofCell : OfCell address edits)
    (connect : Connect edits other snapshot) {entry : String × Color}
    (present : snapshot address = some entry) :
    Fitting address entry.2 (edits.reverse.map inverse) := by
  rw [← connect.made] at present
  cases ofCell with
  | text old new => exact Fitting.text _ _
  | color differs =>
      obtain ⟨old, _, rfl⟩ := exists_of_change present
      exact Fitting.color differs.symm
  | both differs text text' =>
      obtain ⟨old, colored, rfl⟩ := exists_of_change present
      obtain ⟨older, _, rfl⟩ := exists_of_change colored
      exact Fitting.textFirst differs.symm _ _

/-- Edits that lead from a snapshot to another one fit into it. -/
theorem OfCell.fitting (ofCell : OfCell address edits) (connect : Connect edits snapshot other)
    {entry : String × Color} (present : snapshot address = some entry) :
    Fitting address entry.2 edits := by
  rw [← connect.takenBack] at present
  cases ofCell with
  | text old new => exact Fitting.text _ _
  | color differs =>
      obtain ⟨old, _, rfl⟩ := exists_of_change present
      exact Fitting.color differs
  | both differs text text' =>
      obtain ⟨old, _, rfl⟩ := exists_of_change present
      exact Fitting.colorFirst differs _ _

end Edit

/-! ## Histories of entries about one cell -/

/-- Every entry of a history is about one cell, which has a property. -/
def History.Records (history : History) (inside : Address → Prop) : Prop :=
  ∀ entry ∈ history.undoable ++ history.redoable,
    ∃ address, inside address ∧ Edit.OfCell address entry.edits

namespace History.Records

variable {history remaining : History} {inside : Address → Prop} {entry : HistoryEntry}

theorem empty (inside : Address → Prop) : History.empty.Records inside := by
  intro entry member
  exact absurd member List.not_mem_nil

theorem record (records : history.Records inside) {address : Address} (within : inside address)
    (ofCell : Edit.OfCell address entry.edits) : (history.record entry).Records inside := by
  intro other member
  rw [History.record, List.append_nil] at member
  rcases List.mem_cons.1 (List.mem_of_mem_take member) with rfl | earlier
  · exact ⟨address, within, ofCell⟩
  · exact records other (List.mem_append_left _ earlier)

theorem undo? (records : history.Records inside) (some : history.undo? = some (entry, remaining)) :
    remaining.Records inside ∧ ∃ address, inside address ∧ Edit.OfCell address entry.edits := by
  obtain ⟨undoable, redoable⟩ := history
  cases undoable with
  | nil => cases some
  | cons first earlier =>
      cases some
      refine ⟨?_, records entry List.mem_cons_self⟩
      intro other member
      exact records other (List.perm_middle.mem_iff.1 member)

theorem redo? (records : history.Records inside) (some : history.redo? = some (entry, remaining)) :
    remaining.Records inside ∧ ∃ address, inside address ∧ Edit.OfCell address entry.edits := by
  obtain ⟨undoable, redoable⟩ := history
  cases redoable with
  | nil => cases some
  | cons first later =>
      cases some
      refine ⟨?_, records entry (List.mem_append_right _ List.mem_cons_self)⟩
      intro other member
      exact records other (List.perm_middle.mem_iff.2 member)

end History.Records

namespace Retraces

variable {history remaining : History} {line : Timeline} {entry : HistoryEntry}

/-- The entry to undo has led to the present snapshot. -/
theorem connect_undo (retraces : Retraces history line)
    (some : history.undo? = some (entry, remaining)) :
    ∃ before, Edit.Connect entry.edits before line.now := by
  obtain ⟨undoable, redoable⟩ := history
  obtain ⟨earlier, now, later⟩ := line
  obtain ⟨back, _⟩ := retraces
  cases back with
  | nil => cases some
  | cons connect rest =>
      cases some
      exact ⟨_, connect⟩

/-- The entry to redo leads from the present snapshot to another one. -/
theorem connect_redo (retraces : Retraces history line)
    (some : history.redo? = some (entry, remaining)) :
    ∃ after, Edit.Connect entry.edits line.now after := by
  obtain ⟨undoable, redoable⟩ := history
  obtain ⟨earlier, now, later⟩ := line
  obtain ⟨_, onward⟩ := retraces
  cases onward with
  | nil => cases some
  | cons connect rest =>
      cases some
      exact ⟨_, connect⟩

end Retraces

namespace Sheet

variable {sheet : Sheet} {address : Address} {cell : Cell}

/-! ## The history after an edit -/

theorem setText_outside (outside : sheet.cell? address = none) (text : String) :
    sheet.setText address text = .failure sheet (.outsideGrid address) := by
  rw [setText, outside]

theorem setColor_outside (outside : sheet.cell? address = none) (color : Color) :
    sheet.setColor address color = .failure sheet (.outsideGrid address) := by
  rw [setColor, outside]

theorem clearCell_outside (outside : sheet.cell? address = none) :
    sheet.clearCell address = .failure sheet (.outsideGrid address) := by
  rw [clearCell, outside]

theorem setText_inside (inside : sheet.cell? address = some cell) (text : String) :
    sheet.setText address text =
      (if cell.text = text then sheet
        else sheet.record (.single (.text address cell.text text))).commitText address text := by
  rw [setText, inside]

theorem setColor_inside (inside : sheet.cell? address = some cell) (color : Color) :
    sheet.setColor address color =
      if cell.color = color then .success sheet
      else
        (sheet.record (.single (.color address cell.color color))).commitColor address color := by
  rw [setColor, inside]

theorem clearCell_inside (inside : sheet.cell? address = some cell) :
    sheet.clearCell address =
      if clearingEdits address cell = [] then .success sheet
      else
        (sheet.record (.batch (clearingEdits address cell))).applyAll
          (clearingEdits address cell) := by
  rw [clearCell, inside]
  dsimp only
  split
  · next nothing => rw [if_pos nothing]
  · next some => rw [if_neg some]

/-- Giving a cell a text is recorded if the text is new. -/
theorem history_setText (inside : sheet.cell? address = some cell) (text : String) :
    (sheet.setText address text).sheet.history =
      if cell.text = text then sheet.history
      else sheet.history.record (.single (.text address cell.text text)) := by
  rw [setText_inside inside, (Untouched.commitText _ address text).history]
  split <;> rfl

theorem history_setColor (inside : sheet.cell? address = some cell) (color : Color) :
    (sheet.setColor address color).sheet.history =
      if cell.color = color then sheet.history
      else sheet.history.record (.single (.color address cell.color color)) := by
  rw [setColor_inside inside]
  split
  · rfl
  · exact (Untouched.commitColor _ address color).history

theorem history_clearCell (inside : sheet.cell? address = some cell) :
    (sheet.clearCell address).sheet.history =
      if clearingEdits address cell = [] then sheet.history
      else sheet.history.record (.batch (clearingEdits address cell)) := by
  rw [clearCell_inside inside]
  split
  · rfl
  · exact (Untouched.applyAll _ _).history

/-! ## Sheets in use -/

/-- The history of a sheet in use retraces a timeline. -/
theorem InUse.exists_follows (used : sheet.InUse) : ∃ line, sheet.Follows line := by
  induction used with
  | @created rows columns sheet new =>
      rw [create] at new
      split at new
      · cases new
        exact ⟨Timeline.single (Snapshot.blank rows columns),
          entered?_blank_eq rows columns, Retraces.single _⟩
      · cases new
  | @operated sheet operation before ih =>
      obtain ⟨line, follows⟩ := ih
      apply operate_keeps (fun sheet => ∃ line, sheet.Follows line) ⟨line, follows⟩
      · exact fun action => ⟨_, follows.perform before.consistent.operators rfl action⟩
      · exact fun _ => ⟨line, follows.stay rfl rfl⟩
      · rintro sheet path modified ⟨line, follows⟩
        exact ⟨line, follows.stay rfl rfl⟩

theorem history_undo (sheet : Sheet) :
    sheet.undo.sheet.history = (sheet.history.undo?.map Prod.snd).getD sheet.history := by
  rw [undo]
  split
  · next nothing =>
      rw [nothing]
      rfl
  · next entry remaining some =>
      rw [some]
      rfl

theorem history_redo (sheet : Sheet) :
    sheet.redo.sheet.history = (sheet.history.redo?.map Prod.snd).getD sheet.history := by
  rw [redo]
  split
  · next nothing =>
      rw [nothing]
      rfl
  · next entry remaining some =>
      rw [some]
      rfl

/-- Operations record only entries about one cell, which is a cell of the sheet. -/
theorem records_perform {inside : Address → Prop} (records : sheet.history.Records inside)
    (within : ∀ address cell, sheet.cell? address = some cell → inside address)
    (action : Action) : (sheet.perform action).history.Records inside := by
  cases action with
  | setText address text =>
      rw [perform]
      cases present : sheet.cell? address with
      | none =>
          rw [setText_outside present]
          exact records
      | some cell =>
          rw [history_setText present]
          split
          · exact records
          · exact records.record (within address cell present) (Edit.OfCell.text _ _)
  | setColor address color =>
      rw [perform]
      cases present : sheet.cell? address with
      | none =>
          rw [setColor_outside present]
          exact records
      | some cell =>
          rw [history_setColor present]
          split
          · exact records
          · next differs =>
              exact records.record (within address cell present) (Edit.OfCell.color differs)
  | clearCell address =>
      rw [perform]
      cases present : sheet.cell? address with
      | none =>
          rw [clearCell_outside present]
          exact records
      | some cell =>
          rw [history_clearCell present]
          split
          · exact records
          · next some =>
              exact records.record (within address cell present) (Edit.ofCell_clearingEdits some)
  | recalculate address =>
      rw [perform, (recalculate_sameInputs sheet address).history]
      exact records
  | undo =>
      rw [perform, history_undo]
      cases some : sheet.history.undo? with
      | none => exact records
      | some moved => exact (records.undo? some).1
  | redo =>
      rw [perform, history_redo]
      cases some : sheet.history.redo? with
      | none => exact records
      | some moved => exact (records.redo? some).1
  | reset => exact History.Records.empty inside
  | loadRecords loaded =>
      rw [perform]
      cases result : (sheet.loadRecords loaded).result with
      | error fault =>
          rw [loadRecords_sheet_of_error result]
          exact records
      | ok _ =>
          rw [history_of_loaded result]
          exact History.Records.empty inside

/-- The history of a sheet in use records only entries about one cell of the sheet. -/
theorem InUse.records (used : sheet.InUse) :
    sheet.history.Records fun address => sheet.contains address = true := by
  induction used with
  | @created rows columns sheet new =>
      rw [create] at new
      split at new
      · cases new
        exact History.Records.empty _
      · cases new
  | @operated sheet operation before ih =>
      simp only [before.contains_operate]
      apply operate_keeps (fun after =>
        after.history.Records fun address => sheet.contains address = true) ih
      · exact records_perform ih fun _ _ present => contains_of_cell? present
      · exact fun _ => ih
      · exact fun _ _ records => records

/-! ## Edits to be made -/

/-- The edits that make a cell blank fit into it. -/
theorem fitting_clearingEdits (inside : sheet.cell? address = some cell)
    (some : clearingEdits address cell ≠ []) :
    Edit.Fitting address cell.color (clearingEdits address cell) := by
  have entered := entered?_of_cell? inside
  exact (Edit.ofCell_clearingEdits some).fitting (connect_clearingEdits entered) entered

/-- What undoing has to do in a sheet in use fits into it. -/
theorem InUse.fitting_undo (used : sheet.InUse) {entry : HistoryEntry} {remaining : History}
    (moved : sheet.history.undo? = some (entry, remaining)) :
    ∃ address cell, sheet.cell? address = some cell ∧
      Edit.Fitting address cell.color (entry.edits.reverse.map Edit.inverse) := by
  obtain ⟨_, address, inside, ofCell⟩ := used.records.undo? moved
  obtain ⟨cell, present⟩ := exists_cell?_of_contains inside
  obtain ⟨line, follows⟩ := used.exists_follows
  obtain ⟨before, connect⟩ := follows.retraces.connect_undo moved
  exact ⟨address, cell, present, ofCell.fitting_inverse connect (follows.now_inside present)⟩

/-- What redoing has to do in a sheet in use fits into it. -/
theorem InUse.fitting_redo (used : sheet.InUse) {entry : HistoryEntry} {remaining : History}
    (moved : sheet.history.redo? = some (entry, remaining)) :
    ∃ address cell, sheet.cell? address = some cell ∧
      Edit.Fitting address cell.color entry.edits := by
  obtain ⟨_, address, inside, ofCell⟩ := used.records.redo? moved
  obtain ⟨cell, present⟩ := exists_cell?_of_contains inside
  obtain ⟨line, follows⟩ := used.exists_follows
  obtain ⟨after, connect⟩ := follows.retraces.connect_redo moved
  exact ⟨address, cell, present, ofCell.fitting connect (follows.now_inside present)⟩

end Sheet

end Worksheet
