import Worksheet.Proofs.Sheet.Recording

/-!
# Changes are flagged

A sheet is measured against what was entered in it when it was new, or when it was loaded,
saved or reset for the last time.  The flag is set by every operation that enters something
else, before or after the cascade that may report a fault, and it is taken back only where the
sheet is measured afresh.

So the main statement holds for runs of any length: as long as the flag is not set, the texts
and the colors of all cells are those that the sheet is measured against.
-/

namespace Worksheet

/-- Is a sheet measured afresh after an operation that has succeeded? -/
def Operation.isCheckpoint : Operation → Bool
  | .save _ => true
  | .saveAs _ _ => true
  | operation => operation.replacesAll

namespace Sheet

variable {sheet start before after : Sheet} {address : Address} {cell : Cell}

/-- An operation that succeeds, and after which the sheet is measured afresh. -/
def ReachesCheckpoint (sheet : Sheet) (operation : Operation) : Prop :=
  operation.isCheckpoint = true ∧ (sheet.operate operation).result = .ok ()

/-- What a sheet is measured against after an operation. -/
def baselineAfter (baseline : Snapshot) (operation : Operation) (outcome : Outcome) : Snapshot :=
  match operation.isCheckpoint, outcome.result with
  | true, .ok () => outcome.sheet.entered?
  | _, _ => baseline

/-- What a sheet is measured against after some operations: what was entered right after the
last of them that has reached a checkpoint, or at the start if there is none. -/
def baselineFrom (sheet : Sheet) (baseline : Snapshot) : List Operation → Snapshot
  | [] => baseline
  | operation :: rest =>
      let outcome := sheet.operate operation
      outcome.sheet.baselineFrom (baselineAfter baseline operation outcome) rest

/-! ## Steps that flag what they change -/

/-- The later sheet counts as modified, or the earlier one did not and nothing else is
entered. -/
def Flags (before after : Sheet) : Prop :=
  after.modified = false → before.modified = false ∧ after.entered? = before.entered?

theorem Flags.of_modified (flagged : after.modified = true) : Flags before after := by
  intro unflagged
  rw [flagged] at unflagged
  cases unflagged

theorem Flags.of_same (modified : after.modified = before.modified)
    (entered : after.entered? = before.entered?) : Flags before after := by
  intro unflagged
  rw [modified] at unflagged
  exact ⟨unflagged, entered⟩

theorem Flags.refl (sheet : Sheet) : Flags sheet sheet :=
  Flags.of_same rfl rfl

theorem flags_setText (sheet : Sheet) (address : Address) (text : String) :
    Flags sheet (sheet.setText address text).sheet := by
  cases inside : sheet.cell? address with
  | none =>
      rw [setText_outside inside]
      exact Flags.refl sheet
  | some cell =>
      rw [setText_inside inside]
      split
      · next same =>
          -- The text is committed once more, which enters nothing new.
          apply Flags.of_same (Untouched.commitText sheet address text).modified
          rw [entered?_commitText]
          exact Snapshot.change_eq_self_of_entry (entered?_of_cell? inside) (by rw [same])
      · exact Flags.of_modified (Untouched.commitText _ address text).modified

theorem flags_setColor (sheet : Sheet) (address : Address) (color : Color) :
    Flags sheet (sheet.setColor address color).sheet := by
  cases inside : sheet.cell? address with
  | none =>
      rw [setColor_outside inside]
      exact Flags.refl sheet
  | some cell =>
      rw [setColor_inside inside]
      split
      · exact Flags.refl sheet
      · exact Flags.of_modified (Untouched.commitColor _ address color).modified

theorem flags_clearCell (sheet : Sheet) (address : Address) :
    Flags sheet (sheet.clearCell address).sheet := by
  cases inside : sheet.cell? address with
  | none =>
      rw [clearCell_outside inside]
      exact Flags.refl sheet
  | some cell =>
      rw [clearCell_inside inside]
      split
      · exact Flags.refl sheet
      · exact Flags.of_modified (Untouched.applyAll _ _).modified

theorem flags_undo (sheet : Sheet) : Flags sheet sheet.undo.sheet := by
  rw [undo]
  split
  · exact Flags.refl sheet
  · exact Flags.of_modified rfl

theorem flags_redo (sheet : Sheet) : Flags sheet sheet.redo.sheet := by
  rw [redo]
  split
  · exact Flags.refl sheet
  · exact Flags.of_modified rfl

/-- An operation on single cells flags what it changes. -/
theorem flags_perform {action : Action} (single : action.replacesAll = false) :
    Flags sheet (sheet.perform action) := by
  cases action with
  | setText cell text => exact flags_setText sheet cell text
  | setColor cell color => exact flags_setColor sheet cell color
  | clearCell cell => exact flags_clearCell sheet cell
  | recalculate cell =>
      have inputs := recalculate_sameInputs sheet cell
      exact Flags.of_same inputs.modified (funext inputs.entered)
  | undo => exact flags_undo sheet
  | redo => exact flags_redo sheet
  | reset => cases single
  | loadRecords records => cases single

/-! ## Checkpoints -/

/-- What becomes of an operation after which the sheet may be measured afresh. -/
inductive CheckpointOutcome (sheet : Sheet) (outcome : Outcome) : Prop
  | missed (fault : SheetError) (fails : outcome.result = .error fault)
      (same : outcome.sheet = sheet)
  | reached (succeeds : outcome.result = .ok ()) (unflagged : outcome.sheet.modified = false)

theorem modified_of_loaded {records : List Record}
    (succeeds : (sheet.loadRecords records).result = .ok ()) :
    (sheet.loadRecords records).sheet.modified = false := by
  obtain ⟨all, prepared⟩ := exists_prepared_of_loaded succeeds
  cases loadRecords_concluded prepared with
  | loaded _ _ entered => exact entered.untouched.modified
  | stalled _ fails =>
      rw [fails] at succeeds
      cases succeeds

theorem checkpoint_loadRecords (sheet : Sheet) (records : List Record) :
    CheckpointOutcome sheet (sheet.loadRecords records) := by
  cases result : (sheet.loadRecords records).result with
  | error fault => exact .missed fault result (loadRecords_sheet_of_error result)
  | ok _ => exact .reached result (modified_of_loaded result)

theorem checkpoint_loadFile (sheet : Sheet) (files : FileStore) (path : String) :
    CheckpointOutcome sheet (sheet.loadFile files path) := by
  rcases sheet.loadFile_cases files path with
    ⟨fault, fails, same⟩ | ⟨records, succeeds, result, loaded⟩
  · exact .missed fault fails same
  · refine .reached result ?_
    rw [loaded]
    exact modified_of_loaded succeeds

theorem checkpoint_saveAs (sheet : Sheet) (files : FileStore) (path : String) :
    CheckpointOutcome sheet (sheet.saveAs files path).outcome := by
  rw [saveAs]
  split
  · exact .missed _ rfl rfl
  · exact .reached rfl rfl

theorem checkpoint_save (sheet : Sheet) (files : FileStore) :
    CheckpointOutcome sheet (sheet.save files).outcome := by
  rw [save]
  split
  · exact .missed _ rfl rfl
  · next path _ => exact checkpoint_saveAs sheet files path

theorem checkpoint_operate (sheet : Sheet) {operation : Operation}
    (checkpoint : operation.isCheckpoint = true) :
    CheckpointOutcome sheet (sheet.operate operation) := by
  cases operation with
  | action action =>
      cases action with
      | reset => exact .reached rfl rfl
      | loadRecords records => exact checkpoint_loadRecords sheet records
      | _ => cases checkpoint
  | takeChanges => cases checkpoint
  | save files => exact checkpoint_save sheet files
  | saveAs files path => exact checkpoint_saveAs sheet files path
  | loadFile files path => exact checkpoint_loadFile sheet files path

/-! ## Runs of operations -/

theorem ReachesCheckpoint.modified {operation : Operation}
    (reaches : sheet.ReachesCheckpoint operation) :
    (sheet.operate operation).sheet.modified = false := by
  cases checkpoint_operate sheet reaches.1 with
  | missed fault fails _ =>
      rw [reaches.2] at fails
      cases fails
  | reached _ unflagged => exact unflagged

/-- An operation that reaches no checkpoint flags what it changes. -/
theorem flags_operate {operation : Operation} (goesOn : ¬ sheet.ReachesCheckpoint operation) :
    Flags sheet (sheet.operate operation).sheet := by
  cases checkpoint : operation.isCheckpoint with
  | true =>
      cases checkpoint_operate sheet checkpoint with
      | missed _ _ same =>
          rw [same]
          exact Flags.refl sheet
      | reached succeeds _ => exact absurd ⟨checkpoint, succeeds⟩ goesOn
  | false =>
      cases operation with
      | action action =>
          rw [operate, act_sheet]
          exact flags_perform checkpoint
      | takeChanges => exact Flags.of_same rfl rfl
      | save files => cases checkpoint
      | saveAs files path => cases checkpoint
      | loadFile files path => cases checkpoint

/-- If a sheet whose flag is not set is at its baseline, it is so after an operation. -/
theorem entered?_eq_baselineAfter {baseline : Snapshot} {operation : Operation}
    (atBaseline : sheet.modified = false → sheet.entered? = baseline)
    (unflagged : (sheet.operate operation).sheet.modified = false) :
    (sheet.operate operation).sheet.entered? =
      baselineAfter baseline operation (sheet.operate operation) := by
  rw [baselineAfter]
  split
  · rfl
  · next goesOn =>
      have step : Flags sheet (sheet.operate operation).sheet := by
        apply flags_operate
        rintro ⟨checkpoint, succeeds⟩
        exact goesOn checkpoint succeeds
      obtain ⟨unflaggedBefore, same⟩ := step unflagged
      rw [same]
      exact atBaseline unflaggedBefore

/-- So it is at its baseline after any operations. -/
theorem entered?_eq_baselineFrom {baseline : Snapshot} (operations : List Operation)
    (atBaseline : sheet.modified = false → sheet.entered? = baseline)
    (unflagged : (sheet.operateAll operations).modified = false) :
    (sheet.operateAll operations).entered? = sheet.baselineFrom baseline operations := by
  induction operations generalizing sheet baseline with
  | nil => exact atBaseline unflagged
  | cons operation operations ih => exact ih (entered?_eq_baselineAfter atBaseline) unflagged

/-- A new sheet does not count as modified.  Whatever is done with it, as long as it does not
count as modified its texts and colors are what they were right after its creation or after
the latest load, save or reset that has succeeded.  Each of these makes the sheet unmodified
again, and every other operation that changes a text or a color, or that fails after it has
changed one, makes it modified. -/
theorem at_baseline_of_unmodified {rows columns : Nat} (new : create rows columns = .ok start)
    (operations : List Operation) :
    let now := start.operateAll operations
    start.modified = false ∧
      (now.modified = false → now.entered? = start.baselineFrom start.entered? operations) ∧
      ∀ operation, let after := (now.operate operation).sheet
        (now.ReachesCheckpoint operation → after.modified = false) ∧
        (¬ now.ReachesCheckpoint operation → after.entered? ≠ now.entered? →
          after.modified = true) := by
  intro now
  have unflaggedStart : start.modified = false := by
    rw [create] at new
    split at new
    · cases new
      rfl
    · cases new
  refine ⟨unflaggedStart, entered?_eq_baselineFrom operations fun _ => rfl, ?_⟩
  intro operation
  refine ⟨ReachesCheckpoint.modified, ?_⟩
  intro goesOn changed
  by_contra unflagged
  rw [Bool.not_eq_true] at unflagged
  exact changed (flags_operate goesOn unflagged).2

/-- A text that has been saved is an example: recalculating its cell leaves the sheet at its
baseline, another color is flagged, and a reset takes the flag back. -/
theorem at_baseline_of_saved_text :
    ∃ start now, create 1 1 = .ok start ∧
      now = start.operateAll [.action (.setText ⟨0, 0⟩ "7"), .saveAs FileStore.empty "s",
        .action (.recalculate ⟨0, 0⟩)] ∧
      now.modified = false ∧ now.entered? ⟨0, 0⟩ = some ("7", defaultColor) ∧
      (now.operate (.action (.setColor ⟨0, 0⟩ 0))).sheet.modified = true ∧
      (now.operate (.action .reset)).sheet.modified = false := by
  have new : create 1 1 = .ok (blank 1 1) := rfl
  obtain ⟨-, atBaseline, onward⟩ := at_baseline_of_unmodified new [.action (.setText ⟨0, 0⟩ "7"),
    .saveAs FileStore.empty "s", .action (.recalculate ⟨0, 0⟩)]
  have typed : ((blank 1 1).setText ⟨0, 0⟩ "7").sheet.entered? ⟨0, 0⟩ =
      some ("7", defaultColor) := by
    have inside : (blank 1 1).cell? ⟨0, 0⟩ = some Cell.blank := rfl
    rw [setText_inside inside, entered?_commitText, Snapshot.change_self]
    rfl
  have unflagged : ((blank 1 1).operateAll [.action (.setText ⟨0, 0⟩ "7"),
      .saveAs FileStore.empty "s", .action (.recalculate ⟨0, 0⟩)]).modified = false :=
    (recalculate_sameInputs _ ⟨0, 0⟩).modified
  have entered := (congrFun (atBaseline unflagged) ⟨0, 0⟩).trans typed
  generalize run : (blank 1 1).operateAll [.action (.setText ⟨0, 0⟩ "7"),
    .saveAs FileStore.empty "s", .action (.recalculate ⟨0, 0⟩)] = now at *
  have colored : (now.operate (.action (.setColor ⟨0, 0⟩ 0))).sheet.entered? ⟨0, 0⟩ =
      some ("7", 0) := by
    obtain ⟨cell, inside, content⟩ := Option.map_eq_some_iff.1 entered
    obtain ⟨text, color⟩ := Prod.mk.inj content
    rw [operate, act, setColor_inside inside, if_neg (by rw [color]; decide),
      entered?_commitColor, Snapshot.change_self]
    exact congrArg (Option.map fun entry : String × Color => (entry.1, (0 : Color))) entered
  refine ⟨_, now, new, run.symm, unflagged, entered, ?_, (onward (.action .reset)).1 ⟨rfl, rfl⟩⟩
  apply (onward (.action (.setColor ⟨0, 0⟩ 0))).2
  · exact fun reaches => Bool.false_ne_true reaches.1
  · intro same
    have both := colored.symm.trans ((congrFun same _).trans entered)
    exact absurd both (by decide)

end Sheet

end Worksheet
