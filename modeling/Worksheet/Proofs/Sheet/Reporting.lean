import Worksheet.Proofs.Sheet.Announcing
import Worksheet.Proofs.Sheet.Selecting
import Worksheet.Proofs.Sheet.Showing

/-!
# What waits to be reported

The waiting changes of a sheet in use are cells of the sheet, each of them once.  A reset or a
load keeps what waits in its place, and it reports at least the cells that are seen to differ.
So does every other operation, except that taking out the changes leaves none.

So whatever is done after the changes have been taken out, the next list holds each cell that
is seen to differ from what it was then.
-/

namespace Worksheet.Sheet

variable {sheet before middle after : Sheet} {address cell : Address} {records : List Record}

/-! ## Nothing is missed -/

/-- What waits stays in its place, and every cell that is seen to differ waits. -/
structure Covers (before after : Sheet) : Prop where
  keeps : before.changes.toList <+: after.changes.toList
  differing : ∀ cell, after.shown? cell ≠ before.shown? cell → cell ∈ after.changes.toList

theorem Covers.refl (sheet : Sheet) : Covers sheet sheet :=
  ⟨List.prefix_refl _, fun _ changed => absurd rfl changed⟩

theorem Covers.trans (first : Covers before middle) (second : Covers middle after) :
    Covers before after where
  keeps := first.keeps.trans second.keeps
  differing := by
    intro cell changed
    by_cases same : middle.shown? cell = before.shown? cell
    · rw [← same] at changed
      exact second.differing cell changed
    · exact second.keeps.subset (first.differing cell same)

/-- A step is covered if all cells that are seen to differ are added behind what waits. -/
theorem covers_of_toList_eq {cells : List Address}
    (extended : after.changes.toList = (before.changes.toList ++ cells).eraseDups)
    (differ : ∀ cell, after.shown? cell ≠ before.shown? cell → cell ∈ cells) :
    Covers before after := by
  constructor
  · rw [extended, Changes.eraseDups_toList_append]
    exact List.prefix_append _ _
  · intro cell changed
    rw [extended, List.mem_eraseDups, List.mem_append]
    exact .inr (differ cell changed)

theorem Announces.covers (announces : Announces before after) : Covers before after := by
  obtain ⟨cells, announced, differ⟩ := announces
  apply covers_of_toList_eq
  · rw [announced, Changes.toList_announceAll]
  · exact fun cell => (differ cell).2

/-! ## Resetting and loading -/

/-- The cells that a reset makes blank. -/
def cleared (sheet : Sheet) : List Address :=
  (sheet.grid.select fun _ cell => cell != Cell.blank).map Prod.fst

theorem mem_cleared_iff :
    address ∈ sheet.cleared ↔ ∃ cell, sheet.cell? address = some cell ∧ cell ≠ Cell.blank := by
  rw [cleared, List.mem_map]
  constructor
  · rintro ⟨⟨other, cell⟩, member, rfl⟩
    obtain ⟨present, differs⟩ := Grid.mem_select.1 member
    exact ⟨cell, present, bne_iff_ne.1 differs⟩
  · rintro ⟨cell, present, differs⟩
    exact ⟨(address, cell), Grid.mem_select.2 ⟨present, bne_iff_ne.2 differs⟩, rfl⟩

theorem mem_differences_iff {loaded : Sheet} :
    address ∈ sheet.differences loaded ↔
      ∃ cell, loaded.cell? address = some cell ∧ sheet.cell? address ≠ some cell := by
  rw [differences, List.mem_map]
  constructor
  · rintro ⟨⟨other, cell⟩, member, rfl⟩
    obtain ⟨present, differs⟩ := Grid.mem_select.1 member
    exact ⟨cell, present, bne_iff_ne.1 differs⟩
  · rintro ⟨cell, present, differs⟩
    exact ⟨(address, cell), Grid.mem_select.2 ⟨present, bne_iff_ne.2 differs⟩, rfl⟩

/-- A cell that is seen to differ is there afterwards, and it is another one than before. -/
theorem exists_cell?_of_shown?_ne (size : after.dimensions = before.dimensions)
    (changed : after.shown? address ≠ before.shown? address) :
    ∃ cell, after.cell? address = some cell ∧ before.cell? address ≠ some cell := by
  have inside := (contains_congr size address).trans (contains_of_shown?_ne size changed)
  obtain ⟨cell, present⟩ := exists_cell?_of_contains inside
  refine ⟨cell, present, ?_⟩
  intro same
  apply changed
  rw [shown?, shown?, present, same]

theorem covers_reset (sheet : Sheet) : Covers sheet sheet.reset := by
  apply covers_of_toList_eq (sheet.changes.toList_announceAll sheet.cleared)
  intro address changed
  have size : sheet.reset.dimensions = sheet.dimensions := rfl
  obtain ⟨now, blank, differs⟩ := exists_cell?_of_shown?_ne size changed
  obtain ⟨cell, present⟩ := exists_cell?_of_contains (contains_of_shown?_ne size changed)
  rw [mem_cleared_iff]
  refine ⟨cell, present, ?_⟩
  rintro rfl
  have found := (Grid.get?_filled _ _ Cell.blank address).symm.trans blank
  split at found
  · cases found
    exact differs present
  · cases found

theorem toList_replaceBy (sheet loaded : Sheet) :
    (sheet.replaceBy loaded).changes.toList =
      (sheet.changes.toList ++ (loaded.changes.toList ++ sheet.differences loaded)).eraseDups := by
  rw [← List.append_assoc]
  exact Changes.empty.toList_announceAll _

theorem covers_loadRecords (succeeds : (sheet.loadRecords records).result = .ok ()) :
    Covers sheet (sheet.loadRecords records).sheet := by
  have size := dimensions_of_loaded succeeds
  rw [loadRecords_sheet_of_ok succeeds] at size ⊢
  apply covers_of_toList_eq (toList_replaceBy sheet _)
  intro address changed
  obtain ⟨cell, present, differs⟩ := exists_cell?_of_shown?_ne size changed
  exact List.mem_append_right _ (mem_differences_iff.2 ⟨cell, present, differs⟩)

/-! ## What waits are cells of the sheet -/

/-- What waits are cells of the sheet. -/
def Reportable (sheet : Sheet) : Prop :=
  ∀ cell ∈ sheet.changes.toList, sheet.contains cell = true

namespace Reportable

theorem blank (rows columns : Nat) : (Sheet.blank rows columns).Reportable := by
  intro _ waits
  exact absurd waits List.not_mem_nil

/-- Announcing cells of the sheet leaves only such cells waiting. -/
theorem extend (reportable : before.Reportable) (size : after.dimensions = before.dimensions)
    {cells : List Address} (announced : after.changes = before.changes.announceAll cells)
    (inside : ∀ cell ∈ cells, before.contains cell = true) : after.Reportable := by
  intro cell waits
  rw [contains_congr size]
  rw [announced, Changes.mem_announceAll] at waits
  exact waits.elim (reportable cell) (inside cell)

theorem announces (reportable : before.Reportable)
    (size : after.dimensions = before.dimensions) (announces : Announces before after) :
    after.Reportable := by
  obtain ⟨cells, announced, differ⟩ := announces
  apply reportable.extend size announced
  intro cell member
  exact contains_of_shown?_ne size ((differ cell).1 member)

theorem commitText (reportable : sheet.Reportable) (linked : sheet.Linked) (address : Address)
    (text : String) : (sheet.commitText address text).sheet.Reportable := by
  cases inside : sheet.cell? address with
  | none =>
      rw [commitText_outside inside]
      exact reportable
  | some cell =>
      exact reportable.announces (Untouched.commitText sheet address text).dimensions
        (announces_commitText linked inside text)

theorem commitColor (reportable : sheet.Reportable) (address : Address) (color : Color) :
    (sheet.commitColor address color).sheet.Reportable := by
  have size := dimensions_commitColor sheet address color
  cases inside : sheet.cell? address with
  | none =>
      rw [commitColor_outside inside]
      exact reportable
  | some cell =>
      rw [commitColor_sheet inside] at size ⊢
      apply @extend sheet _ reportable size [address] rfl
      rw [List.forall_mem_singleton]
      exact contains_of_cell? inside

theorem keptByCommits (size : Nat × Nat) :
    KeptByCommits fun sheet =>
      (sheet.Consistent ∧ sheet.dimensions = size) ∧ sheet.Reportable := by
  constructor
  case commitText =>
    rintro sheet address text ⟨resembles, reportable⟩
    exact ⟨(keptBySteps_dimensions size).commitText address text resembles,
      reportable.commitText resembles.1.toLinked address text⟩
  case commitColor =>
    rintro sheet address color ⟨resembles, reportable⟩
    exact ⟨(keptBySteps_dimensions size).commitColor address color resembles,
      reportable.commitColor address color⟩

theorem reset (reportable : sheet.Reportable) : sheet.reset.Reportable := by
  apply @extend sheet sheet.reset reportable rfl sheet.cleared rfl
  intro address member
  obtain ⟨cell, present, _⟩ := mem_cleared_iff.1 member
  exact contains_of_cell? present

theorem replaceBy (reportable : sheet.Reportable) {loaded : Sheet} (filled : loaded.Reportable)
    (size : loaded.dimensions = sheet.dimensions) : (sheet.replaceBy loaded).Reportable := by
  intro address waits
  rw [toList_replaceBy, List.mem_eraseDups, List.mem_append, List.mem_append] at waits
  change loaded.contains address = true
  rcases waits with earlier | announced | differs
  · rw [contains_congr size]
    exact reportable address earlier
  · exact filled address announced
  · obtain ⟨cell, present, _⟩ := mem_differences_iff.1 differs
    exact contains_of_cell? present

theorem loadRecords (reportable : sheet.Reportable)
    (operators : sheet.operators = OperatorTable.arithmetic) (records : List Record) :
    (sheet.loadRecords records).sheet.Reportable := by
  cases result : (sheet.loadRecords records).result with
  | error fault =>
      rw [loadRecords_sheet_of_error result]
      exact reportable
  | ok _ =>
      rw [loadRecords_sheet_of_ok result, fresh_eq_blank operators]
      have filled := (keptByCommits sheet.dimensions).fill records
        ⟨⟨consistent_blank _ _, rfl⟩, Reportable.blank _ _⟩
      exact reportable.replaceBy filled.2 filled.1.2

/-- Every operation on a sheet in use leaves only cells of the sheet waiting. -/
theorem perform (reportable : sheet.Reportable) (used : sheet.InUse) (action : Action) :
    (sheet.perform action).Reportable := by
  cases replaces : action.replacesAll with
  | false =>
      have size := used.dimensions_operate (.action action)
      have announces := (used.effect replaces).announces used.consistent
      rw [operate] at size
      rw [act_sheet] at size announces
      exact reportable.announces size announces
  | true =>
      cases action with
      | reset => exact reportable.reset
      | loadRecords records => exact reportable.loadRecords used.consistent.operators records
      | _ => cases replaces

/-- The place of the file and the history make no difference to what waits. -/
theorem congr (reportable : before.Reportable) (size : after.dimensions = before.dimensions)
    (changes : after.changes = before.changes) : after.Reportable := by
  apply @extend before after reportable size [] changes
  exact fun _ => nofun

end Reportable

/-- What waits in a sheet in use are cells of the sheet. -/
theorem InUse.reportable (used : sheet.InUse) : sheet.Reportable := by
  induction used with
  | created new =>
      rw [create] at new
      split at new
      · cases new
        exact Reportable.blank _ _
      · cases new
  | @operated sheet operation before ih =>
      apply operate_keeps Reportable ih
      · exact ih.perform before
      · exact fun _ _ waits => absurd waits List.not_mem_nil
      · exact fun _ _ reportable => reportable.congr rfl rfl

/-! ## Nothing is missed in the long run -/

theorem InUse.covers_perform (used : sheet.InUse) (action : Action) :
    Covers sheet (sheet.perform action) := by
  cases replaces : action.replacesAll with
  | false =>
      rw [← act_sheet]
      exact ((used.effect replaces).announces used.consistent).covers
  | true =>
      cases action with
      | reset => exact covers_reset sheet
      | loadRecords records =>
          rw [perform]
          cases result : (sheet.loadRecords records).result with
          | error fault =>
              rw [loadRecords_sheet_of_error result]
              exact Covers.refl sheet
          | ok _ => exact covers_loadRecords result
      | _ => cases replaces

/-- An operation that does not take out the changes covers its step. -/
theorem InUse.covers_operate (used : sheet.InUse) {operation : Operation}
    (other : operation ≠ .takeChanges) : Covers sheet (sheet.operate operation).sheet := by
  apply operate_keeps (Covers sheet) (Covers.refl sheet)
  · exact used.covers_perform
  · exact fun same => absurd same other
  · exact fun _ _ covers => ⟨covers.keeps, covers.differing⟩

/-- So do operations one after the other. -/
theorem InUse.covers_operateAll (used : sheet.InUse) {operations : List Operation}
    (others : ∀ operation ∈ operations, operation ≠ .takeChanges) :
    Covers sheet (sheet.operateAll operations) := by
  induction operations generalizing sheet with
  | nil => exact Covers.refl sheet
  | cons operation operations ih =>
      rw [List.forall_mem_cons] at others
      exact (used.covers_operate others.1).trans (ih (used.operated operation) others.2)

/-- An operation that replaces all cells and fails leaves the sheet as it is. -/
theorem operate_sheet_of_error {operation : Operation} (replaces : operation.replacesAll = true)
    {fault : SheetError} (failed : (sheet.operate operation).result = .error fault) :
    (sheet.operate operation).sheet = sheet := by
  cases operation with
  | action action =>
      cases action with
      | reset => cases failed
      | loadRecords records => exact loadRecords_sheet_of_error failed
      | _ => cases replaces
  | loadFile files path =>
      rcases sheet.loadFile_cases files path with ⟨_, _, same⟩ | ⟨_, _, succeeds, _⟩
      · exact same
      · rw [operate, succeeds] at failed
        cases failed
  | _ => cases replaces

/-- The changes of a sheet in use are complete, and none is reported twice.  What waits are
cells of the sheet, each once.  If the changes are taken out, and anything else is done then,
the next list holds every cell that is seen to differ from what it was.  An operation that does
not replace all cells adds exactly the cells that are seen to differ and do not wait already.
A load that fails adds nothing, and a reset or a load that succeeds keeps what waits in its
place and adds at least the cells that are seen to differ. -/
theorem reports_changes_of_inUse (used : sheet.InUse) :
    (sheet.changes.toList.Nodup ∧
      ∀ cell ∈ sheet.changes.toList, sheet.contains cell = true) ∧
    (∀ operations : List Operation, (∀ operation ∈ operations, operation ≠ .takeChanges) →
      let later := sheet.takeChanges.2.operateAll operations
      later.takeChanges.1.Nodup ∧
        (∀ cell ∈ later.takeChanges.1, sheet.contains cell = true) ∧
        ∀ cell, later.shown? cell ≠ sheet.shown? cell → cell ∈ later.takeChanges.1) ∧
    (∀ action : Action, action.replacesAll = false →
      let after := (sheet.act action).sheet
      ∃ added, after.changes.toList = sheet.changes.toList ++ added ∧
        ∀ cell, cell ∈ added ↔
          after.shown? cell ≠ sheet.shown? cell ∧ cell ∉ sheet.changes.toList) ∧
    ∀ operation : Operation, operation.replacesAll = true →
      let outcome := sheet.operate operation
      (∀ fault, outcome.result = .error fault → outcome.sheet.changes = sheet.changes) ∧
        (outcome.result = .ok () →
          sheet.changes.toList <+: outcome.sheet.changes.toList ∧
          ∀ cell, outcome.sheet.shown? cell ≠ sheet.shown? cell →
            cell ∈ outcome.sheet.changes.toList) := by
  have reportable := used.reportable
  refine ⟨⟨sheet.changes.distinct, reportable⟩, ?_, ?_, ?_⟩
  · intro operations others
    have taken : sheet.takeChanges.2.InUse := used.operated .takeChanges
    have waiting := (taken.operateAll operations).reportable
    refine ⟨(sheet.takeChanges.2.operateAll operations).changes.distinct, ?_,
      (taken.covers_operateAll others).differing⟩
    intro cell waits
    rw [← waiting cell waits]
    exact (contains_congr (taken.dimensions_operateAll operations) cell).symm
  · intro action single
    obtain ⟨cells, announced, differ⟩ := (used.effect single).announces used.consistent
    obtain ⟨added, extended, mem_added⟩ := sheet.changes.exists_added cells
    refine ⟨added, ?_, ?_⟩
    · rw [announced, extended]
    · intro cell
      rw [mem_added, differ]
  · intro operation replaces
    constructor
    · intro fault failed
      exact congrArg changes (operate_sheet_of_error replaces failed)
    · intro _
      have other : operation ≠ .takeChanges := by
        rintro rfl
        cases replaces
      have covers := used.covers_operate other
      exact ⟨covers.keeps, covers.differing⟩

/-- The first text of a sheet is an example. -/
theorem reports_changes_of_first_text :
    ∃ sheet, sheet = ((blank 1 1).act (.setText ⟨0, 0⟩ "7")).sheet ∧ InUse (blank 1 1) ∧
      sheet.shown? ⟨0, 0⟩ ≠ (blank 1 1).shown? ⟨0, 0⟩ ∧ ⟨0, 0⟩ ∈ sheet.changes.toList := by
  have start : (blank 1 1).Reached := reached_blank (by decide)
  have reached := start.performed (.setText ⟨0, 0⟩ "7")
  have text := start.text_setText ⟨0, 0⟩ rfl "7" ⟨0, 0⟩
  have reports := (reports_changes_of_inUse start.inUse).2.2.1 (.setText ⟨0, 0⟩ "7") rfl
  change (((blank 1 1).perform (.setText ⟨0, 0⟩ "7")).cell? ⟨0, 0⟩).map Cell.text = _ at text
  rw [act_sheet] at reports ⊢
  generalize (blank 1 1).perform (.setText ⟨0, 0⟩ "7") = sheet at reached text reports
  obtain ⟨cell, inside, entered⟩ := Option.map_eq_some_iff.1 (text.trans (if_pos rfl))
  have plain : cell.formula? = none := by
    rw [Cell.formula?, entered]
    decide
  have differs : sheet.shown? ⟨0, 0⟩ ≠ (blank 1 1).shown? ⟨0, 0⟩ := by
    rw [shown?, inside, Option.map_some, (reached.consistent.shows_text inside plain).1, entered]
    intro same
    have values : some "7" = ((blank 1 1).shown? ⟨0, 0⟩).map Prod.fst :=
      congrArg (Option.map Prod.fst) same
    exact absurd values (by decide)
  obtain ⟨added, extended, mem_added⟩ := reports
  refine ⟨sheet, rfl, start.inUse, differs, ?_⟩
  rw [extended]
  exact List.mem_append_right _ ((mem_added _).2 ⟨differs, List.not_mem_nil⟩)

end Worksheet.Sheet
