import Mathlib.Order.WellFounded
import Worksheet.Proofs.Sheet.Determined
import Worksheet.Proofs.Sheet.Loading
import Worksheet.Proofs.Sheet.Selecting
import Worksheet.Proofs.Sheet.Size
import Worksheet.Proofs.SheetFile

/-!
# Saved sheets are loaded again

The file of a reached sheet has a record for every cell with a text or a color of its
own.  Its records are read back, and they are stuck exactly if the sheet has a
reference cycle.  Otherwise they are all loaded, in whatever order.  Values are
computed again, and as they depend on texts alone they are the same as before, the
markers of failed cells among them.  So the loaded sheet shows what the saved one
shows, and it is saved to the same file.
-/

namespace Worksheet.Sheet

variable {sheet target : Sheet}

/-! ## The records of a sheet -/

/-- The record of a cell as it waits to be loaded. -/
def toPending (entry : Address × Cell) : PendingRecord :=
  ⟨entry.1, Record.ofCell entry.1 entry.2, Cell.referencesOf entry.2.text⟩

/-- The records of a sheet as they wait to be loaded. -/
def pendingRecords (sheet : Sheet) : List PendingRecord :=
  sheet.modifiedCells.map toPending

theorem records_eq (sheet : Sheet) :
    SheetFile.records sheet = sheet.pendingRecords.map PendingRecord.record := by
  rw [SheetFile.records, pendingRecords, List.map_map]
  rfl

theorem mem_pendingRecords {pending : PendingRecord} :
    pending ∈ sheet.pendingRecords ↔
      ∃ cell, sheet.cell? pending.cell = some cell ∧ cell.isModified = true ∧
        pending = toPending (pending.cell, cell) := by
  rw [pendingRecords, List.mem_map]
  constructor
  · rintro ⟨⟨address, cell⟩, member, rfl⟩
    obtain ⟨present, modified⟩ := Grid.mem_select.1 member
    exact ⟨cell, present, modified, rfl⟩
  · rintro ⟨cell, present, modified, same⟩
    exact ⟨(pending.cell, cell), Grid.mem_select.2 ⟨present, modified⟩, same.symm⟩

theorem mem_cells_pendingRecords {address : Address} :
    address ∈ sheet.pendingRecords.map PendingRecord.cell ↔
      ∃ cell, sheet.cell? address = some cell ∧ cell.isModified = true := by
  rw [List.mem_map]
  constructor
  · rintro ⟨pending, member, rfl⟩
    obtain ⟨cell, present, modified, _⟩ := mem_pendingRecords.1 member
    exact ⟨cell, present, modified⟩
  · rintro ⟨cell, present, modified⟩
    exact ⟨toPending (address, cell), mem_pendingRecords.2 ⟨cell, present, modified, rfl⟩, rfl⟩

theorem loadable_pendingRecords (sheet : Sheet) :
    Loadable (blank sheet.grid.rows sheet.grid.columns) sheet.pendingRecords where
  distinct := by
    rw [pendingRecords, List.map_map]
    exact Grid.nodup_select _ _
  inside pending member := by
    obtain ⟨cell, present, _⟩ := mem_pendingRecords.1 member
    have size : (blank sheet.grid.rows sheet.grid.columns).dimensions = sheet.dimensions := rfl
    exact (contains_congr size pending.cell).trans (contains_of_cell? present)

theorem Reached.prepared (reached : sheet.Reached) :
    ∀ pending ∈ sheet.pendingRecords, Prepared pending := by
  intro pending member
  obtain ⟨cell, present, _, same⟩ := mem_pendingRecords.1 member
  have column := (reached.fits (contains_of_cell? present)).2
  rw [same]
  exact ⟨Record.address_ofCell column cell, rfl⟩

/-- The records of a reached sheet are read back from its file. -/
theorem Reached.read_write (reached : sheet.Reached) :
    SheetFile.read (SheetFile.write (SheetFile.records sheet)) = .ok (SheetFile.records sheet) := by
  apply SheetFile.read_write
  intro record member
  rw [records_eq, List.mem_map] at member
  obtain ⟨pending, listed, rfl⟩ := member
  obtain ⟨cell, present, _, same⟩ := mem_pendingRecords.1 listed
  refine ⟨?_, pending.cell, (reached.prepared pending listed).1⟩
  rw [same]
  exact (reached.fits (contains_of_cell? present)).1

/-- The saved cells are those with a text or a color of their own. -/
theorem mem_modifiedCells {address : Address} {cell : Cell} :
    (address, cell) ∈ sheet.modifiedCells ↔
      sheet.cell? address = some cell ∧ (cell.text ≠ "" ∨ cell.color ≠ defaultColor) := by
  rw [modifiedCells, Grid.mem_select, cell?, Cell.isModified, Bool.or_eq_true, bne_iff_ne,
    Bool.not_eq_true', ← Bool.not_eq_true, String.isEmpty_iff]

/-- The saved cells come row by row, each once. -/
theorem pairwise_modifiedCells (sheet : Sheet) :
    sheet.modifiedCells.Pairwise fun before after => before.1.row < after.1.row ∨
      before.1.row = after.1.row ∧ before.1.column < after.1.column := by
  apply (Grid.pairwise_select sheet.grid _).imp_of_mem
  intro before after _ member lower
  have present := (mem_modifiedCells.1 member).1
  exact Grid.precedes_of_index_lt (contains_of_cell? present) lower

/-- From the file of a reached sheet the records of exactly the modified cells are read,
in their order and each with the address of its cell, whatever the texts and the values
are. -/
theorem modifiedCells_of_reached (reached : sheet.Reached) :
    SheetFile.read (SheetFile.write (SheetFile.records sheet)) =
        .ok (sheet.modifiedCells.map fun entry => Record.ofCell entry.1 entry.2) ∧
      (∀ address cell, (address, cell) ∈ sheet.modifiedCells ↔
        sheet.cell? address = some cell ∧ (cell.text ≠ "" ∨ cell.color ≠ defaultColor)) ∧
      (sheet.modifiedCells.Pairwise fun before after => before.1.row < after.1.row ∨
        before.1.row = after.1.row ∧ before.1.column < after.1.column) ∧
      ∀ entry ∈ sheet.modifiedCells, (Record.ofCell entry.1 entry.2).address = .ok entry.1 := by
  refine ⟨reached.read_write, fun _ _ => mem_modifiedCells, pairwise_modifiedCells sheet, ?_⟩
  rintro ⟨address, cell⟩ member
  have present := (mem_modifiedCells.1 member).1
  exact Record.address_ofCell (reached.fits (contains_of_cell? present)).2 cell

/-- A text with line breaks, quotes and a number sign comes back from the file. -/
theorem modifiedCells_of_unruly_text :
    ∃ sheet records,
      sheet = (blank 1 2).perform (.setText ⟨0, 1⟩ "# \"a\\\n\r\t ") ∧ Reached sheet ∧
      SheetFile.read (SheetFile.write (SheetFile.records sheet)) = .ok records ∧
      ∃ record ∈ records, record.address = .ok ⟨0, 1⟩ ∧ record.text = "# \"a\\\n\r\t " := by
  have start : (blank 1 2).Reached := reached_blank (by decide)
  have reached := start.performed (.setText ⟨0, 1⟩ "# \"a\\\n\r\t ")
  have saved := modifiedCells_of_reached reached
  refine ⟨_, _, rfl, reached, saved.1, ?_⟩
  have texts := start.text_setText ⟨0, 1⟩ rfl "# \"a\\\n\r\t " ⟨0, 1⟩
  rcases Option.map_eq_some_iff.1 (texts.trans (if_pos rfl)) with ⟨cell, present, text⟩
  have member := (saved.2.1 ⟨0, 1⟩ cell).2 ⟨present, .inl (by rw [text]; decide)⟩
  exact ⟨_, List.mem_map_of_mem member, saved.2.2.2 _ member, text⟩

/-! ## Stuck cells and cycles -/

/-- A cell that reads others has a text. -/
theorem isModified_of_reads {address other : Address} (reads : sheet.Reads address other) :
    ∃ cell, sheet.cell? address = some cell ∧ cell.isModified = true := by
  obtain ⟨cell, present⟩ := exists_cell?_of_contains (contains_of_reads reads)
  refine ⟨cell, present, ?_⟩
  rw [Reads, references_of_cell? present] at reads
  cases empty : cell.text.isEmpty with
  | false => rw [Cell.isModified, empty, Bool.not_false, Bool.true_or]
  | true =>
      rw [String.isEmpty_iff.1 empty] at reads
      exact absurd reads List.not_mem_nil

/-- Some cell is stuck in the records of a sheet exactly if some cell of it is on a
reference cycle. -/
theorem exists_stuck_iff :
    (∃ cell, Stuck sheet.pendingRecords cell) ↔ ∃ address, OnCycle sheet.Reads address := by
  constructor
  · rintro ⟨cell, cells, blocks, inside⟩
    by_contra alone
    rw [not_exists] at alone
    have descends := OnCycle.wellFounded sheet.Reads (finite_contains sheet)
      fun reader referenced named => contains_of_reads named
    obtain ⟨last, among, lowest⟩ := descends.has_min cells ⟨cell, inside⟩
    obtain ⟨pending, member, rfl, read, reads, apart, stays⟩ := blocks last among
    obtain ⟨content, present, _, same⟩ := mem_pendingRecords.1 member
    have names : sheet.Reads pending.cell read := by
      rw [same] at reads
      rw [Reads, references_of_cell? present]
      exact reads
    exact lowest read stays ⟨names, apart, alone pending.cell⟩
  · rintro ⟨address, circular⟩
    refine ⟨address, {cell | OnCycle sheet.Reads cell}, ?_, circular⟩
    intro cell onCycle
    obtain ⟨next, apart, reads, again⟩ := OnCycle.exists_next onCycle
    obtain ⟨content, present, modified⟩ := isModified_of_reads reads
    refine ⟨toPending (cell, content), mem_pendingRecords.2 ⟨content, present, modified, rfl⟩, rfl,
      next, ?_, apart, again⟩
    rw [Reads, references_of_cell? present] at reads
    exact reads

/-! ## The loaded sheet -/

/-- What a cell holds and shows: its text, its value, its color and its error. -/
def content? (sheet : Sheet) (address : Address) :
    Option (String × String × Color × Option CellError) :=
  (sheet.cell? address).map fun cell => (cell.text, cell.value, cell.color, cell.error)

/-- A cell that is not saved holds what a blank one does. -/
theorem entered_of_not_isModified {cell : Cell} (unmodified : ¬ cell.isModified = true) :
    (cell.text, cell.color) = ("", defaultColor) := by
  simpa [Cell.isModified] using unmodified

/-- When all records of a sheet are loaded, the same is entered as in that sheet. -/
theorem Filled.entered?_eq {after : Sheet}
    (filled : Filled (blank sheet.grid.rows sheet.grid.columns) sheet.pendingRecords after)
    (address : Address) :
    after.entered? address = sheet.entered? address := by
  have size : (blank sheet.grid.rows sheet.grid.columns).dimensions = sheet.dimensions := rfl
  have inside := contains_congr size address
  have absent : (∀ cell, sheet.cell? address = some cell → ¬ cell.isModified = true) →
      after.entered? address =
        if sheet.contains address then some ("", defaultColor) else none := by
    intro unsaved
    rw [filled.others address, entered?_blank, inside]
    rw [mem_cells_pendingRecords]
    rintro ⟨cell, present, modified⟩
    exact unsaved cell present modified
  cases present : sheet.cell? address with
  | none =>
      have outside : ¬ sheet.contains address = true := by
        intro contained
        obtain ⟨cell, found⟩ := exists_cell?_of_contains contained
        rw [present] at found
        cases found
      rw [absent (by simp [present]), if_neg outside, Sheet.entered?, present]
      rfl
  | some cell =>
      have here : sheet.entered? address = some (cell.text, cell.color) := by
        rw [Sheet.entered?, present]
        rfl
      rw [here]
      by_cases modified : cell.isModified = true
      · exact filled.loaded (toPending (address, cell))
          (mem_pendingRecords.2 ⟨cell, present, modified, rfl⟩)
      · rw [absent (by simpa [present] using modified), if_pos (contains_of_cell? present),
          entered_of_not_isModified modified]

theorem Consistent.content?_eq {after : Sheet} (consistent : sheet.Consistent)
    (afterConsistent : after.Consistent)
    (entered : ∀ address, after.entered? address = sheet.entered? address)
    (tracked : ∀ address cell body, sheet.cell? address = some cell →
      cell.formula? = some body → References.Tracked body) (address : Address) :
    after.content? address = sheet.content? address := by
  have texts : ∀ address,
      (sheet.cell? address).map Cell.text = (after.cell? address).map Cell.text := by
    intro address
    have same := congrArg (Option.map Prod.fst) (entered address)
    simpa only [entered?, Option.map_map, Function.comp_def, eq_comm] using same
  have alike := consistent.showsAlike afterConsistent texts tracked address
  have same := entered address
  rw [ShowsAlike] at alike
  unfold entered? at same
  unfold content?
  cases here : sheet.cell? address <;> cases there : after.cell? address <;>
    simp_all

/-- Sheets that hold and show the same have the same records. -/
theorem records_congr {first second : Sheet} (dimensions : first.dimensions = second.dimensions)
    (contents : ∀ address, first.content? address = second.content? address) :
    SheetFile.records first = SheetFile.records second := by
  obtain ⟨rows, columns⟩ := Prod.mk.inj dimensions
  apply Grid.map_select_congr rows columns
  intro address
  have same := contents address
  unfold content? cell? at same
  rcases none_or_some_of_map_eq same with
    ⟨outside, outside'⟩ | ⟨here, there, inFirst, inSecond, equal⟩
  · rw [Grid.pick?, Grid.pick?, outside, outside']
  · obtain ⟨text, value, color, error⟩ := by
      simpa only [Prod.mk.injEq] using equal
    have saved : here.isModified = there.isModified := by
      rw [Cell.isModified, Cell.isModified, text, color]
    have record : Record.ofCell address here = Record.ofCell address there := by
      rw [Record.ofCell, Record.ofCell, text, value, color]
    rw [Grid.pick?, Grid.pick?, inFirst, inSecond, Option.bind_some, Option.bind_some, saved]
    split
    · exact congrArg some record
    · rfl

/-! ## Saving and loading -/

/-- A reached sheet without reference cycles is reproduced by loading its file into any
sheet of the same dimensions, as formulas have the operators of arithmetic.  If it has a
reference cycle the load fails. -/
theorem reload_of_reached (reached : sheet.Reached)
    (operators : target.operators = OperatorTable.arithmetic)
    (dimensions : target.dimensions = sheet.dimensions)
    (tracked : ∀ address cell body, sheet.cell? address = some cell →
      cell.formula? = some body → References.Tracked body) :
    let content := SheetFile.write (SheetFile.records sheet)
    let outcome := target.loadText content
    ((∀ address, ¬ OnCycle sheet.Reads address) →
      outcome.result = .ok () ∧
      (∀ address, outcome.sheet.content? address = sheet.content? address) ∧
      outcome.sheet.history = History.empty ∧ outcome.sheet.modified = false ∧
      SheetFile.write (SheetFile.records outcome.sheet) = content) ∧
    ((∃ address, OnCycle sheet.Reads address) →
      ∃ cells, outcome.result = .error (.circularDependency cells)) := by
  obtain ⟨rows, columns⟩ := Prod.mk.inj dimensions
  have completed := loadRecords_completed operators
    (by rw [rows, columns]; exact loadable_pendingRecords sheet) reached.prepared
  rw [rows, columns, ← records_eq] at completed
  dsimp only
  rw [loadText, reached.read_write]
  dsimp only
  cases completed with
  | loaded succeeds free filled =>
      have entered := filled.entered?_eq
      have contents := reached.consistent.content?_eq filled.consistent entered tracked
      have size : (target.loadRecords (SheetFile.records sheet)).sheet.dimensions =
          sheet.dimensions := filled.untouched.dimensions
      refine ⟨fun _ =>
        ⟨succeeds, contents, filled.untouched.history, filled.untouched.modified, ?_⟩, ?_⟩
      · rw [records_congr size contents]
      · intro circular
        obtain ⟨cell, stuck⟩ := exists_stuck_iff.2 circular
        exact absurd stuck (free cell)
  | stalled left nonempty sublist mem_left fails =>
      refine ⟨fun alone => ?_, fun _ => ⟨_, fails⟩⟩
      obtain ⟨pending, member⟩ := List.exists_mem_of_ne_nil left nonempty
      have stuck := (mem_left pending.cell).1 (List.mem_map_of_mem member)
      obtain ⟨address, circular⟩ := exists_stuck_iff.1 ⟨_, stuck⟩
      exact absurd circular (alone address)

/-- A formula that reads a number is reproduced, and two formulas that read each other
are refused. -/
theorem reload_of_two_cells :
    ∃ sheet circular target,
      sheet = ((blank 1 2).perform (.setText ⟨0, 0⟩ "5")).perform (.setText ⟨0, 1⟩ "=A1*2") ∧
      circular = ((blank 1 2).perform (.setText ⟨0, 0⟩ "=B1")).perform (.setText ⟨0, 1⟩ "=A1") ∧
      target = blank 1 2 ∧
      (target.loadText (SheetFile.write (SheetFile.records sheet))).result = .ok () ∧
      (∀ address, (target.loadText (SheetFile.write (SheetFile.records sheet))).sheet.content?
        address = sheet.content? address) ∧
      ∃ cells, (target.loadText (SheetFile.write (SheetFile.records circular))).result =
        .error (.circularDependency cells) := by
  have start : (blank 1 2).Reached := reached_blank (by decide)
  have plain : TrackedText "5" := .of_apart (by decide +kernel)
  have product : TrackedText "=A1*2" := .of_apart (by decide +kernel)
  have there : TrackedText "=B1" := .of_apart (by decide +kernel)
  have back : TrackedText "=A1" := .of_apart (by decide +kernel)
  have edited : ∀ text text', Reached
      (((blank 1 2).perform (.setText ⟨0, 0⟩ text)).perform (.setText ⟨0, 1⟩ text')) :=
    fun text text' => (start.performed (.setText ⟨0, 0⟩ text)).performed (.setText ⟨0, 1⟩ text')
  have size : ∀ text text', (blank 1 2).dimensions =
      (((blank 1 2).perform (.setText ⟨0, 0⟩ text)).perform (.setText ⟨0, 1⟩ text')).dimensions :=
    fun text text' => (((start.performed (.setText ⟨0, 0⟩ text)).dimensions_perform _).trans
      (start.dimensions_perform _)).symm
  have apart : (⟨0, 0⟩ : Address) ≠ ⟨0, 1⟩ := by decide
  have numbered := start.twoTexts apart rfl rfl "5" "=A1*2"
  have crossed := start.twoTexts apart rfl rfl "=B1" "=A1"
  have alone := numbered.not_onCycle (by decide)
  have circular := crossed.onCycle_first apart (by decide +kernel) (by decide +kernel)
  have reloaded := (reload_of_reached (edited "5" "=A1*2") rfl (size "5" "=A1*2")
    (numbered.tracked plain product)).1 alone
  have refused := (reload_of_reached (edited "=B1" "=A1") rfl (size "=B1" "=A1")
    (crossed.tracked there back)).2 ⟨⟨0, 0⟩, circular⟩
  exact ⟨_, _, _, rfl, rfl, rfl, reloaded.1, reloaded.2.1, refused⟩

end Worksheet.Sheet
