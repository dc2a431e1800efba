import Worksheet.Proofs.Sheet.Passes
import Worksheet.Proofs.Sheet.Recalculating

/-!
# Loading records

Records with addresses of their own are loaded in an order in which none is loaded
before the records that it reads.  A cell is stuck if it belongs to cells each of
which reads another one of them.  The stuck cells are those that are never free.

The main statement says what becomes of a load: either no cell is stuck, and the
sheet holds exactly the texts and colors of the records, or the load fails and
reports the stuck cells in the order of their records.
-/

namespace Worksheet.Sheet

variable {sheet start : Sheet} {all : List PendingRecord} {pending : PendingRecord}

/-! ## Stuck cells -/

/-- Every one of the cells has a record that reads another one of them. -/
def Blocks (all : List PendingRecord) (cells : Set Address) : Prop :=
  ∀ cell ∈ cells, ∃ pending ∈ all, pending.cell = cell ∧
    ∃ read ∈ pending.references, read ≠ cell ∧ read ∈ cells

/-- The cell is one of cells that wait for each other. -/
def Stuck (all : List PendingRecord) (cell : Address) : Prop :=
  ∃ cells, Blocks all cells ∧ cell ∈ cells

/-- A stuck cell reads another one. -/
theorem Stuck.exists_read (agreeing : Agreeing all) (stuck : Stuck all pending.cell)
    (member : pending ∈ all) :
    ∃ read ∈ pending.references, read ≠ pending.cell ∧ Stuck all read := by
  obtain ⟨cells, blocks, inside⟩ := stuck
  obtain ⟨other, among, same, read, reads, apart, stays⟩ := blocks _ inside
  exact ⟨read, agreeing other among pending member same read reads, apart, cells, blocks, stays⟩

theorem Stuck.mem_cells {cell : Address} (stuck : Stuck all cell) :
    cell ∈ all.map PendingRecord.cell := by
  obtain ⟨cells, blocks, inside⟩ := stuck
  obtain ⟨pending, member, rfl, _⟩ := blocks cell inside
  exact List.mem_map_of_mem member

/-- The stuck cells are the recorded cells that are not free. -/
theorem stuck_iff (agreeing : Agreeing all) {cell : Address} :
    Stuck all cell ↔ cell ∈ all.map PendingRecord.cell ∧ ¬ Free all cell := by
  constructor
  · intro stuck
    refine ⟨stuck.mem_cells, ?_⟩
    intro free
    induction free with
    | intro member reads ih =>
        obtain ⟨read, named, apart, again⟩ := stuck.exists_read agreeing member
        exact ih read named apart again.mem_cells again
  · intro blocked
    refine ⟨{cell | cell ∈ all.map PendingRecord.cell ∧ ¬ Free all cell}, ?_, blocked⟩
    rintro other ⟨recorded, notFree⟩
    obtain ⟨pending, member, rfl⟩ := List.mem_map.1 recorded
    have notReady : ¬ Ready all pending := fun ready => notFree (Free.intro member ready)
    simp only [Ready, not_forall] at notReady
    obtain ⟨read, reads, apart, among, again⟩ := notReady
    exact ⟨pending, member, rfl, read, reads, apart, among, again⟩

/-! ## Whole loads -/

/-- Records for cells of a sheet, each for a cell of its own. -/
structure Loadable (start : Sheet) (all : List PendingRecord) : Prop where
  distinct : (all.map PendingRecord.cell).Nodup
  inside : ∀ pending ∈ all, start.contains pending.cell = true

/-- A sheet into which all records have been loaded. -/
structure Filled (start : Sheet) (all : List PendingRecord) (after : Sheet) : Prop where
  consistent : after.Consistent
  untouched : Untouched start after
  loaded : ∀ pending ∈ all,
    after.entered? pending.cell = some (pending.record.text, pending.record.color)
  others : ∀ cell, cell ∉ all.map PendingRecord.cell → after.entered? cell = start.entered? cell

/-- What becomes of a load.  Either no cell is stuck and all records are loaded, or
the records for the stuck cells are left over. -/
inductive Completed (start : Sheet) (all : List PendingRecord) : Outcome → Prop
  | loaded {outcome : Outcome} (succeeds : outcome.result = .ok ())
      (free : ∀ cell, ¬ Stuck all cell)
      (filled : Filled start all outcome.sheet) : Completed start all outcome
  | stalled {outcome : Outcome} (left : List PendingRecord) (nonempty : left ≠ [])
      (sublist : left.Sublist all)
      (mem_left : ∀ cell, cell ∈ left.map PendingRecord.cell ↔ Stuck all cell)
      (fails : outcome.result = .error (.circularDependency (left.map PendingRecord.cell))) :
      Completed start all outcome

/-- If all records are for different cells, each of them is the one that is loaded for
its cell. -/
theorem Entered.filled {after : Sheet} (entered : Entered start all (fun _ => False) after)
    (distinct : (all.map PendingRecord.cell).Nodup) (consistent : after.Consistent) :
    Filled start all after where
  consistent := consistent
  untouched := entered.untouched
  loaded pending member := by
    obtain ⟨other, among, same, found⟩ :=
      entered.loaded pending.cell (List.mem_map_of_mem member) not_false
    obtain rfl := List.inj_on_of_nodup_map distinct among member same
    exact found
  others := entered.others

/-- The records for the stuck cells are those that are not ready. -/
theorem mem_unready_cells_iff (agreeing : Agreeing all) {cell : Address} :
    cell ∈ (unready all all).map PendingRecord.cell ↔ Stuck all cell := by
  rw [stuck_iff agreeing, List.mem_map]
  constructor
  · rintro ⟨pending, left, rfl⟩
    obtain ⟨member, notReady⟩ := mem_unready.1 left
    rw [ready_iff_free agreeing member] at notReady
    exact ⟨List.mem_map_of_mem member, notReady⟩
  · rintro ⟨recorded, notFree⟩
    obtain ⟨pending, member, rfl⟩ := List.mem_map.1 recorded
    rw [← ready_iff_free agreeing member] at notFree
    exact ⟨pending, mem_unready.2 ⟨member, notFree⟩, rfl⟩

theorem fresh_eq_blank (operators : sheet.operators = OperatorTable.arithmetic) :
    sheet.fresh = blank sheet.grid.rows sheet.grid.columns := by
  rw [fresh, operators]
  rfl

/-- A sheet that has been loaded is consistent, whatever the records are. -/
theorem consistent_of_loaded (operators : sheet.operators = OperatorTable.arithmetic)
    {records : List Record} (succeeds : (sheet.loadRecords records).result = .ok ()) :
    (sheet.loadRecords records).sheet.Consistent := by
  have filled := keptBySteps_consistent.fill records
    (consistent_blank sheet.grid.rows sheet.grid.columns)
  rw [loadRecords_sheet_of_ok succeeds, fresh_eq_blank operators]
  exact filled.congr rfl rfl rfl fun _ => rfl

/-- The records of a load fill a blank sheet, or the load fails because some cells are
stuck. -/
theorem loadRecords_completed (operators : sheet.operators = OperatorTable.arithmetic)
    (loadable : Loadable (blank sheet.grid.rows sheet.grid.columns) all)
    (prepared : ∀ pending ∈ all, Prepared pending) :
    Completed (blank sheet.grid.rows sheet.grid.columns) all
      (sheet.loadRecords (all.map PendingRecord.record)) := by
  have agreeing := agreeing_of_nodup loadable.distinct
  have ready : sheet.fresh.prepare 1 (all.map PendingRecord.record) = .ok all :=
    @prepare_of_prepared sheet.fresh all prepared loadable.inside 1
  have concluded := loadRecords_concluded ready
  rw [fresh_eq_blank operators] at concluded
  cases concluded with
  | loaded succeeds ready entered =>
      have consistent := consistent_of_loaded operators succeeds
      refine .loaded succeeds ?_ (entered.filled loadable.distinct consistent)
      intro cell stuck
      obtain ⟨recorded, notFree⟩ := (stuck_iff agreeing).1 stuck
      obtain ⟨pending, member, rfl⟩ := List.mem_map.1 recorded
      exact notFree (Free.intro member (ready pending member))
  | stalled blocked fails =>
      exact .stalled (unready all all) blocked (unready_sublist all all)
        (fun cell => mem_unready_cells_iff agreeing) fails

end Worksheet.Sheet
