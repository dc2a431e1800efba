import Worksheet.Proofs.Dependency.Revisiting
import Worksheet.Proofs.Relation.Cycle
import Worksheet.Sheet.Loading

/-!
# The report of a stalled load

If all records that are left are blocked by cells that have records left, then each of
these cells waits for another one of them, and a cycle of cells that wait for each other is
reported.
-/

namespace Worksheet.Sheet

variable {waiting : Std.HashSet Address} {left : List PendingRecord} {pending : PendingRecord}

theorem isBlocked_iff :
    PendingRecord.isBlocked pending waiting = true ↔
      ∃ read ∈ pending.references, read ≠ pending.cell ∧ waiting.contains read = true := by
  simp [PendingRecord.isBlocked]

theorem mem_blockers {cell : Address} :
    cell ∈ PendingRecord.blockers pending waiting ↔
      cell ∈ pending.references ∧ cell ≠ pending.cell ∧ waiting.contains cell = true := by
  simp [PendingRecord.blockers]

/-- A record for one cell reads another cell, which has a record too. -/
def WaitsFor (records : List PendingRecord) (reader awaited : Address) : Prop :=
  ∃ pending ∈ records, pending.cell = reader ∧ awaited ∈ pending.references ∧
    awaited ≠ reader ∧ awaited ∈ records.map PendingRecord.cell

theorem WaitsFor.mono {some all : List PendingRecord} (among : ∀ pending ∈ some, pending ∈ all)
    {reader awaited : Address} (waits : WaitsFor some reader awaited) :
    WaitsFor all reader awaited := by
  rcases waits with ⟨pending, member, same, reads, apart, recorded⟩
  rcases List.mem_map.1 recorded with ⟨other, otherMem, rfl⟩
  exact ⟨pending, among pending member, same, reads, apart,
    List.mem_map_of_mem (among other otherMem)⟩

/-- A log reports a path of related cells through different ones back to its start. -/
def ReportsCycle (related : Address → Address → Prop) (log : Array LogEvent) : Prop :=
  ∃ start others, LogEvent.stalled (start :: (others ++ [start])) ∈ log ∧
    others ≠ [] ∧ (start :: others).Nodup ∧
    List.IsChain related (start :: (others ++ [start]))

theorem ReportsCycle.mono {weaker stronger : Address → Address → Prop}
    (imp : ∀ a b, stronger a b → weaker a b) {log : Array LogEvent}
    (reports : ReportsCycle stronger log) : ReportsCycle weaker log := by
  rcases reports with ⟨start, others, logged, some, distinct, chain⟩
  exact ⟨start, others, logged, some, distinct, chain.imp fun {a b} => imp a b⟩

theorem ReportsCycle.append_left {related : Address → Address → Prop} {log : Array LogEvent}
    (reports : ReportsCycle related log) (before : Array LogEvent) :
    ReportsCycle related (before ++ log) := by
  rcases reports with ⟨start, others, logged, cycle⟩
  exact ⟨start, others, Array.mem_append_right before logged, cycle⟩

/-! ## The table of blockers -/

/-- The cells of the table are those of the records. -/
theorem mem_blockersOf {cell : Address} :
    cell ∈ blockersOf waiting left ↔ cell ∈ left.map PendingRecord.cell := by
  have general : ∀ blockers : Std.HashMap Address (List Address),
      cell ∈ left.foldl (fun blockers pending =>
        blockers.insert pending.cell (PendingRecord.blockers pending waiting)) blockers ↔
      cell ∈ blockers ∨ cell ∈ left.map PendingRecord.cell := by
    induction left with
    | nil => simp
    | cons pending left ih =>
        intro blockers
        rw [List.foldl_cons, ih, Std.HashMap.mem_insert, beq_iff_eq, List.map_cons, List.mem_cons,
          or_assoc, or_left_comm, eq_comm]
  simpa [blockersOf] using general ∅

/-- What the table says about a cell is what one of its records waits for. -/
theorem exists_of_blockersOf {cell : Address} {blockers : List Address}
    (found : (blockersOf waiting left)[cell]? = some blockers) :
    ∃ pending ∈ left, pending.cell = cell ∧
      blockers = PendingRecord.blockers pending waiting := by
  have general : ∀ before : Std.HashMap Address (List Address),
      (left.foldl (fun blockers pending =>
        blockers.insert pending.cell (PendingRecord.blockers pending waiting)) before)[cell]? =
          some blockers →
      before[cell]? = some blockers ∨ ∃ pending ∈ left, pending.cell = cell ∧
        blockers = PendingRecord.blockers pending waiting := by
    clear found
    induction left with
    | nil => exact fun before found => Or.inl found
    | cons pending left ih =>
        intro before found
        rcases ih _ found with inserted | ⟨other, member, same⟩
        · rw [Std.HashMap.getElem?_insert] at inserted
          split at inserted
          · next same =>
              cases inserted
              exact Or.inr ⟨pending, List.mem_cons_self, eq_of_beq same, rfl⟩
          · exact Or.inl inserted
        · exact Or.inr ⟨other, List.mem_cons_of_mem _ member, same⟩
  rcases general ∅ found with nothing | some
  · rw [Std.HashMap.getElem?_empty] at nothing
    cases nothing
  · exact some

/-- If all records are blocked by cells that have records, the table has no end. -/
theorem endless_blockersOf
    (blocked : ∀ pending ∈ left, PendingRecord.isBlocked pending waiting = true)
    (recorded : ∀ cell, waiting.contains cell = true → cell ∈ left.map PendingRecord.cell) :
    Cycle.Endless (blockersOf waiting left) := by
  intro cell inside
  have found := Std.HashMap.getElem?_eq_some_getElem inside
  rcases exists_of_blockersOf found with ⟨pending, member, -, same⟩
  rw [found, same]
  rcases isBlocked_iff.1 (blocked pending member) with ⟨read, named, apart, waits⟩
  have some := mem_blockers.2 ⟨named, apart, waits⟩
  cases blockers : PendingRecord.blockers pending waiting with
  | nil =>
      rw [blockers] at some
      exact absurd some List.not_mem_nil
  | cons first others =>
      have firstBlocks := List.mem_cons_self (a := first) (l := others)
      rw [← blockers] at firstBlocks
      refine ⟨first, others, rfl, ?_⟩
      rw [mem_blockersOf]
      exact recorded first (mem_blockers.1 firstBlocks).2.2

/-- One cell waits for another one that blocks a record of it. -/
theorem waitsFor_of_names
    (recorded : ∀ cell, waiting.contains cell = true → cell ∈ left.map PendingRecord.cell)
    {reader awaited : Address}
    (names : Cycle.Names (Cycle.listed (blockersOf waiting left)) reader awaited) :
    WaitsFor left reader awaited := by
  rw [Cycle.Names, Cycle.listed, Std.HashMap.getD_eq_getD_getElem?] at names
  cases found : (blockersOf waiting left)[reader]? with
  | none => simp [found] at names
  | some blockers =>
      rcases exists_of_blockersOf found with ⟨pending, member, rfl, same⟩
      rw [found, Option.getD_some, same, mem_blockers] at names
      rcases names with ⟨reads, apart, waits⟩
      exact ⟨pending, member, rfl, reads, apart, recorded awaited waits⟩

/-- The records that are left over are reported as a cycle. -/
theorem reportsCycle_stallEvents (some : left ≠ [])
    (blocked : ∀ pending ∈ left, PendingRecord.isBlocked pending waiting = true)
    (recorded : ∀ cell, waiting.contains cell = true → cell ∈ left.map PendingRecord.cell) :
    ReportsCycle (WaitsFor left) (stallEvents waiting left) := by
  cases left with
  | nil => exact absurd rfl some
  | cons first others =>
      have inside : first.cell ∈ blockersOf waiting (first :: others) :=
        mem_blockersOf.2 List.mem_cons_self
      rcases Cycle.exists_from? (endless_blockersOf blocked recorded) inside with
        ⟨start, path, found, inner, rfl, chain, distinct, apart⟩
      have waits := chain.imp fun {_ _} names => waitsFor_of_names recorded names
      refine ⟨start, inner, ?_, ?_, List.nodup_cons.2 ⟨apart, distinct⟩, waits⟩
      · rw [stallEvents, found]
        exact Array.mem_singleton.2 rfl
      · rintro rfl
        rcases (List.isChain_cons_cons.1 waits).1 with ⟨_, _, _, _, loop, _⟩
        exact loop rfl

end Worksheet.Sheet
