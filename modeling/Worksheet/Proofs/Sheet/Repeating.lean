import Worksheet.Proofs.Sheet.Awaiting
import Worksheet.Proofs.Sheet.Determined
import Worksheet.Proofs.Sheet.Loading

/-!
# Several records for one cell

A cell that has several records is released by the first one that is loaded, and the
records that are loaded later replace its text.  So a cell that reads it may be loaded
in between, and the later text may read that cell in turn.  Such a load succeeds and
leaves a reference cycle.

This is the only way.  Every cycle of a loaded sheet has a step from a cell to one that
not all records for the first cell read.  If the records for each cell agree about what
they read, a load succeeds exactly if there is no cycle among the records, and no cell
of the loaded sheet is on a cycle.
-/

namespace Worksheet.Sheet

open Relation

variable {sheet start after : Sheet} {all : List PendingRecord} {records : List Record}

/-! ## What the cells of a loaded sheet read -/

/-- One record for a cell reads another cell, and one does not. -/
def Disagree (records : List Record) (reader read : Address) : Prop :=
  (∃ record ∈ records, record.address = .ok reader ∧
      read ∈ Cell.referencesOf record.text) ∧
    ∃ other ∈ records, other.address = .ok reader ∧ read ∉ Cell.referencesOf other.text

/-- Prepared records agree exactly if no two of the records disagree. -/
theorem agreeing_iff_not_disagree (prepared : ∀ pending ∈ all, Prepared pending) :
    Agreeing all ↔ ∀ reader read, ¬ Disagree (all.map PendingRecord.record) reader read := by
  constructor
  · rintro agreeing reader read ⟨⟨record, listed, address, reads⟩, other, listedToo, addressToo,
      omits⟩
    rcases List.mem_map.1 listed with ⟨first, among, rfl⟩
    rcases List.mem_map.1 listedToo with ⟨second, amongToo, rfl⟩
    rw [(prepared first among).1] at address
    rw [(prepared second amongToo).1, ← address] at addressToo
    rw [← (prepared first among).2] at reads
    rw [← (prepared second amongToo).2] at omits
    exact omits (agreeing first among second amongToo (Except.ok.inj addressToo).symm read reads)
  · intro agree first among second amongToo same read reads
    rcases prepared first among with ⟨address, references⟩
    rcases prepared second amongToo with ⟨addressToo, referencesToo⟩
    rw [references] at reads
    rw [referencesToo]
    by_contra omits
    apply agree first.cell read
    constructor
    · exact ⟨first.record, List.mem_map_of_mem among, address, reads⟩
    · rw [same]
      exact ⟨second.record, List.mem_map_of_mem amongToo, addressToo, omits⟩

/-- What a cell reads is decided by its text. -/
theorem reads_iff_of_entered {reader read : Address} {text : String} {color : Color}
    (entered : sheet.entered? reader = some (text, color)) :
    sheet.Reads reader read ↔ read ∈ Cell.referencesOf text := by
  rcases Option.map_eq_some_iff.1 entered with ⟨cell, present, same⟩
  cases same
  rw [Reads, references_of_cell? present]

/-- What a cell of a loaded sheet reads is read by one of its records. -/
theorem Entered.exists_record (entered : Entered sheet.fresh all (fun _ => False) after)
    (prepared : ∀ pending ∈ all, Prepared pending) {reader read : Address}
    (reads : after.Reads reader read) :
    reader ∈ all.map PendingRecord.cell ∧
      ∃ record ∈ all.map PendingRecord.record, record.address = .ok reader ∧
        read ∈ Cell.referencesOf record.text := by
  by_cases recorded : reader ∈ all.map PendingRecord.cell
  · apply And.intro recorded
    rcases entered.loaded reader recorded not_false with ⟨pending, member, same, found⟩
    have address := (prepared pending member).1
    rw [same] at address
    exact ⟨pending.record, List.mem_map_of_mem member, address,
      (reads_iff_of_entered found).1 reads⟩
  · -- A cell without a record is blank, so it reads nothing.
    have found := entered.others reader recorded
    rw [show sheet.fresh.entered? reader = _ from entered?_blank _ _ reader] at found
    split at found
    · exact absurd ((reads_iff_of_entered found).1 reads) List.not_mem_nil
    · rcases exists_cell?_of_contains (contains_of_reads reads) with ⟨cell, present⟩
      rw [entered?_of_cell? present] at found
      cases found

/-! ## Cycles of a loaded sheet -/

/-- A cycle through a free cell of a loaded sheet has a step about which the records
disagree.  The free cells that the first record of the cell reads are on the cycle or
not; if none of them comes next, another record for the cell has brought the step in. -/
theorem exists_disagree_of_onCycle (prepared : ∀ pending ∈ all, Prepared pending)
    (entered : Entered sheet.fresh all (fun _ => False) after) {cell : Address}
    (free : Free all cell) (circular : OnCycle after.Reads cell) :
    ∃ reader read, ReflTransGen after.Reads cell reader ∧ after.Reads reader read ∧
      ReflTransGen after.Reads read cell ∧
      Disagree (all.map PendingRecord.record) reader read := by
  induction free with
  | @intro pending member reads ih =>
      rcases circular.exists_step with ⟨next, apart, step, back⟩
      by_cases named : next ∈ pending.references
      · have onward : OnCycle after.Reads next :=
          OnCycle.iff_mutual.2 ⟨pending.cell, apart.symm, back, ReflTransGen.single step⟩
        rcases onward.exists_step with ⟨_, _, further, _⟩
        have recorded := (entered.exists_record prepared further).1
        rcases ih next named apart recorded onward with ⟨reader, read, there, last, home, differ⟩
        exact ⟨reader, read, ReflTransGen.head step there, last, home.trans back, differ⟩
      · rcases (entered.exists_record prepared step).2 with ⟨record, listed, address, reads⟩
        rw [(prepared pending member).2] at named
        exact ⟨pending.cell, next, ReflTransGen.refl, step, back,
          ⟨record, listed, address, reads⟩, pending.record, List.mem_map_of_mem member,
          (prepared pending member).1, named⟩

/-- After a load that has succeeded, every cycle has a step about which the records
disagree. -/
theorem exists_disagree_of_loaded (succeeds : (sheet.loadRecords records).result = .ok ())
    {cell : Address} (circular : OnCycle (sheet.loadRecords records).sheet.Reads cell) :
    ∃ reader read, ReflTransGen (sheet.loadRecords records).sheet.Reads cell reader ∧
      (sheet.loadRecords records).sheet.Reads reader read ∧
      ReflTransGen (sheet.loadRecords records).sheet.Reads read cell ∧
      Disagree records reader read := by
  rcases exists_prepared_of_loaded succeeds with ⟨all, prepare⟩
  rcases prepared_of_prepare prepare with ⟨rfl, prepared, _⟩
  cases loadRecords_concluded prepare with
  | loaded _ ready entered =>
      rcases circular.exists_step with ⟨next, _, step, _⟩
      rcases List.mem_map.1 (entered.exists_record prepared step).1 with ⟨pending, member, rfl⟩
      have free := Free.intro member (ready pending member)
      exact exists_disagree_of_onCycle prepared entered free circular
  | stalled _ fails =>
      rw [fails] at succeeds
      cases succeeds

/-- A cell that is marked as circular is on a cycle. -/
theorem Consistent.onCycle_of_error (consistent : sheet.Consistent) {address : Address}
    {cell : Cell} (inside : sheet.cell? address = some cell)
    (marked : cell.error = some .circularReference) : OnCycle sheet.Reads address := by
  cases formula : cell.formula? with
  | none =>
      rw [(consistent.shows_text inside formula).2] at marked
      cases marked
  | some body =>
      by_contra alone
      by_cases reads : address ∈ References.inText body
      · rw [(consistent.shows_selfReference inside formula reads).2] at marked
        cases marked
      · rcases consistent.error_of_alone inside formula reads alone with none | fault
        · rw [none] at marked
          cases marked
        · rw [fault] at marked
          cases marked

/-- A load that succeeds leaves a cycle only where records for one cell disagree about
what they read.  If none do, it leaves no cycle, and no cell that is marked as circular
as formulas have the operators of arithmetic; and records for cells of the sheet are
refused exactly if some of them await each other in a cycle. -/
theorem loaded_without_cycle (sheet : Sheet) (records : List Record) :
    let outcome := sheet.loadRecords records
    (outcome.result = .ok () → ∀ cell, OnCycle outcome.sheet.Reads cell →
      ∃ reader read, ReflTransGen outcome.sheet.Reads cell reader ∧
        outcome.sheet.Reads reader read ∧ ReflTransGen outcome.sheet.Reads read cell ∧
        Disagree records reader read) ∧
    ((∀ reader read, ¬ Disagree records reader read) →
      (outcome.result = .ok () →
        (∀ cell, ¬ OnCycle outcome.sheet.Reads cell) ∧
        (sheet.operators = OperatorTable.arithmetic → ∀ address cell,
          outcome.sheet.cell? address = some cell → cell.error ≠ some .circularReference)) ∧
      ((∀ record ∈ records, ∃ cell, record.address = .ok cell ∧ sheet.contains cell = true) →
        (outcome.result = .ok () ↔ ∀ cell, ¬ OnCycle (Awaits records) cell) ∧
        ((∃ cell, OnCycle (Awaits records) cell) → ∃ cells,
          outcome.result = .error (.circularDependency cells)))) := by
  apply And.intro
  · exact fun succeeds cell => exists_disagree_of_loaded succeeds
  · intro agree
    constructor
    · intro succeeds
      have alone : ∀ cell, ¬ OnCycle (sheet.loadRecords records).sheet.Reads cell := by
        intro cell circular
        rcases exists_disagree_of_loaded succeeds circular with ⟨reader, read, _, _, _, differ⟩
        exact agree reader read differ
      apply And.intro alone
      intro operators address cell present marked
      have consistent := consistent_of_loaded operators succeeds
      exact alone address (consistent.onCycle_of_error present marked)
    · intro valid
      rcases @exists_prepared sheet.fresh records 1 valid with ⟨all, prepare⟩
      rcases prepared_of_prepare prepare with ⟨rfl, prepared, _⟩
      have agreeing := (agreeing_iff_not_disagree prepared).2 agree
      have succeeds_iff := loadRecords_eq_ok_iff prepare agreeing
      apply And.intro succeeds_iff
      rintro ⟨cell, circular⟩
      have fails : (sheet.loadRecords (all.map PendingRecord.record)).result ≠ .ok () := by
        rw [Ne, succeeds_iff]
        intro alone
        exact alone cell circular
      exact ⟨_, loadRecords_fault prepare fails⟩

/-- If the texts for a cell differ only in what they do with the same references, the
load is refused exactly because of a cycle. -/
theorem loaded_without_cycle_of_two_texts :
    ∃ chain cycle : List Record,
      chain = [⟨1, "A", "=B1", "", defaultColor⟩, ⟨1, "B", "5", "", defaultColor⟩,
        ⟨1, "B", "7", "", defaultColor⟩] ∧
      cycle = [⟨1, "A", "=B1", "", defaultColor⟩, ⟨1, "B", "=A1", "", defaultColor⟩,
        ⟨1, "B", "=A1+1", "", defaultColor⟩] ∧
      (((blank 1 2).loadRecords chain).result = .ok () ∧
        (∀ cell, ¬ OnCycle ((blank 1 2).loadRecords chain).sheet.Reads cell) ∧
        ∀ address cell, ((blank 1 2).loadRecords chain).sheet.cell? address = some cell →
          cell.error ≠ some .circularReference) ∧
      ∃ cells, ((blank 1 2).loadRecords cycle).result = .error (.circularDependency cells) := by
  refine ⟨_, _, rfl, rfl, ?_⟩
  constructor
  · have prepared := @prepared_of_address?
      [⟨⟨0, 0⟩, ⟨1, "A", "=B1", "", defaultColor⟩, [⟨0, 1⟩]⟩,
        ⟨⟨0, 1⟩, ⟨1, "B", "5", "", defaultColor⟩, []⟩,
        ⟨⟨0, 1⟩, ⟨1, "B", "7", "", defaultColor⟩, []⟩] (by decide +kernel)
    have valid := @valid_of_prepared (blank 1 2) _ prepared (by decide)
    have loaded := (loaded_without_cycle (blank 1 2) _).2
      ((agreeing_iff_not_disagree prepared).1 (by decide))
    have alone := not_onCycle_of_descends prepared (by decide) (fun cell => 1 - cell.column)
      (by decide)
    have succeeds := (loaded.2 valid).1.2 alone
    exact ⟨succeeds, (loaded.1 succeeds).1, (loaded.1 succeeds).2 rfl⟩
  · have prepared := @prepared_of_address?
      [⟨⟨0, 0⟩, ⟨1, "A", "=B1", "", defaultColor⟩, [⟨0, 1⟩]⟩,
        ⟨⟨0, 1⟩, ⟨1, "B", "=A1", "", defaultColor⟩, [⟨0, 0⟩]⟩,
        ⟨⟨0, 1⟩, ⟨1, "B", "=A1+1", "", defaultColor⟩, [⟨0, 0⟩]⟩] (by decide +kernel)
    have valid := @valid_of_prepared (blank 1 2) _ prepared (by decide)
    have loaded := (loaded_without_cycle (blank 1 2) _).2
      ((agreeing_iff_not_disagree prepared).1 (by decide))
    have awaits := fun pending member awaited =>
      (@awaits_iff _ pending prepared (by decide) member awaited).2
    have there := awaits _ (List.mem_cons_self ..) ⟨0, 1⟩ (by decide)
    have back := awaits _ (List.mem_of_getElem? (i := 1) rfl) ⟨0, 0⟩ (by decide)
    apply (loaded.2 valid).2
    exact ⟨⟨0, 0⟩, OnCycle.iff_mutual.2
      ⟨⟨0, 1⟩, by decide, ReflTransGen.single there, ReflTransGen.single back⟩⟩

/-! ## A cell that is released too early -/

section Released

variable {reader first second : PendingRecord}

/-- A cell that reads another one is left for the second pass.  By then the other cell
has been released, although another record for it waits as well. -/
theorem loadPasses_of_released (sheet : Sheet) (apart : reader.cell ≠ first.cell)
    (same : second.cell = first.cell) (waits : reader.references = [first.cell])
    (plain : first.references = []) (back : second.references = [reader.cell]) :
    ∃ log, sheet.loadPasses
        (Std.HashSet.ofList ([reader, first, second].map PendingRecord.cell)) #[] 1
        [reader, first, second] =
      ⟨(((sheet.loadRecord first).1.loadRecord reader).1.loadRecord second).1, .ok (), log⟩ := by
  have apart' := apart.symm
  have firstPass : ∃ log, sheet.loadPasses
        (Std.HashSet.ofList ([reader, first, second].map PendingRecord.cell)) #[] 1
        [reader, first, second] =
      (sheet.loadRecord first).1.loadPasses
        ((Std.HashSet.ofList ([reader, first, second].map PendingRecord.cell)).erase first.cell)
        log 2 [reader, second] := by
    apply Exists.intro ((sheet.loadRecord first).2.push (.loadPass 1 1 2))
    rw [loadPasses]
    simp [LoadPass.run, LoadPass.step, PendingRecord.isBlocked, same, waits, plain, back, apart,
      apart']
  have secondPass : ∀ log, ∃ log', (sheet.loadRecord first).1.loadPasses
        ((Std.HashSet.ofList ([reader, first, second].map PendingRecord.cell)).erase first.cell)
        log 2 [reader, second] =
      ⟨(((sheet.loadRecord first).1.loadRecord reader).1.loadRecord second).1, .ok (), log'⟩ := by
    intro log
    rw [loadPasses]
    simp [LoadPass.run, LoadPass.step, PendingRecord.isBlocked, same, waits, back, apart, apart',
      loadPasses]
  rcases firstPass with ⟨log, passed⟩
  rw [passed]
  exact secondPass log

/-- So the load succeeds, and the text of the later record closes a cycle. -/
theorem loadRecords_of_released
    (prepared : ∀ pending ∈ [reader, first, second], Prepared pending)
    (inside : ∀ pending ∈ [reader, first, second], sheet.contains pending.cell = true)
    (apart : reader.cell ≠ first.cell) (same : second.cell = first.cell)
    (waits : reader.references = [first.cell]) (plain : first.references = [])
    (back : second.references = [reader.cell]) :
    let outcome := sheet.loadRecords ([reader, first, second].map PendingRecord.record)
    outcome.result = .ok () ∧ OnCycle outcome.sheet.Reads reader.cell ∧
      outcome.sheet.entered? reader.cell = some (reader.record.text, reader.record.color) := by
  rcases loadPasses_of_released sheet.fresh apart same waits plain back with ⟨log, passes⟩
  have filled : sheet.fresh.fill ([reader, first, second].map PendingRecord.record) =
      sheet.fresh.loadPasses
        (Std.HashSet.ofList ([reader, first, second].map PendingRecord.cell)) #[] 1
        [reader, first, second] := by
    rw [fill, @prepare_of_prepared sheet.fresh _ prepared inside 1]
  rw [passes] at filled
  have succeeds := loadRecords_result sheet ([reader, first, second].map PendingRecord.record)
  rw [filled] at succeeds
  have after := congrArg entered? (loadRecords_sheet_of_ok succeeds)
  rw [entered?_replaceBy, filled] at after
  dsimp only at after
  rw [entered?_loadRecord, entered?_loadRecord, entered?_loadRecord] at after
  have blankEntry : ∀ pending ∈ [reader, first, second],
      sheet.fresh.entered? pending.cell = some ("", defaultColor) :=
    fun pending member => (entered?_blank _ _ _).trans (if_pos (inside pending member))
  have entered : (sheet.loadRecords ([reader, first, second].map
      PendingRecord.record)).sheet.entered? reader.cell =
        some (reader.record.text, reader.record.color) := by
    rw [after, same, Snapshot.change_of_ne apart, Snapshot.change_self, Snapshot.change_of_ne apart,
      blankEntry reader (by simp)]
    rfl
  have enteredToo : (sheet.loadRecords ([reader, first, second].map
      PendingRecord.record)).sheet.entered? first.cell =
        some (second.record.text, second.record.color) := by
    rw [after, same, Snapshot.change_self, Snapshot.change_of_ne apart.symm, Snapshot.change_self,
      blankEntry first (by simp)]
    rfl
  have there := (@reads_iff_of_entered _ _ first.cell _ _ entered).2 (by
    rw [← (prepared reader (by simp)).2, waits]
    exact List.mem_singleton_self _)
  have home := (@reads_iff_of_entered _ _ reader.cell _ _ enteredToo).2 (by
    rw [← (prepared second (by simp)).2, back]
    exact List.mem_singleton_self _)
  exact ⟨succeeds, OnCycle.iff_mutual.2 ⟨first.cell, apart.symm, ReflTransGen.single there,
    ReflTransGen.single home⟩, entered⟩

end Released

/-- If only the second text for a cell reads the cell that reads it, both are loaded and
show that they are on a cycle. -/
theorem loads_cycle_of_repeated_cell :
    ∃ records : List Record,
      records = [⟨1, "A", "=B1", "", defaultColor⟩, ⟨1, "B", "5", "", defaultColor⟩,
        ⟨1, "B", "=A1", "", defaultColor⟩] ∧
      ((blank 1 2).loadRecords records).result = .ok () ∧
      OnCycle ((blank 1 2).loadRecords records).sheet.Reads ⟨0, 0⟩ ∧
      ∃ cell, ((blank 1 2).loadRecords records).sheet.cell? ⟨0, 0⟩ = some cell ∧
        cell.value = "#CYCLE!" := by
  refine ⟨_, rfl, ?_⟩
  have prepared := @prepared_of_address?
    [⟨⟨0, 0⟩, ⟨1, "A", "=B1", "", defaultColor⟩, [⟨0, 1⟩]⟩,
      ⟨⟨0, 1⟩, ⟨1, "B", "5", "", defaultColor⟩, []⟩,
      ⟨⟨0, 1⟩, ⟨1, "B", "=A1", "", defaultColor⟩, [⟨0, 0⟩]⟩] (by decide +kernel)
  have loaded := @loadRecords_of_released (blank 1 2) _ _ _ prepared (by decide) (by decide)
    rfl rfl rfl rfl
  rcases Option.map_eq_some_iff.1 loaded.2.2 with ⟨cell, present, entered⟩
  have text : cell.text = "=B1" := (Prod.mk.inj entered).1
  have consistent := @consistent_of_loaded (blank 1 2) rfl _ loaded.1
  have formula : cell.formula? = some "B1".toList := by
    rw [Cell.formula?, text]
    rfl
  exact ⟨loaded.1, loaded.2.1, cell, present,
    (consistent.shows_circularReference present formula (by decide +kernel) loaded.2.1).1⟩

end Worksheet.Sheet
