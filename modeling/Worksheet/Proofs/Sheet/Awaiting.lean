import Worksheet.Proofs.Relation.Cycle
import Worksheet.Proofs.Sheet.Passes

/-!
# Records that wait for each other

A recorded cell awaits another one if one of its records reads it.  Among records that
agree about what a cell reads, the cells that are not free are those from which a cycle
of cells that await each other can be reached.  So a load succeeds exactly if there is
no such cycle, and otherwise it reports the cells that lead to one.

This says nothing about the order of the records.  If they are for different cells, any
permutation of them is loaded with the same outcome.
-/

namespace Worksheet.Sheet

open Relation

variable {sheet start : Sheet} {all : List PendingRecord} {pending : PendingRecord}
  {records : List Record}

/-! ## Awaited cells -/

/-- A record for one cell reads another cell, which has a record too. -/
def Awaits (records : List Record) (reader awaited : Address) : Prop :=
  awaited ≠ reader ∧
    (∃ record ∈ records, record.address = .ok reader ∧
      awaited ∈ Cell.referencesOf record.text) ∧
    ∃ other ∈ records, other.address = .ok awaited

/-- A cell has a record exactly if a record is prepared for it. -/
theorem exists_address_iff (prepared : ∀ pending ∈ all, Prepared pending) {cell : Address} :
    (∃ record ∈ all.map PendingRecord.record, record.address = .ok cell) ↔
      cell ∈ all.map PendingRecord.cell := by
  simp only [List.mem_map, exists_exists_and_eq_and]
  constructor
  · rintro ⟨pending, member, address⟩
    rw [(prepared pending member).1] at address
    cases address
    exact ⟨pending, member, rfl⟩
  · rintro ⟨pending, member, rfl⟩
    exact ⟨pending, member, (prepared pending member).1⟩

/-- What the prepared record of a cell awaits. -/
theorem awaits_iff (prepared : ∀ pending ∈ all, Prepared pending) (agreeing : Agreeing all)
    (member : pending ∈ all) {awaited : Address} :
    Awaits (all.map PendingRecord.record) pending.cell awaited ↔
      awaited ∈ pending.references ∧ awaited ≠ pending.cell ∧
        awaited ∈ all.map PendingRecord.cell := by
  rw [Awaits, exists_address_iff prepared]
  constructor
  · rintro ⟨apart, ⟨record, listed, address, reads⟩, recorded⟩
    rcases List.mem_map.1 listed with ⟨other, among, rfl⟩
    rw [(prepared other among).1] at address
    rw [← (prepared other among).2] at reads
    exact ⟨agreeing other among pending member (Except.ok.inj address) awaited reads, apart,
      recorded⟩
  · rintro ⟨reads, apart, recorded⟩
    rw [(prepared pending member).2] at reads
    exact ⟨apart, ⟨pending.record, List.mem_map_of_mem member, (prepared pending member).1, reads⟩,
      recorded⟩

theorem awaits_of_waitsFor (prepared : ∀ pending ∈ all, Prepared pending)
    {reader awaited : Address} (waits : WaitsFor all reader awaited) :
    Awaits (all.map PendingRecord.record) reader awaited := by
  rcases waits with ⟨pending, member, rfl, reads, apart, recorded⟩
  rw [(prepared pending member).2] at reads
  exact ⟨apart, ⟨pending.record, List.mem_map_of_mem member, (prepared pending member).1, reads⟩,
    (exists_address_iff prepared).2 recorded⟩

theorem mem_cells_of_awaits (prepared : ∀ pending ∈ all, Prepared pending)
    {reader awaited : Address} (awaits : Awaits (all.map PendingRecord.record) reader awaited) :
    reader ∈ all.map PendingRecord.cell := by
  rcases awaits with ⟨_, ⟨record, listed, address, _⟩, _⟩
  exact (exists_address_iff prepared).1 ⟨record, listed, address⟩

/-! ## Cycles of awaited cells -/

/-- No cycle can be reached from a free cell. -/
theorem Free.not_leads_to_cycle (prepared : ∀ pending ∈ all, Prepared pending)
    (agreeing : Agreeing all) {cell last : Address} (free : Free all cell)
    (reaches : ReflTransGen (Awaits (all.map PendingRecord.record)) cell last) :
    ¬ OnCycle (Awaits (all.map PendingRecord.record)) last := by
  induction free with
  | intro member reads ih =>
      intro circular
      rcases circular.exists_step_of_reaches reaches with ⟨next, step, rest⟩
      rcases (awaits_iff prepared agreeing member).1 step with ⟨named, apart, recorded⟩
      exact ih next named apart recorded rest circular

/-- A recorded cell is free exactly if no cycle can be reached from it. -/
theorem free_iff (prepared : ∀ pending ∈ all, Prepared pending) (agreeing : Agreeing all)
    {cell : Address} (recorded : cell ∈ all.map PendingRecord.cell) :
    Free all cell ↔
      ¬ ∃ last, ReflTransGen (Awaits (all.map PendingRecord.record)) cell last ∧
        OnCycle (Awaits (all.map PendingRecord.record)) last := by
  constructor
  · rintro free ⟨last, reaches, circular⟩
    exact free.not_leads_to_cycle prepared agreeing reaches circular
  · intro alone
    have descends := OnCycle.wellFounded (Awaits (all.map PendingRecord.record))
      (List.finite_toSet (all.map PendingRecord.cell))
      fun reader awaited awaits => mem_cells_of_awaits prepared awaits
    induction cell using descends.induction with
    | _ cell ih =>
        rcases List.mem_map.1 recorded with ⟨pending, member, rfl⟩
        apply Free.intro member
        intro read named apart among
        have step := (awaits_iff prepared agreeing member).2 ⟨named, apart, among⟩
        apply ih read ⟨step, apart, fun circular => alone ⟨_, ReflTransGen.refl, circular⟩⟩ among
        rintro ⟨last, reaches, circular⟩
        exact alone ⟨last, ReflTransGen.head step reaches, circular⟩

/-- If all references lead down, there is no cycle. -/
theorem not_onCycle_of_descends (prepared : ∀ pending ∈ all, Prepared pending)
    (agreeing : Agreeing all) (height : Address → Nat)
    (descends : ∀ pending ∈ all, ∀ read ∈ pending.references, height read < height pending.cell)
    (cell : Address) : ¬ OnCycle (Awaits (all.map PendingRecord.record)) cell := by
  apply OnCycle.not_of_descends height
  intro reader awaited awaits
  rcases List.mem_map.1 (mem_cells_of_awaits prepared awaits) with ⟨pending, member, rfl⟩
  exact descends pending member awaited ((awaits_iff prepared agreeing member).1 awaits).1

/-- All records are ready exactly if there is no cycle. -/
theorem forall_ready_iff (prepared : ∀ pending ∈ all, Prepared pending)
    (agreeing : Agreeing all) :
    (∀ pending ∈ all, Ready all pending) ↔
      ∀ cell, ¬ OnCycle (Awaits (all.map PendingRecord.record)) cell := by
  constructor
  · intro ready cell circular
    rcases circular.exists_step with ⟨next, _, step, _⟩
    rcases List.mem_map.1 (mem_cells_of_awaits prepared step) with ⟨pending, member, rfl⟩
    have free := Free.intro member (ready pending member)
    exact free.not_leads_to_cycle prepared agreeing ReflTransGen.refl circular
  · intro alone pending member
    rw [ready_iff_free agreeing member,
      free_iff prepared agreeing (List.mem_map_of_mem member)]
    rintro ⟨last, _, circular⟩
    exact alone last circular

/-- The cells of the records that are not ready are those that lead to a cycle. -/
theorem mem_unready_iff_leads_to_cycle (prepared : ∀ pending ∈ all, Prepared pending)
    (agreeing : Agreeing all) {cell : Address} :
    cell ∈ (unready all all).map PendingRecord.cell ↔
      ∃ last, ReflTransGen (Awaits (all.map PendingRecord.record)) cell last ∧
        OnCycle (Awaits (all.map PendingRecord.record)) last := by
  constructor
  · intro left
    rcases List.mem_map.1 left with ⟨pending, notReady, rfl⟩
    rcases mem_unready.1 notReady with ⟨member, notReady⟩
    rw [ready_iff_free agreeing member,
      free_iff prepared agreeing (List.mem_map_of_mem member)] at notReady
    exact not_not.1 notReady
  · rintro ⟨last, reaches, circular⟩
    rcases circular.exists_step_of_reaches reaches with ⟨next, step, _⟩
    have recorded := mem_cells_of_awaits prepared step
    rcases List.mem_map.1 recorded with ⟨pending, member, rfl⟩
    apply List.mem_map_of_mem
    rw [mem_unready, ready_iff_free agreeing member,
      free_iff prepared agreeing recorded]
    exact ⟨member, not_not.2 ⟨last, reaches, circular⟩⟩

/-! ## The outcome of a load -/

theorem loadRecords_eq_ok_iff (prepared : sheet.fresh.prepare 1 records = .ok all)
    (agreeing : Agreeing all) :
    (sheet.loadRecords records).result = .ok () ↔ ∀ cell, ¬ OnCycle (Awaits records) cell := by
  rcases prepared_of_prepare prepared with ⟨rfl, each, _⟩
  rw [← forall_ready_iff each agreeing]
  cases loadRecords_concluded prepared with
  | loaded succeeds ready entered => exact iff_of_true succeeds ready
  | stalled blocked fails _ =>
      rw [fails]
      apply iff_of_false
      · rintro ⟨⟩
      · intro ready
        apply blocked
        rw [List.eq_nil_iff_forall_not_mem]
        intro pending left
        rcases mem_unready.1 left with ⟨member, notReady⟩
        exact notReady (ready pending member)

theorem loadRecords_fault (prepared : sheet.fresh.prepare 1 records = .ok all)
    (fails : (sheet.loadRecords records).result ≠ .ok ()) :
    (sheet.loadRecords records).result =
      .error (.circularDependency ((unready all all).map PendingRecord.cell)) := by
  cases loadRecords_concluded prepared with
  | loaded succeeds ready entered => exact absurd succeeds fails
  | stalled blocked fails => exact fails

/-- A load that fails reports a cycle of cells that await each other. -/
theorem loadRecords_reportsCycle (prepared : sheet.fresh.prepare 1 records = .ok all)
    (fails : (sheet.loadRecords records).result ≠ .ok ()) :
    ReportsCycle (Awaits records) (sheet.loadRecords records).log := by
  rcases prepared_of_prepare prepared with ⟨rfl, each, _⟩
  cases loadRecords_concluded prepared with
  | loaded succeeds ready entered => exact absurd succeeds fails
  | stalled blocked fails reports => exact reports.mono fun _ _ => awaits_of_waitsFor each

/-- The outcome of a load, as the records that await each other decide it. -/
structure DecidedByCycles (sheet : Sheet) (records : List Record) (outcome : Outcome) : Prop where
  succeeds_iff : outcome.result = .ok () ↔ ∀ cell, ¬ OnCycle (Awaits records) cell
  recorded : outcome.result = .ok () → ∀ record ∈ records, ∀ cell, record.address = .ok cell →
    outcome.sheet.entered? cell = some (record.text, record.color)
  /-- The cells without records are blank. -/
  unrecorded : outcome.result = .ok () → ∀ cell,
    (∀ record ∈ records, record.address ≠ .ok cell) →
      outcome.sheet.Vacant cell ∧
        outcome.sheet.entered? cell =
          if sheet.contains cell then some ("", defaultColor) else none
  /-- The reported cells are in the order of the records. -/
  fault : outcome.result ≠ .ok () → ∃ left,
    outcome.result = .error (.circularDependency left) ∧
      (left.map Except.ok).Sublist (records.map Record.address) ∧
      ∀ cell, cell ∈ left ↔ ∃ last, ReflTransGen (Awaits records) cell last ∧
        OnCycle (Awaits records) last

theorem exists_prepared {number : Nat}
    (valid : ∀ record ∈ records, ∃ cell, record.address = .ok cell ∧ start.contains cell = true) :
    ∃ all, start.prepare number records = .ok all := by
  induction records generalizing number with
  | nil => exact ⟨[], rfl⟩
  | cons record records ih =>
      rcases List.forall_mem_cons.1 valid with ⟨⟨cell, address, inside⟩, others⟩
      rcases @ih (number + 1) others with ⟨rest, prepared⟩
      rw [prepare, address]
      simp only [inside, prepared, Bool.not_true, Bool.false_eq_true, if_false]
      exact ⟨_, rfl⟩

theorem map_address (prepared : ∀ pending ∈ all, Prepared pending) :
    (all.map PendingRecord.record).map Record.address =
      (all.map PendingRecord.cell).map Except.ok := by
  rw [List.map_map, List.map_map]
  apply List.map_congr_left
  intro pending member
  exact (prepared pending member).1

theorem valid_of_prepared (prepared : ∀ pending ∈ all, Prepared pending)
    (inside : ∀ pending ∈ all, sheet.contains pending.cell = true) :
    ∀ record ∈ all.map PendingRecord.record,
      ∃ cell, record.address = .ok cell ∧ sheet.contains cell = true := by
  intro record listed
  rcases List.mem_map.1 listed with ⟨pending, member, rfl⟩
  exact ⟨pending.cell, (prepared pending member).1, inside pending member⟩

theorem distinct_of_prepared (prepared : ∀ pending ∈ all, Prepared pending)
    (cells : (all.map PendingRecord.cell).Nodup) :
    ((all.map PendingRecord.record).map Record.address).Nodup := by
  rw [map_address prepared]
  exact cells.map fun _ _ same => Except.ok.inj same

/-- The outcome of loading records for different cells of a sheet. -/
theorem decidedByCycles_of_distinct
    (valid : ∀ record ∈ records, ∃ cell, record.address = .ok cell ∧ sheet.contains cell = true)
    (distinct : (records.map Record.address).Nodup) :
    DecidedByCycles sheet records (sheet.loadRecords records) := by
  rcases @exists_prepared sheet.fresh records 1 valid with ⟨all, prepared⟩
  rcases prepared_of_prepare prepared with ⟨same, each, _⟩
  subst same
  rw [map_address each] at distinct
  have cells : (all.map PendingRecord.cell).Nodup := distinct.of_map _
  have agreeing := agreeing_of_nodup cells
  have entered : (sheet.loadRecords (all.map PendingRecord.record)).result = .ok () →
      Entered sheet.fresh all (fun _ => False)
        (sheet.loadRecords (all.map PendingRecord.record)).sheet := by
    intro succeeds
    cases loadRecords_concluded prepared with
    | loaded _ _ entered => exact entered
    | stalled _ fails =>
        rw [fails] at succeeds
        cases succeeds
  constructor
  case succeeds_iff => exact loadRecords_eq_ok_iff prepared agreeing
  case recorded =>
    intro succeeds record listed cell address
    rcases List.mem_map.1 listed with ⟨pending, member, rfl⟩
    rw [(each pending member).1] at address
    cases address
    rcases (entered succeeds).loaded pending.cell (List.mem_map_of_mem member) not_false with
      ⟨other, among, samecell, found⟩
    rw [List.inj_on_of_nodup_map cells among member samecell] at found
    exact found
  case unrecorded =>
    intro succeeds cell absent
    have unlisted : cell ∉ all.map PendingRecord.cell := by
      intro listed
      rcases (exists_address_iff each).2 listed with ⟨record, member, address⟩
      exact absent record member address
    have loaded := entered succeeds
    exact ⟨loaded.vacant cell unlisted (vacant_blank _ _ cell),
      (loaded.others cell unlisted).trans (entered?_blank _ _ cell)⟩
  case fault =>
    intro fails
    have sublist :
        ((unready all all).map PendingRecord.cell).Sublist (all.map PendingRecord.cell) :=
      (unready_sublist all all).map _
    rw [map_address each]
    exact ⟨_, loadRecords_fault prepared fails, sublist.map _,
      fun cell => mem_unready_iff_leads_to_cycle each agreeing⟩

/-- Which cells await each other does not depend on the order of the records. -/
theorem awaits_perm {permuted : List Record} (same : permuted.Perm records) :
    Awaits permuted = Awaits records := by
  funext reader awaited
  simp only [Awaits, same.mem_iff]

namespace DecidedByCycles

variable {permuted : List Record} {first second : Outcome}

/-- If the outcomes of a load and of a permuted one are decided by cycles, the same is
entered in both. -/
theorem entered?_perm (before : DecidedByCycles sheet records first)
    (after : DecidedByCycles sheet permuted second) (same : permuted.Perm records)
    (succeeds : first.result = .ok ()) (succeedsToo : second.result = .ok ()) (cell : Address) :
    second.sheet.entered? cell = first.sheet.entered? cell := by
  by_cases listed : ∃ record ∈ records, record.address = .ok cell
  · rcases listed with ⟨record, member, address⟩
    rw [before.recorded succeeds record member cell address,
      after.recorded succeedsToo record (same.mem_iff.2 member) cell address]
  · have absent : ∀ record ∈ records, record.address ≠ .ok cell :=
      fun record member address => listed ⟨record, member, address⟩
    rw [(before.unrecorded succeeds cell absent).2,
      (after.unrecorded succeedsToo cell fun record member =>
        absent record (same.mem_iff.1 member)).2]

/-- The cells that are reported are the same up to their order. -/
theorem fault_perm (before : DecidedByCycles sheet records first)
    (after : DecidedByCycles sheet permuted second) (same : permuted.Perm records)
    (distinct : (records.map Record.address).Nodup) {left : List Address}
    (fails : first.result = .error (.circularDependency left))
    (failsToo : second.result ≠ .ok ()) :
    ∃ others, second.result = .error (.circularDependency others) ∧ others.Perm left := by
  have failed : first.result ≠ .ok () := by
    rw [fails]
    rintro ⟨⟩
  rcases before.fault failed with ⟨cells, reported, sublist, mem_cells⟩
  rcases after.fault failsToo with ⟨others, reportedToo, sublistToo, mem_others⟩
  rw [fails] at reported
  cases reported
  have distinctToo := (same.map Record.address).nodup_iff.2 distinct
  apply Exists.intro others
  apply And.intro reportedToo
  apply (List.perm_ext_iff_of_nodup ((distinctToo.sublist sublistToo).of_map _)
    ((distinct.sublist sublist).of_map _)).2
  intro cell
  rw [mem_others, mem_cells, awaits_perm same]

end DecidedByCycles

/-- Records for different cells of a sheet are loaded exactly if no cycle of them await
each other, and a permutation of them is loaded with the same outcome. -/
theorem loadRecords_of_distinct
    (valid : ∀ record ∈ records, ∃ cell, record.address = .ok cell ∧ sheet.contains cell = true)
    (distinct : (records.map Record.address).Nodup) :
    DecidedByCycles sheet records (sheet.loadRecords records) ∧
    ∀ permuted : List Record, permuted.Perm records →
      ((sheet.loadRecords permuted).result = .ok () ↔
        (sheet.loadRecords records).result = .ok ()) ∧
      ((sheet.loadRecords records).result = .ok () → ∀ cell,
        (sheet.loadRecords permuted).sheet.entered? cell =
          (sheet.loadRecords records).sheet.entered? cell) ∧
      ∀ left, (sheet.loadRecords records).result = .error (.circularDependency left) →
        ∃ others, (sheet.loadRecords permuted).result = .error (.circularDependency others) ∧
          others.Perm left := by
  have before := decidedByCycles_of_distinct valid distinct
  apply And.intro before
  intro permuted same
  have after : DecidedByCycles sheet permuted (sheet.loadRecords permuted) := by
    apply decidedByCycles_of_distinct
    · intro record member
      exact valid record (same.mem_iff.1 member)
    · exact (same.map Record.address).nodup_iff.2 distinct
  have succeeds_iff : (sheet.loadRecords permuted).result = .ok () ↔
      (sheet.loadRecords records).result = .ok () := by
    rw [before.succeeds_iff, after.succeeds_iff, awaits_perm same]
  apply And.intro succeeds_iff
  constructor
  · intro succeeds
    exact before.entered?_perm after same succeeds (succeeds_iff.2 succeeds)
  · intro left fails
    apply before.fault_perm after same distinct fails
    rw [Ne, succeeds_iff, fails]
    rintro ⟨⟩

/-- A chain of formulas is loaded although each record stands before the one that it
awaits.  A cycle of two is refused, and so is the cell that reads it. -/
theorem loadRecords_of_chain_and_cycle :
    ∃ chain cycle : List Record,
      chain = [⟨1, "C", "=B1+1", "", defaultColor⟩, ⟨1, "B", "=A1*2", "", defaultColor⟩,
        ⟨1, "A", "3", "", defaultColor⟩] ∧
      cycle = [⟨1, "C", "=A1", "", defaultColor⟩, ⟨1, "B", "=A1", "", defaultColor⟩,
        ⟨1, "A", "=B1", "", defaultColor⟩] ∧
      ((blank 1 3).loadRecords chain).result = .ok () ∧
      ((blank 1 3).loadRecords chain).sheet.entered? ⟨0, 2⟩ = some ("=B1+1", defaultColor) ∧
      ∃ left, ((blank 1 3).loadRecords cycle).result = .error (.circularDependency left) ∧
        ⟨0, 2⟩ ∈ left := by
  refine ⟨_, _, rfl, rfl, ?_⟩
  rw [← and_assoc]
  constructor
  · have prepared := @prepared_of_address?
      [⟨⟨0, 2⟩, ⟨1, "C", "=B1+1", "", defaultColor⟩, [⟨0, 1⟩]⟩,
        ⟨⟨0, 1⟩, ⟨1, "B", "=A1*2", "", defaultColor⟩, [⟨0, 0⟩]⟩,
        ⟨⟨0, 0⟩, ⟨1, "A", "3", "", defaultColor⟩, []⟩] (by decide +kernel)
    have valid := @valid_of_prepared (blank 1 3) _ prepared (by decide)
    have distinct := distinct_of_prepared prepared (by decide)
    have decided := (loadRecords_of_distinct valid distinct).1
    have alone := not_onCycle_of_descends prepared (agreeing_of_nodup (by decide))
      Address.column (by decide)
    have succeeds := decided.succeeds_iff.2 alone
    exact ⟨succeeds, decided.recorded succeeds _ (List.mem_map_of_mem (List.mem_cons_self ..)) _
      (prepared _ (List.mem_cons_self ..)).1⟩
  · have prepared := @prepared_of_address?
      [⟨⟨0, 2⟩, ⟨1, "C", "=A1", "", defaultColor⟩, [⟨0, 0⟩]⟩,
        ⟨⟨0, 1⟩, ⟨1, "B", "=A1", "", defaultColor⟩, [⟨0, 0⟩]⟩,
        ⟨⟨0, 0⟩, ⟨1, "A", "=B1", "", defaultColor⟩, [⟨0, 1⟩]⟩] (by decide +kernel)
    have valid := @valid_of_prepared (blank 1 3) _ prepared (by decide)
    have distinct := distinct_of_prepared prepared (by decide)
    have decided := (loadRecords_of_distinct valid distinct).1
    have awaits := fun pending member awaited =>
      (@awaits_iff _ pending prepared (agreeing_of_nodup (by decide)) member awaited).2
    have reads := awaits _ (List.mem_cons_self ..) ⟨0, 0⟩ (by decide)
    have there := awaits _ (List.mem_of_getElem? (i := 2) rfl) ⟨0, 1⟩ (by decide)
    have back := awaits _ (List.mem_of_getElem? (i := 1) rfl) ⟨0, 0⟩ (by decide)
    have circular : OnCycle (Awaits _) ⟨0, 0⟩ := OnCycle.of_mutual (by decide) there back
    rcases decided.fault fun succeeds => decided.succeeds_iff.1 succeeds _ circular with
      ⟨left, reported, _, mem_left⟩
    exact ⟨left, reported, (mem_left _).2 ⟨_, ReflTransGen.single reads, circular⟩⟩

end Worksheet.Sheet
