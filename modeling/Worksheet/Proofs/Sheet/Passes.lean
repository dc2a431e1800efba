import Worksheet.Proofs.Sheet.Entering
import Worksheet.Proofs.Sheet.Stalling

/-!
# Passes over the records that wait

Records are loaded in passes, and whether one is loaded depends on the cells that wait
when its turn comes.  What becomes of the records in the end does not depend on the
passes.  A record is ready if every recorded cell that it reads, apart from its own, is
free, and a cell is free if one of its records is ready.  The cells that no longer wait
are free, and the records that are left over are those that are not ready.  A cycle of
them is reported.

Nothing is assumed about the records.  Several of them may be for one cell, which then
is released by the first one that is loaded and shows the last one.
-/

namespace Worksheet.Sheet

variable {sheet start : Sheet} {all ahead : List PendingRecord} {pass : LoadPass}
  {pending : PendingRecord}

/-! ## Free cells and ready records -/

/-- A cell is free if one of its records reads only cells that are free, apart from the
cell itself and from cells without records. -/
inductive Free (all : List PendingRecord) : Address → Prop
  | intro {pending : PendingRecord} (member : pending ∈ all)
      (reads : ∀ read ∈ pending.references, read ≠ pending.cell →
        read ∈ all.map PendingRecord.cell → Free all read) : Free all pending.cell

/-- All recorded cells that a record reads are free, apart from its own. -/
def Ready (all : List PendingRecord) (pending : PendingRecord) : Prop :=
  ∀ read ∈ pending.references, read ≠ pending.cell →
    read ∈ all.map PendingRecord.cell → Free all read

theorem Free.exists_ready {cell : Address} (free : Free all cell) :
    ∃ pending ∈ all, pending.cell = cell ∧ Ready all pending := by
  cases free with
  | intro member reads => exact ⟨_, member, rfl, reads⟩

open scoped Classical in
/-- Those of some records that are not ready, in their order. -/
noncomputable def unready (all records : List PendingRecord) : List PendingRecord :=
  records.filter fun pending => ¬ Ready all pending

theorem mem_unready {records : List PendingRecord} :
    pending ∈ unready all records ↔ pending ∈ records ∧ ¬ Ready all pending := by
  simp [unready]

theorem unready_sublist (all records : List PendingRecord) :
    (unready all records).Sublist records :=
  List.filter_sublist

theorem unready_eq_self {records : List PendingRecord}
    (blocked : ∀ pending ∈ records, ¬ Ready all pending) : unready all records = records := by
  apply List.filter_eq_self.2
  intro pending member
  simpa using blocked pending member

/-- Leaving out a record that is ready makes no difference. -/
theorem unready_append_cons (ready : Ready all pending) (before after : List PendingRecord) :
    unready all (before ++ pending :: after) = unready all (before ++ after) := by
  unfold unready
  rw [List.filter_append, List.filter_cons_of_neg (by simpa using ready), ← List.filter_append]

/-- Records for the same cell read the same cells.  This is so in particular if all
records are for different cells. -/
def Agreeing (all : List PendingRecord) : Prop :=
  ∀ first ∈ all, ∀ second ∈ all, first.cell = second.cell →
    ∀ read ∈ first.references, read ∈ second.references

instance (all : List PendingRecord) : Decidable (Agreeing all) :=
  inferInstanceAs (Decidable (∀ first ∈ all, ∀ second ∈ all, first.cell = second.cell →
    ∀ read ∈ first.references, read ∈ second.references))

theorem agreeing_of_nodup (distinct : (all.map PendingRecord.cell).Nodup) : Agreeing all := by
  intro first among second amongToo same read reads
  rw [List.inj_on_of_nodup_map distinct amongToo among same.symm]
  exact reads

/-- Among agreeing records, those for free cells are ready. -/
theorem ready_iff_free (agreeing : Agreeing all) (member : pending ∈ all) :
    Ready all pending ↔ Free all pending.cell := by
  constructor
  · exact Free.intro member
  · intro free read reads apart recorded
    rcases free.exists_ready with ⟨other, among, same, ready⟩
    apply ready read (agreeing pending member other among same.symm read reads) _ recorded
    rwa [same]

/-! ## Loading one record -/

theorem loadRecord_fst (sheet : Sheet) (pending : PendingRecord) :
    (sheet.loadRecord pending).1 =
      ((sheet.commitColor pending.cell pending.record.color).sheet.commitText pending.cell
        pending.record.text).sheet := by
  unfold loadRecord
  dsimp only
  split <;> rfl

/-- Loading a record enters its text and its color in its cell. -/
theorem entered?_loadRecord (sheet : Sheet) (pending : PendingRecord) :
    (sheet.loadRecord pending).1.entered? =
      Snapshot.change sheet.entered? pending.cell fun _ =>
        (pending.record.text, pending.record.color) := by
  rw [loadRecord_fst, entered?_commitText, entered?_commitColor, Snapshot.change_change]
  rfl

theorem Untouched.loadRecord (sheet : Sheet) (pending : PendingRecord) :
    Untouched sheet (sheet.loadRecord pending).1 := by
  rw [loadRecord_fst]
  exact (Untouched.commitColor _ _ _).trans (Untouched.commitText _ _ _)

theorem Vacant.loadRecord {other : Address} (vacant : sheet.Vacant other)
    (apart : other ≠ pending.cell) : (sheet.loadRecord pending).1.Vacant other := by
  rw [loadRecord_fst]
  exact (vacant.commitColor _ _).commitText apart _

/-- A sheet into which records have been loaded, among them at least one for every cell
that does not wait. -/
structure Entered (start : Sheet) (all : List PendingRecord) (waits : Address → Prop)
    (after : Sheet) : Prop where
  untouched : Untouched start after
  loaded : ∀ cell ∈ all.map PendingRecord.cell, ¬ waits cell →
    ∃ pending ∈ all, pending.cell = cell ∧
      after.entered? cell = some (pending.record.text, pending.record.color)
  others : ∀ cell, cell ∉ all.map PendingRecord.cell → after.entered? cell = start.entered? cell
  vacant : ∀ cell, cell ∉ all.map PendingRecord.cell → start.Vacant cell → after.Vacant cell

namespace Entered

variable {waits waits' : Address → Prop}

theorem weaken (entered : Entered start all waits sheet)
    (weaker : ∀ cell, waits cell → waits' cell) : Entered start all waits' sheet where
  untouched := entered.untouched
  loaded cell among free := entered.loaded cell among fun waits => free (weaker cell waits)
  others := entered.others
  vacant := entered.vacant

theorem loadRecord (entered : Entered start all waits sheet) (member : pending ∈ all)
    (inside : start.contains pending.cell = true) :
    Entered start all (fun cell => waits cell ∧ cell ≠ pending.cell)
      (sheet.loadRecord pending).1 := by
  have apart : ∀ cell, cell ∉ all.map PendingRecord.cell → cell ≠ pending.cell := by
    rintro cell absent rfl
    exact absent (List.mem_map_of_mem member)
  constructor
  case untouched => exact entered.untouched.trans (Untouched.loadRecord sheet pending)
  case loaded =>
    intro cell among free
    rw [entered?_loadRecord]
    by_cases same : cell = pending.cell
    · rw [same, Snapshot.change_self]
      have present := (contains_congr entered.untouched.dimensions pending.cell).trans inside
      rcases exists_cell?_of_contains present with ⟨old, found⟩
      rw [entered?_of_cell? found]
      exact ⟨pending, member, rfl, rfl⟩
    · rw [Snapshot.change, if_neg same]
      exact entered.loaded cell among fun waits => free ⟨waits, same⟩
  case others =>
    intro cell absent
    rw [entered?_loadRecord, Snapshot.change, if_neg (apart cell absent)]
    exact entered.others cell absent
  case vacant =>
    intro cell absent vacant
    exact (entered.vacant cell absent vacant).loadRecord (apart cell absent)

end Entered

/-! ## A pass -/

/-- A pass with the records that it has not looked at yet.  The records that remain are
those that are left for a later pass and those that are still ahead. -/
structure Progress (start : Sheet) (all : List PendingRecord) (pass : LoadPass)
    (ahead : List PendingRecord) : Prop where
  entered : Entered start all (fun cell => pass.waiting.contains cell = true) pass.sheet
  members : ∀ pending ∈ pass.deferred.reverse ++ ahead, pending ∈ all
  waiting : ∀ cell, pass.waiting.contains cell = true →
    cell ∈ (pass.deferred.reverse ++ ahead).map PendingRecord.cell
  remain : ∀ pending ∈ all, pass.waiting.contains pending.cell = true →
    pending ∈ pass.deferred.reverse ++ ahead
  free : ∀ cell ∈ all.map PendingRecord.cell, ¬ pass.waiting.contains cell = true →
    Free all cell
  unready : unready all (pass.deferred.reverse ++ ahead) = unready all all

namespace Progress

/-- A record that does not have to wait is ready. -/
theorem ready_of_not_isBlocked (progress : Progress start all pass ahead)
    (passes : ¬ PendingRecord.isBlocked pending pass.waiting = true) : Ready all pending := by
  intro read reads apart recorded
  apply progress.free read recorded
  intro waits
  exact passes (isBlocked_iff.2 ⟨read, reads, apart, waits⟩)

theorem step (progress : Progress start all pass (pending :: ahead))
    (inside : ∀ pending ∈ all, start.contains pending.cell = true) :
    Progress start all (pass.step pending) ahead := by
  have member : pending ∈ all :=
    progress.members pending (List.mem_append_right _ List.mem_cons_self)
  have ready := @ready_of_not_isBlocked _ _ _ _ pending progress
  rcases pass with ⟨sheet, waiting, deferred, log⟩
  rcases progress with ⟨entered, members, waits, remain, free, unready⟩
  unfold LoadPass.step
  dsimp only at *
  split
  · have rest : (pending :: deferred).reverse ++ ahead = deferred.reverse ++ pending :: ahead := by
      rw [List.reverse_cons, List.append_assoc, List.singleton_append]
    rw [← rest] at members waits remain unready
    exact ⟨entered, members, waits, remain, free, unready⟩
  · next passes =>
    have contains_erase : ∀ cell, (waiting.erase pending.cell).contains cell = true ↔
        waiting.contains cell = true ∧ cell ≠ pending.cell := by
      intro cell
      rw [Std.HashSet.contains_erase, Bool.and_eq_true, Bool.not_eq_true', beq_eq_false_iff_ne,
        and_comm, ne_comm]
    have mem_remaining : ∀ other, other ∈ deferred.reverse ++ pending :: ahead ↔
        other = pending ∨ other ∈ deferred.reverse ++ ahead := by
      intro other
      rw [List.mem_append, List.mem_cons, List.mem_append, or_left_comm]
    constructor
    case entered =>
      apply (entered.loadRecord member (inside pending member)).weaken
      intro cell stays
      exact (contains_erase cell).2 stays
    case members =>
      intro other remains
      exact members other ((mem_remaining other).2 (.inr remains))
    case waiting =>
      intro cell stays
      rcases (contains_erase cell).1 stays with ⟨before, apart⟩
      rcases List.mem_map.1 (waits cell before) with ⟨other, remains, rfl⟩
      rcases (mem_remaining other).1 remains with rfl | later
      · exact absurd rfl apart
      · exact List.mem_map_of_mem later
    case remain =>
      intro other among stays
      rcases (contains_erase other.cell).1 stays with ⟨before, apart⟩
      rcases (mem_remaining other).1 (remain other among before) with rfl | later
      · exact absurd rfl apart
      · exact later
    case free =>
      intro cell recorded released
      by_cases same : cell = pending.cell
      · rw [same]
        exact Free.intro member (ready passes)
      · apply free cell recorded
        intro before
        exact released ((contains_erase cell).2 ⟨before, same⟩)
    case unready => rw [← unready_append_cons (ready passes), unready]

theorem run (progress : Progress start all pass ahead)
    (inside : ∀ pending ∈ all, start.contains pending.cell = true) :
    Progress start all (ahead.foldl LoadPass.step pass) [] := by
  induction ahead generalizing pass with
  | nil => exact progress
  | cons pending ahead ih => exact ih (progress.step inside)

/-- If all records that remain are blocked, the cells that wait are not free. -/
theorem not_free_of_waiting (progress : Progress start all pass ahead)
    (blocked : ∀ pending ∈ pass.deferred.reverse ++ ahead,
      PendingRecord.isBlocked pending pass.waiting = true) {cell : Address}
    (waits : pass.waiting.contains cell = true) : ¬ Free all cell := by
  intro free
  induction free with
  | @intro pending member reads ih =>
      have remains := progress.remain pending member waits
      rcases isBlocked_iff.1 (blocked pending remains) with ⟨read, named, apart, still⟩
      rcases List.mem_map.1 (progress.waiting read still) with ⟨other, left, rfl⟩
      exact ih other.cell named apart (List.mem_map_of_mem (progress.members other left)) still

/-- If all records that remain are blocked, they are the ones that are not ready. -/
theorem unready_of_blocked (progress : Progress start all pass ahead)
    (blocked : ∀ pending ∈ pass.deferred.reverse ++ ahead,
      PendingRecord.isBlocked pending pass.waiting = true) :
    Sheet.unready all all = pass.deferred.reverse ++ ahead := by
  rw [← progress.unready]
  apply unready_eq_self
  intro pending remains ready
  rcases isBlocked_iff.1 (blocked pending remains) with ⟨read, named, apart, waits⟩
  rcases List.mem_map.1 (progress.waiting read waits) with ⟨other, left, rfl⟩
  have recorded : other.cell ∈ all.map PendingRecord.cell :=
    List.mem_map_of_mem (progress.members other left)
  exact progress.not_free_of_waiting blocked waits (ready other.cell named apart recorded)

/-- If no record remains, all records are ready. -/
theorem ready_of_finished (progress : Progress start all pass [])
    (finished : pass.deferred = []) : ∀ pending ∈ all, Ready all pending := by
  intro pending member read named apart recorded
  apply progress.free read recorded
  intro waits
  have remains := progress.waiting read waits
  rw [finished] at remains
  exact List.not_mem_nil remains

end Progress

/-! ## All passes -/

/-- What becomes of a load.  Either all records are ready and have been loaded, or the
load fails with the cells of those that are not ready and reports a cycle. -/
inductive Concluded (start : Sheet) (all : List PendingRecord) : Outcome → Prop
  | loaded {outcome : Outcome} (succeeds : outcome.result = .ok ())
      (ready : ∀ pending ∈ all, Ready all pending)
      (entered : Entered start all (fun _ => False) outcome.sheet) : Concluded start all outcome
  | stalled {outcome : Outcome} (blocked : unready all all ≠ [])
      (fails : outcome.result =
        .error (.circularDependency ((unready all all).map PendingRecord.cell)))
      (reports : ReportsCycle (WaitsFor all) outcome.log) :
      Concluded start all outcome

theorem length_deferred_le (pass : LoadPass) (ahead : List PendingRecord) :
    (ahead.foldl LoadPass.step pass).deferred.length ≤ pass.deferred.length + ahead.length := by
  induction ahead generalizing pass with
  | nil => exact Nat.le_refl _
  | cons pending ahead ih =>
      have bound := ih (pass.step pending)
      rw [List.foldl_cons, List.length_cons]
      have step : (pass.step pending).deferred.length ≤ pass.deferred.length + 1 := by
        unfold LoadPass.step
        dsimp only
        split
        · exact Nat.le_refl _
        · exact Nat.le_succ _
      omega

/-- A pass that leaves all records over has found all of them blocked by the cells that
have waited from its start. -/
theorem isBlocked_of_length_eq (pass : LoadPass) (ahead : List PendingRecord)
    (allLeft : pass.deferred.length + ahead.length ≤
      (ahead.foldl LoadPass.step pass).deferred.length) :
    (ahead.foldl LoadPass.step pass).deferred = ahead.reverse ++ pass.deferred ∧
      (ahead.foldl LoadPass.step pass).waiting = pass.waiting ∧
      ∀ pending ∈ ahead, PendingRecord.isBlocked pending pass.waiting = true := by
  induction ahead generalizing pass with
  | nil => exact ⟨rfl, rfl, fun _ member => absurd member List.not_mem_nil⟩
  | cons pending ahead ih =>
      rcases pass with ⟨sheet, waiting, deferred, log⟩
      have bound := length_deferred_le (LoadPass.step ⟨sheet, waiting, deferred, log⟩ pending) ahead
      rw [List.foldl_cons] at allLeft ⊢
      by_cases blocked : PendingRecord.isBlocked pending waiting = true
      · have step : LoadPass.step ⟨sheet, waiting, deferred, log⟩ pending =
            ⟨sheet, waiting, pending :: deferred, log⟩ := if_pos blocked
        rw [step] at allLeft ⊢
        have rest : (pending :: deferred).length + ahead.length ≤ (ahead.foldl LoadPass.step
            ⟨sheet, waiting, pending :: deferred, log⟩).deferred.length := by
          simp only [List.length_cons] at allLeft ⊢
          omega
        rcases ih ⟨sheet, waiting, pending :: deferred, log⟩ rest with ⟨order, same, others⟩
        rw [order, List.reverse_cons, List.append_assoc]
        exact ⟨rfl, same, List.forall_mem_cons.2 ⟨blocked, others⟩⟩
      · have step :
            (LoadPass.step ⟨sheet, waiting, deferred, log⟩ pending).deferred = deferred := by
          simp only [LoadPass.step, if_neg blocked]
        rw [step] at bound
        simp only [List.length_cons] at allLeft bound
        omega

theorem loadPasses_concluded (inside : ∀ pending ∈ all, start.contains pending.cell = true)
    {waiting : Std.HashSet Address} {log : Array LogEvent} (number : Nat)
    {remaining : List PendingRecord}
    (progress : Progress start all ⟨sheet, waiting, [], log⟩ remaining) :
    Concluded start all (sheet.loadPasses waiting log number remaining) := by
  induction sheet, waiting, log, number, remaining using Sheet.loadPasses.induct with
  | case1 sheet waiting log number remaining empty =>
      rw [List.isEmpty_iff] at empty
      subst empty
      have nothing : ∀ cell, ¬ waiting.contains cell = true := by
        intro cell waits
        exact List.not_mem_nil (progress.waiting cell waits)
      rw [loadPasses, if_pos List.isEmpty_nil]
      exact .loaded rfl (progress.ready_of_finished rfl) (progress.entered.weaken nothing)
  | case2 sheet waiting log number remaining some pass deferred log' shorter ih =>
      rw [loadPasses, if_neg some]
      dsimp only
      rw [dif_pos shorter]
      apply ih
      rcases progress.run inside with ⟨entered, members, waits, remain, free, unready⟩
      rw [List.append_nil] at members waits remain unready
      exact ⟨entered, members, waits, remain, free, unready⟩
  | case3 sheet waiting log number remaining some pass deferred stalled =>
      rw [loadPasses, if_neg some]
      dsimp only
      rw [dif_neg stalled]
      have allLeft : 0 + remaining.length ≤ pass.deferred.length := by
        have lengths : deferred.length = pass.deferred.length := List.length_reverse
        rw [Nat.zero_add, ← lengths]
        exact Nat.le_of_not_lt stalled
      rcases isBlocked_of_length_eq ⟨sheet, waiting, [], log⟩ remaining allLeft with
        ⟨order, sameWaiting, blocked⟩
      have left : (LoadPass.run sheet waiting log remaining).deferred.reverse = remaining := by
        have reversed := congrArg List.reverse order
        rwa [List.append_nil, List.reverse_reverse] at reversed
      have stays : (LoadPass.run sheet waiting log remaining).waiting = waiting := sameWaiting
      have same : unready all all = remaining := progress.unready_of_blocked blocked
      apply Concluded.stalled
      · rw [same]
        rintro rfl
        exact some rfl
      · dsimp only
        rw [same, left]
      · have nonempty : remaining ≠ [] := by
          rintro rfl
          exact some rfl
        have cycle := reportsCycle_stallEvents nonempty blocked progress.waiting
        dsimp only
        rw [left, stays]
        exact (cycle.append_left _).mono fun _ _ waits => waits.mono progress.members

/-! ## Whole loads -/

/-- At the start all records wait. -/
theorem Progress.initial (start : Sheet) (all : List PendingRecord) (log : Array LogEvent) :
    Progress start all
      ⟨start, Std.HashSet.ofList (all.map PendingRecord.cell), [], log⟩ all := by
  have waiting : ∀ cell, (Std.HashSet.ofList (all.map PendingRecord.cell)).contains cell = true ↔
      cell ∈ all.map PendingRecord.cell := by
    intro cell
    rw [Std.HashSet.contains_ofList, List.contains_iff_mem]
  constructor
  case entered =>
    constructor
    case untouched => exact Untouched.refl start
    case loaded =>
      intro cell among released
      exact absurd ((waiting cell).2 among) released
    case others => exact fun _ _ => rfl
    case vacant => exact fun _ _ vacant => vacant
  case members => exact fun _ member => member
  case waiting => exact fun cell => (waiting cell).1
  case remain => exact fun _ member _ => member
  case free =>
    intro cell among released
    exact absurd ((waiting cell).2 among) released
  case unready => rfl

/-- A record waits for its own cell and for the references of its own text. -/
def Prepared (pending : PendingRecord) : Prop :=
  pending.record.address = .ok pending.cell ∧
    pending.references = Cell.referencesOf pending.record.text

/-- Whether given records are prepared can be computed. -/
theorem prepared_of_address? (each : ∀ pending ∈ all,
    pending.record.address? = some pending.cell ∧
      pending.references = Cell.referencesOf pending.record.text) :
    ∀ pending ∈ all, Prepared pending := by
  intro pending member
  rcases each pending member with ⟨address, references⟩
  rw [Prepared, Record.address, address]
  exact ⟨rfl, references⟩

/-- Records for cells of the sheet are prepared for loading. -/
theorem prepare_of_prepared (prepared : ∀ pending ∈ all, Prepared pending)
    (inside : ∀ pending ∈ all, start.contains pending.cell = true) (number : Nat) :
    start.prepare number (all.map PendingRecord.record) = .ok all := by
  induction all generalizing number with
  | nil => rfl
  | cons pending all ih =>
      rcases List.forall_mem_cons.1 prepared with ⟨⟨address, references⟩, others⟩
      rcases List.forall_mem_cons.1 inside with ⟨contained, othersContained⟩
      rw [List.map_cons, prepare, address]
      simp only [contained, Bool.not_true, Bool.false_eq_true, if_false,
        ih others othersContained, ← references]

/-- What has been prepared are the records, all of them for cells of the sheet. -/
theorem prepared_of_prepare {number : Nat} {records : List Record}
    (succeeds : start.prepare number records = .ok all) :
    all.map PendingRecord.record = records ∧ (∀ pending ∈ all, Prepared pending) ∧
      ∀ pending ∈ all, start.contains pending.cell = true := by
  induction records generalizing all number with
  | nil =>
      cases succeeds
      simp
  | cons record records ih =>
      rw [prepare] at succeeds
      split at succeeds
      · cases succeeds
      · next cell address =>
        split at succeeds
        · cases succeeds
        · next contained =>
          split at succeeds
          · cases succeeds
          · next rest prepared =>
            cases succeeds
            rcases ih prepared with ⟨same, others, inside⟩
            rw [List.map_cons, same]
            have first : start.contains cell = true := by
              simpa using contained
            exact ⟨rfl, List.forall_mem_cons.2 ⟨⟨address, rfl⟩, others⟩,
              List.forall_mem_cons.2 ⟨first, inside⟩⟩

theorem fill_concluded {records : List Record} (prepared : start.prepare 1 records = .ok all) :
    Concluded start all (start.fill records) := by
  rcases prepared_of_prepare prepared with ⟨_, _, inside⟩
  rw [fill, prepared]
  exact loadPasses_concluded inside 1 (Progress.initial start all #[])

/-- The blank sheet into which records are loaded. -/
def fresh (sheet : Sheet) : Sheet :=
  { blank sheet.grid.rows sheet.grid.columns with operators := sheet.operators }

theorem entered?_replaceBy (sheet loaded : Sheet) :
    (sheet.replaceBy loaded).entered? = loaded.entered? :=
  rfl

/-- A loaded sheet keeps what it holds when it takes the place of another one. -/
theorem Entered.replaceBy {waits : Address → Prop} {loaded : Sheet}
    (entered : Entered start all waits loaded) (sheet : Sheet) :
    Entered start all waits (sheet.replaceBy loaded) where
  untouched := entered.untouched.trans ⟨rfl, rfl, rfl⟩
  loaded := entered.loaded
  others := entered.others
  vacant := entered.vacant

theorem loadRecords_result (sheet : Sheet) (records : List Record) :
    (sheet.loadRecords records).result = (sheet.fresh.fill records).result := by
  unfold fresh
  rw [loadRecords]
  dsimp only
  split
  · next fails => exact fails.symm
  · next succeeds => exact succeeds.symm

theorem loadRecords_log (sheet : Sheet) (records : List Record) :
    (sheet.loadRecords records).log = (sheet.fresh.fill records).log := by
  unfold fresh
  rw [loadRecords]
  dsimp only
  split
  · rfl
  · rfl

/-- A load that succeeds puts the loaded sheet in place of the old one. -/
theorem loadRecords_sheet_of_ok {records : List Record}
    (succeeds : (sheet.loadRecords records).result = .ok ()) :
    (sheet.loadRecords records).sheet = sheet.replaceBy (sheet.fresh.fill records).sheet := by
  rw [loadRecords_result] at succeeds
  unfold fresh at succeeds ⊢
  rw [loadRecords]
  dsimp only
  rw [succeeds]

/-- A load that fails leaves the sheet as it was. -/
theorem loadRecords_sheet_of_error {records : List Record} {fault : SheetError}
    (fails : (sheet.loadRecords records).result = .error fault) :
    (sheet.loadRecords records).sheet = sheet := by
  rw [loadRecords_result] at fails
  unfold fresh at fails
  rw [loadRecords]
  dsimp only
  rw [fails]

/-- Records that can be prepared are all loaded into a blank sheet, or the load fails with
the cells of those that are not ready. -/
theorem loadRecords_concluded {records : List Record}
    (prepared : sheet.fresh.prepare 1 records = .ok all) :
    Concluded sheet.fresh all (sheet.loadRecords records) := by
  have same := loadRecords_result sheet records
  cases fill_concluded prepared with
  | loaded succeeds ready entered =>
      have loaded := same.trans succeeds
      apply Concluded.loaded loaded ready
      rw [loadRecords_sheet_of_ok loaded]
      exact entered.replaceBy sheet
  | stalled blocked fails reports =>
      exact .stalled blocked (same.trans fails) (by rwa [loadRecords_log])

/-- A load succeeds only if its records can be prepared. -/
theorem exists_prepared_of_loaded {records : List Record}
    (succeeds : (sheet.loadRecords records).result = .ok ()) :
    ∃ all, sheet.fresh.prepare 1 records = .ok all := by
  rw [loadRecords_result, fill] at succeeds
  split at succeeds
  · cases succeeds
  · next all prepared => exact ⟨all, prepared⟩

end Worksheet.Sheet
