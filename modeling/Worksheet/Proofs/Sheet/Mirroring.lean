import Worksheet.Proofs.Dependency.Unrepeated
import Worksheet.Proofs.Sheet.Effect

/-!
# The graph mirrors the texts

The reference graph of a sheet has been built by operations on graphs: a committed text
replaces the references of its cell, and nothing else touches the graph, unless all cells
become blank.  So the lists of the graph have no repetition, whatever has been done with
the sheet, and each list is what the present texts say.

The readers of a cell are cells of the sheet.  So no cascade leaves the sheet, neither that
of an edit nor one in the course of a load.
-/

namespace Worksheet.Sheet

variable {sheet start : Sheet} {address : Address} {cell : Cell}

/-! ## Built graphs -/

/-- Committing a text replaces the references of its cell. -/
theorem graph_commitText (inside : sheet.cell? address = some cell) (text : String) :
    (sheet.commitText address text).sheet.graph =
      sheet.graph.setReferences address (Cell.referencesOf text) := by
  rw [commitText_sheet inside]
  exact (recalculate_sameInputs (sheet.withTextLinked address cell text) address).graph

theorem graph_commitColor (sheet : Sheet) (address : Address) (color : Color) :
    (sheet.commitColor address color).sheet.graph = sheet.graph := by
  rw [commitColor]
  split <;> rfl

theorem keptBySteps_built : KeptBySteps fun sheet => sheet.graph.Built := by
  constructor
  case toKeptByCommits =>
    constructor
    case commitText =>
      intro sheet address text built
      cases inside : sheet.cell? address with
      | none =>
          rw [commitText_outside inside]
          exact built
      | some cell =>
          rw [graph_commitText inside]
          exact built.setReferences address _
    case commitColor =>
      intro sheet address color built
      rw [graph_commitColor]
      exact built
  case recalculate =>
    intro sheet address built
    rw [(recalculate_sameInputs sheet address).graph]
    exact built
  case blank =>
    intro sheet _
    exact DependencyGraph.Built.empty
  case noted =>
    intro sheet history modified built
    exact built
  case adopted =>
    intro sheet changes filePath built
    exact built

/-- The graph of a reached sheet has been built by operations on graphs. -/
theorem Reached.built (reached : sheet.Reached) : sheet.graph.Built :=
  keptBySteps_built.of_reached (fun _ _ => DependencyGraph.Built.empty) reached

/-! ## Cascades of a load -/

theorem commitText_listsCells (consistent : sheet.Consistent) (address : Address)
    (text : String) : sheet.ListsCellsOf (sheet.commitText address text).log := by
  cases inside : sheet.cell? address with
  | none =>
      rw [commitText, inside]
      exact ListsCellsOf.empty sheet
  | some cell =>
      have stays := commitText_staysInside consistent.toLinked inside text
      exact stays.cascades.congr (Untouched.commitText sheet address text).dimensions.symm

theorem loadRecord_listsCells (consistent : sheet.Consistent) (pending : PendingRecord) :
    sheet.ListsCellsOf (sheet.loadRecord pending).2 := by
  have colored := consistent.commitColor pending.cell pending.record.color
  have size := dimensions_commitColor sheet pending.cell pending.record.color
  have committed := commitText_listsCells colored pending.cell pending.record.text
  unfold loadRecord
  dsimp only
  split
  · exact committed.congr size.symm
  · exact (committed.congr size.symm).push fun _ _ => LogEvent.noConfusion

/-- A pass that has met only cells of the sheet in its cascades goes on like that. -/
theorem loadPass_listsCells (pending : List PendingRecord) (pass : LoadPass)
    (before : pass.sheet.Consistent ∧ pass.sheet.dimensions = start.dimensions)
    (logged : start.ListsCellsOf pass.log) :
    start.ListsCellsOf (pending.foldl LoadPass.step pass).log := by
  induction pending generalizing pass with
  | nil => exact logged
  | cons first pending ih =>
      obtain ⟨sheet, waiting, deferred, log⟩ := pass
      rw [List.foldl_cons, LoadPass.step]
      split
      · exact ih _ before logged
      · have lists := loadRecord_listsCells before.1 first
        exact ih _ ((keptBySteps_dimensions start.dimensions).loadRecord first before)
          (logged.append (lists.congr before.2.symm))

theorem stallEvents_listsCells (waiting : Std.HashSet Address) (left : List PendingRecord) :
    start.ListsCellsOf (stallEvents waiting left) := by
  unfold stallEvents
  split
  · exact ListsCellsOf.empty start
  · split
    · exact ListsCellsOf.empty start
    · exact (ListsCellsOf.empty start).push fun _ _ => LogEvent.noConfusion

theorem loadPasses_listsCells (waiting : Std.HashSet Address) (log : Array LogEvent)
    (number : Nat) (pending : List PendingRecord)
    (before : sheet.Consistent ∧ sheet.dimensions = start.dimensions)
    (logged : start.ListsCellsOf log) :
    start.ListsCellsOf (sheet.loadPasses waiting log number pending).log := by
  induction sheet, waiting, log, number, pending using Sheet.loadPasses.induct with
  | case1 sheet waiting log number pending empty =>
      rw [loadPasses, if_pos empty]
      exact logged
  | case2 sheet waiting log number pending some pass deferred log' shorter ih =>
      rw [loadPasses, if_neg some]
      dsimp only
      rw [dif_pos shorter]
      apply ih ((keptBySteps_dimensions start.dimensions).loadPass pending _ before)
      exact (loadPass_listsCells pending _ before logged).push fun _ _ => LogEvent.noConfusion
  | case3 sheet waiting log number pending some pass deferred stalled =>
      rw [loadPasses, if_neg some]
      dsimp only
      rw [dif_neg stalled]
      have passed := loadPass_listsCells pending ⟨sheet, waiting, [], log⟩ before logged
      exact (passed.push fun _ _ => LogEvent.noConfusion).append (stallEvents_listsCells _ _)

/-- The cascades of a load meet only cells of the sheet. -/
theorem loadRecords_listsCells (operators : sheet.operators = OperatorTable.arithmetic)
    (records : List Record) : sheet.ListsCellsOf (sheet.loadRecords records).log := by
  have fresh : sheet.fresh.Consistent ∧ sheet.fresh.dimensions = sheet.dimensions := by
    rw [fresh_eq_blank operators]
    exact ⟨consistent_blank _ _, rfl⟩
  have filled : sheet.ListsCellsOf (sheet.fresh.fill records).log := by
    rw [fill]
    split
    · exact ListsCellsOf.empty sheet
    · exact loadPasses_listsCells _ _ _ _ fresh (ListsCellsOf.empty sheet)
  rw [loadRecords]
  dsimp only
  split <;> exact filled

/-- Preparing records fails because of a cell outside only if there is a record for it. -/
theorem exists_record_of_prepare {number : Nat} {records : List Record}
    (failed : start.prepare number records = .error (.outsideGrid address)) :
    ∃ record ∈ records, record.address = .ok address := by
  induction records generalizing number with
  | nil => cases failed
  | cons record records ih =>
      rw [prepare] at failed
      split at failed
      · cases failed
      · next cell found =>
        split at failed
        · have same := outsideGrid_inj (Except.error.inj failed)
          subst same
          exact ⟨record, List.mem_cons_self, found⟩
        · split at failed
          · next fault failedLater =>
              rw [Except.error.inj failed] at failedLater
              obtain ⟨other, member, there⟩ := ih failedLater
              exact ⟨other, List.mem_cons_of_mem _ member, there⟩
          · cases failed

/-- A load fails because of a cell outside only if there is a record for it. -/
theorem exists_record_of_loadRecords {records : List Record}
    (failed : (sheet.loadRecords records).result = .error (.outsideGrid address)) :
    ∃ record ∈ records, record.address = .ok address := by
  cases prepared : sheet.fresh.prepare 1 records with
  | error fault =>
      rw [loadRecords_result, fill, prepared] at failed
      rw [Except.error.inj failed] at prepared
      exact exists_record_of_prepare prepared
  | ok all =>
      cases loadRecords_concluded prepared with
      | loaded succeeds ready entered =>
          rw [succeeds] at failed
          cases failed
      | stalled _ fails =>
          rw [fails] at failed
          cases failed

/-! ## Reached sheets -/

theorem referencesOf_text (cell : Cell) :
    Cell.referencesOf cell.text = (cell.formula?.map References.inText).getD [] := by
  rw [Cell.referencesOf, Cell.formula?]
  cases Cell.formulaOf? cell.text.toList <;> rfl

/-- The graph of a reached sheet mirrors the texts: a cell reads the cells that its formula
names, in their order, and the readers of a cell are the cells that read it.  No list has a
repetition, and no cell outside of the sheet is a reader.  So the cascades of all operations
meet only cells of the sheet, and an operation fails because of a cell outside of it only if
the operation itself names that cell. -/
theorem mirrors_texts_of_reached (reached : sheet.Reached) :
    (∀ address cell, sheet.cell? address = some cell →
      sheet.graph.precedentsOf address = (cell.formula?.map References.inText).getD []) ∧
    (∀ referenced dependent, dependent ∈ sheet.graph.dependentsOf referenced ↔
      referenced ∈ sheet.graph.precedentsOf dependent) ∧
    (∀ address, (sheet.graph.precedentsOf address).Nodup ∧
      (sheet.graph.dependentsOf address).Nodup) ∧
    (∀ referenced, ∀ dependent ∈ sheet.graph.dependentsOf referenced,
      sheet.contains dependent = true) ∧
    ∀ action, sheet.ListsCellsOf (sheet.act action).log ∧
      ∀ cell, sheet.contains cell = false →
        (sheet.act action).result = .error (.outsideGrid cell) → action.Names cell := by
  have consistent := reached.consistent
  have unrepeated := reached.built.unrepeated
  refine ⟨?_, consistent.mirrored, ?_, ?_, ?_⟩
  · intro address cell inside
    rw [consistent.precedents, references_of_cell? inside, referencesOf_text]
  · intro address
    exact ⟨unrepeated.precedents address, unrepeated.dependents address⟩
  · intro referenced dependent feeds
    exact contains_of_reads ((consistent.feeds_iff referenced dependent).1 feeds)
  · intro action
    cases replaces : action.replacesAll with
    | false => exact (reached.inUse.effect replaces).inside consistent
    | true =>
        cases action with
        | reset => exact ⟨ListsCellsOf.empty sheet, fun _ _ => nofun⟩
        | loadRecords records =>
            exact ⟨loadRecords_listsCells consistent.operators records,
              fun _ _ => exists_record_of_loadRecords⟩
        | _ => cases replaces

/-- A formula that names a cell twice is an example. -/
theorem mirrors_texts_of_repeated_reference :
    ∃ sheet, sheet = (blank 1 2).perform (.setText ⟨0, 0⟩ "=B1+B1") ∧ Reached sheet ∧
      sheet.graph.precedentsOf ⟨0, 0⟩ = [⟨0, 1⟩] ∧
      ⟨0, 0⟩ ∈ sheet.graph.dependentsOf ⟨0, 1⟩ := by
  have start : (blank 1 2).Reached := reached_blank (by decide)
  have reached := start.performed (.setText ⟨0, 0⟩ "=B1+B1")
  have texts := start.text_setText ⟨0, 0⟩ rfl "=B1+B1"
  change ∀ other, (((blank 1 2).perform (.setText ⟨0, 0⟩ "=B1+B1")).cell? other).map Cell.text = _
    at texts
  generalize edited : (blank 1 2).perform (.setText ⟨0, 0⟩ "=B1+B1") = sheet at reached texts
  obtain ⟨cell, inside, text⟩ := Option.map_eq_some_iff.1 ((texts ⟨0, 0⟩).trans (if_pos rfl))
  have mirrors := mirrors_texts_of_reached reached
  have reads : sheet.graph.precedentsOf ⟨0, 0⟩ = [⟨0, 1⟩] := by
    rw [mirrors.1 ⟨0, 0⟩ cell inside, Cell.formula?, text]
    decide +kernel
  refine ⟨sheet, rfl, reached, reads, ?_⟩
  rw [mirrors.2.1, reads]
  exact List.mem_cons_self

end Worksheet.Sheet
