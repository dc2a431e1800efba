import Worksheet.Proofs.Dependency.Planning
import Worksheet.Proofs.Sheet.Completing
import Worksheet.Proofs.Sheet.Confining

/-!
# The cause of a failure

When cells of a cascade end with an error, the commit reports the first of them.  The committed
cell comes first in the cascade, and every other cell comes after the cells that it reads,
unless these lead back to it.  So the reported cell is a cause and not a consequence: if it
depends on another cell that ends with an error, the two are on a common cycle.
-/

namespace Worksheet

namespace Cell

theorem finish_error_of_fault (cell : Cell) {evaluation : Sheet.Evaluation} {fault : SheetError}
    (failed : evaluation.fault? = some fault) :
    (cell.finish evaluation.outcome).error = some fault.cellError := by
  rcases evaluation with ⟨address, other | value⟩
  · cases failed
    rfl
  · cases failed

end Cell

namespace Sheet

variable {sheet : Sheet} {root address : Address} {cell : Cell} {fault : SheetError}

/-- The fault of a commit is about a cell of its cascade, and not about a consequence of what has
gone wrong elsewhere. -/
structure RootCause (after : Sheet) (root : Address) (fault : SheetError) (cause : Address) :
    Prop where
  about : fault.cell? = some cause
  depends : after.DependsOn cause root
  shown : ∃ cell, after.cell? cause = some cell ∧ cell.error = some fault.cellError
  /-- The committed cell is blamed if it has failed itself. -/
  own : ∀ cell, after.cell? root = some cell → cell.error ≠ none → cause = root
  /-- The blamed cell depends on no other failed cell, unless both are on a common cycle. -/
  first : ∀ other cell, other ≠ cause → after.DependsOn other root →
    after.DependsOn cause other → after.cell? other = some cell → cell.error ≠ none →
      OnCommonCycle after.Reads cause other

/-! ## The first fault of a cascade -/

theorem Linked.head?_planFrom (linked : sheet.Linked) (root : Address) :
    (sheet.planFrom root).1.order.head? = some root :=
  Cascade.head?_order (linked.isEvaluating_hold_iff root) rfl

section

variable (linked : sheet.Linked) (inside : sheet.contains root = true)
include linked inside

/-- A cell that ends with an error is one whose evaluation has failed. -/
theorem exists_fault_of_error (reaches : sheet.graph.Reaches root address)
    (present : (sheet.recalculate root).sheet.cell? address = some cell)
    (failed : cell.error ≠ none) :
    ∃ evaluation ∈ (sheet.guardedFrom root).evaluations (sheet.planFrom root).1.steps,
      evaluation.cell = address ∧ evaluation.fault? ≠ none := by
  obtain ⟨evaluation, member, rfl⟩ := linked.exists_evaluation_iff.2 reaches
  obtain ⟨before, left⟩ := exists_finish_of_recalculate linked inside member
  rw [left] at present
  cases present
  rw [ne_eq, before.finish_error_eq_none_iff] at failed
  exact ⟨evaluation, member, rfl, failed⟩

/-- The fault of a recalculation is that of the first cell in its order that ends with an
error. -/
theorem exists_first_of_recalculate_error
    (failed : (sheet.recalculate root).result = .error fault) :
    ∃ earlier cause later cell,
      (sheet.planFrom root).1.order = earlier ++ cause :: later ∧ fault.cell? = some cause ∧
      (sheet.recalculate root).sheet.cell? cause = some cell ∧
      cell.error = some fault.cellError ∧
      ∀ other seen, sheet.graph.Reaches root other →
        (sheet.recalculate root).sheet.cell? other = some seen → seen.error ≠ none →
          other ∈ cause :: later := by
  rw [recalculate_result linked inside, Evaluation.firstFault] at failed
  split at failed
  · next first found =>
      cases failed
      obtain ⟨earlier, evaluation, later, split, fails, faultless⟩ :=
        List.findSome?_eq_some_iff.1 found
      have member : evaluation ∈
          (sheet.guardedFrom root).evaluations (sheet.planFrom root).1.steps := by
        rw [split]
        exact List.mem_append_right _ List.mem_cons_self
      obtain ⟨before, left⟩ := exists_finish_of_recalculate linked inside member
      refine ⟨earlier.map Evaluation.cell, evaluation.cell, later.map Evaluation.cell, _, ?_,
        fault_of_evaluations member fails, left, before.finish_error_of_fault fails, ?_⟩
      · rw [← Cascade.steps_map_fst, ← map_cell_evaluations (sheet.guardedFrom root), split,
          List.map_append, List.map_cons]
      · intro other seen reaches present faulty
        obtain ⟨evaluation', member', rfl, fails'⟩ :=
          exists_fault_of_error linked inside reaches present faulty
        rw [split] at member'
        rcases List.mem_append.1 member' with early | late
        · exact absurd (faultless evaluation' early) fails'
        · exact List.mem_map_of_mem late
  · cases failed

/-- The fault of a recalculation is about a root cause. -/
theorem exists_rootCause_of_recalculate
    (failed : (sheet.recalculate root).result = .error fault) :
    ∃ cause, RootCause (sheet.recalculate root).sheet root fault cause := by
  have inputs := recalculate_sameInputs sheet root
  have plans := linked.plans root
  obtain ⟨earlier, cause, later, cell, split, about, present, error, fromCause⟩ :=
    exists_first_of_recalculate_error linked inside failed
  have reaches : ∀ source reader, (sheet.recalculate root).sheet.DependsOn reader source ↔
      sheet.graph.Reaches source reader := by
    intro source reader
    rw [inputs.dependsOn, linked.reaches_iff_dependsOn]
  have ordered := plans.ordered
  have distinct := plans.distinct
  have starts := linked.head?_planFrom root
  rw [split] at ordered distinct starts
  refine ⟨cause, about, ?_, ⟨cell, present, error⟩, ?_, ?_⟩
  · rw [reaches, ← plans.mem_order, split]
    exact List.mem_append_right _ List.mem_cons_self
  · intro own there faulty
    have notEarlier := fromCause root own .refl there faulty
    cases earlier with
    | nil => exact Option.some.inj starts
    | cons first earlier =>
        obtain rfl : first = root := Option.some.inj starts
        exact absurd rfl ((List.nodup_append.1 distinct).2.2 first List.mem_cons_self _ notEarlier)
  · intro other seen apart behind leads there faulty
    rw [reaches] at behind leads
    have notEarlier := fromCause other seen behind there faulty
    rcases List.mem_cons.1 notEarlier with same | later'
    · exact absurd same apart
    · have back := List.rel_of_pairwise_cons (List.pairwise_append.1 ordered).2.1 later' leads
      rw [onCommonCycle_iff_mutual apart]
      exact ⟨(reaches other cause).2 leads, (reaches cause other).2 back⟩

end

/-! ## Committing a text -/

theorem exists_rootCause_of_commitText (linked : sheet.Linked)
    (present : sheet.cell? address = some cell) {text : String}
    (failed : (sheet.commitText address text).result = .error fault) :
    ∃ cause, RootCause (sheet.commitText address text).sheet address fault cause := by
  rw [commitText_result present] at failed
  rw [commitText_sheet present]
  exact exists_rootCause_of_recalculate (linked_withTextLinked linked present text)
    (contains_withTextLinked present text) failed

/-- Whether the edit is recorded makes no difference to what is committed. -/
theorem Linked.exists_commitText (linked : sheet.Linked)
    (present : sheet.cell? address = some cell) (text : String) :
    ∃ start : Sheet, start.Linked ∧ start.cell? address = some cell ∧
      sheet.setText address text = start.commitText address text := by
  rw [setText_inside present]
  split
  · exact ⟨sheet, linked, present, rfl⟩
  · exact ⟨_, linked.record _, present, rfl⟩

/-- Giving a cell of a sheet in use a text succeeds exactly if neither this cell nor one that
depends on it ends with an error.  Otherwise the reported fault is about a root cause: one of
these cells, which shows the fault, and which is the cell itself if that has failed.  If the
root cause depends on another one of these cells that ends with an error, a reference cycle
leads through both. -/
theorem root_cause_of_inUse (used : sheet.InUse) (inside : sheet.contains address = true)
    (text : String) :
    let outcome := sheet.setText address text
    (outcome.result = .ok () ↔ ∀ other cell, outcome.sheet.DependsOn other address →
      outcome.sheet.cell? other = some cell → cell.error = none) ∧
    ∀ fault, outcome.result = .error fault →
      ∃ cause, RootCause outcome.sheet address fault cause := by
  intro outcome
  have after : outcome.sheet.Linked :=
    (used.operated (.action (.setText address text))).consistent.toLinked
  obtain ⟨cell, present⟩ := exists_cell?_of_contains inside
  obtain ⟨start, linked, there, same⟩ := used.consistent.toLinked.exists_commitText present text
  have committed : outcome = start.commitText address text := same
  simp only [← after.reaches_iff_dependsOn]
  rw [committed]
  refine ⟨commitText_result_eq_ok_iff linked there text, ?_⟩
  intro fault failed
  exact exists_rootCause_of_commitText linked there failed

/-- A cell that comes to read itself while another one reads it is an example: the fault is about
the cell that reads itself. -/
theorem root_cause_of_selfReference :
    ∃ sheet outcome fault, sheet = (blank 1 2).perform (.setText ⟨0, 1⟩ "=A1") ∧ InUse sheet ∧
      sheet.contains ⟨0, 0⟩ = true ∧ outcome = sheet.setText ⟨0, 0⟩ "=A1" ∧
      outcome.sheet.DependsOn ⟨0, 1⟩ ⟨0, 0⟩ ∧ outcome.result = .error fault ∧
      fault.cell? = some ⟨0, 0⟩ ∧ fault.cellError = .selfReference := by
  have start : (blank 1 2).Reached := reached_blank (by decide)
  have reached := start.performed (.setText ⟨0, 1⟩ "=A1")
  have twice := reached.performed (.setText ⟨0, 0⟩ "=A1")
  have apart : (⟨0, 1⟩ : Address) ≠ ⟨0, 0⟩ := by decide
  have texts := start.twoTexts apart rfl rfl "=A1" "=A1"
  have inside : ((blank 1 2).perform (.setText ⟨0, 1⟩ "=A1")).contains ⟨0, 0⟩ = true :=
    (contains_congr (start.dimensions_perform (.setText ⟨0, 1⟩ "=A1")) ⟨0, 0⟩).trans rfl
  generalize (blank 1 2).perform (.setText ⟨0, 1⟩ "=A1") = sheet at reached twice texts inside
  obtain ⟨succeeds, blamed⟩ := root_cause_of_inUse reached.inUse inside "=A1"
  change (sheet.setText ⟨0, 0⟩ "=A1").sheet.Reached at twice
  change TwoTexts (sheet.setText ⟨0, 0⟩ "=A1").sheet ⟨0, 1⟩ ⟨0, 0⟩ _ _ at texts
  generalize edited : sheet.setText ⟨0, 0⟩ "=A1" = outcome at twice texts succeeds blamed
  obtain ⟨cell, present, text⟩ := texts.swap.exists_first
  have formula : cell.formula? = some "A1".toList := by
    rw [Cell.formula?, text]
    decide
  obtain ⟨-, marked⟩ := twice.consistent.shows_selfReference present formula (by decide +kernel)
  have depends : outcome.sheet.DependsOn ⟨0, 1⟩ ⟨0, 0⟩ :=
    .single (texts.reads_first_iff.2 (by decide +kernel))
  cases result : outcome.result with
  | ok _ => cases marked.symm.trans (succeeds.1 result ⟨0, 0⟩ cell .refl present)
  | error fault =>
      obtain ⟨cause, blame⟩ := blamed fault result
      obtain rfl := blame.own cell present (by rw [marked]; exact Option.some_ne_none _)
      obtain ⟨same, there, shown⟩ := blame.shown
      cases present.symm.trans there
      exact ⟨sheet, outcome, fault, rfl, reached.inUse, inside, edited.symm, depends, result,
        blame.about, Option.some.inj (shown.symm.trans marked)⟩

end Sheet

end Worksheet
