import Worksheet.Proofs.Sheet.Locating
import Worksheet.Proofs.Sheet.Recalculating

/-!
# The cells of a recalculation

The cells that can be reached from a cell of the sheet are cells of the sheet, and a
recalculation evaluates each of them once.  It goes on after a failure, so in the end each of
them is as its evaluation has left it, and the log reports it.  The recalculation fails exactly
if one of them ends with an error, and the fault that it reports is about one of them.
-/

namespace Worksheet

namespace Cell

/-- The cell is as an evaluation leaves it: it has a value, or an error and its marker. -/
def Finished (cell : Cell) : Prop :=
  (cell.state = .settled ∧ cell.error = none) ∨
    ∃ error, cell.state = .errored ∧ cell.error = some error ∧ cell.value = error.marker

theorem finish_finished (cell : Cell) (outcome : Except SheetError String) :
    (cell.finish outcome).Finished := by
  cases outcome with
  | ok value => exact .inl ⟨rfl, rfl⟩
  | error fault => exact .inr ⟨fault.cellError, rfl, rfl, rfl⟩

theorem finish_value (cell : Cell) (evaluation : Sheet.Evaluation) :
    (cell.finish evaluation.outcome).value = evaluation.shown := by
  rcases evaluation with ⟨address, value | fault⟩ <;> rfl

theorem finish_error_eq_none_iff (cell : Cell) (evaluation : Sheet.Evaluation) :
    (cell.finish evaluation.outcome).error = none ↔ evaluation.fault? = none := by
  rcases evaluation with ⟨address, fault | value⟩
  · exact iff_of_false (Option.some_ne_none _) (Option.some_ne_none _)
  · exact iff_of_true rfl rfl

end Cell

/-- In the course of an operation a cell has been evaluated, and it is still as its evaluation
has left it. -/
def Outcome.Evaluated (outcome : Outcome) (address : Address) : Prop :=
  ∃ cell, outcome.sheet.cell? address = some cell ∧ cell.Finished ∧
    LogEvent.evaluated address cell.value ∈ outcome.log

/-- The cascades in a log list only cells of a sheet. -/
def Sheet.ListsCellsOf (sheet : Sheet) (log : Array LogEvent) : Prop :=
  ∀ root order, LogEvent.cascade root order ∈ log → ∀ cell ∈ order, sheet.contains cell = true

/-- The cascades of an operation meet only cells of the sheet, and the operation has not failed
because of a cell outside of it. -/
structure Outcome.StaysInside (outcome : Outcome) : Prop where
  cascades : outcome.sheet.ListsCellsOf outcome.log
  fault : ∀ cell, outcome.sheet.contains cell = false →
    outcome.result ≠ .error (.outsideGrid cell)

namespace Sheet

variable {sheet : Sheet} {root address : Address} {steps : List (Address × Bool)}

/-! ## Evaluations -/

/-- The evaluations of some steps, each in the sheet that the ones before it have left. -/
def evaluations (sheet : Sheet) : List (Address × Bool) → List Evaluation
  | [] => []
  | (address, onCycle) :: rest =>
      (sheet.evaluateCell address onCycle).2 ::
        (sheet.evaluateCell address onCycle).1.evaluations rest

theorem evaluateFrom_snd (sheet : Sheet) (done : List Evaluation)
    (steps : List (Address × Bool)) :
    (evaluateFrom sheet done steps).2 = done.reverse ++ sheet.evaluations steps := by
  induction steps generalizing sheet done with
  | nil => exact (List.append_nil _).symm
  | cons step steps ih =>
      apply (ih _ _).trans
      rw [List.reverse_cons, List.append_assoc]
      rfl

theorem evaluateCell_snd {cell : Cell} (inside : sheet.cell? address = some cell)
    (onCycle : Bool) :
    (sheet.evaluateCell address onCycle).2 =
      ⟨address, (sheet.setCell address cell.evaluating).compute address onCycle⟩ := by
  simp [evaluateCell, inside]

theorem evaluateCell_cell (sheet : Sheet) (address : Address) (onCycle : Bool) :
    (sheet.evaluateCell address onCycle).2.cell = address := by
  cases inside : sheet.cell? address with
  | none => simp [evaluateCell, inside]
  | some cell => rw [evaluateCell_snd inside]

/-- The evaluations are those of the cells of the steps, in order. -/
theorem map_cell_evaluations (sheet : Sheet) (steps : List (Address × Bool)) :
    (sheet.evaluations steps).map Evaluation.cell = steps.map Prod.fst := by
  induction steps generalizing sheet with
  | nil => rfl
  | cons step steps ih =>
      rw [evaluations, List.map_cons, List.map_cons, evaluateCell_cell, ih]

/-- If every cell has only one turn, it ends as its evaluation has left it. -/
theorem exists_finish_of_evaluations (distinct : (steps.map Prod.fst).Nodup)
    (inside : ∀ cell ∈ steps.map Prod.fst, sheet.contains cell = true) {evaluation : Evaluation}
    (member : evaluation ∈ sheet.evaluations steps) :
    ∃ cell : Cell, (sheet.evaluateAll steps).cell? evaluation.cell =
      some (cell.finish evaluation.outcome) := by
  induction steps generalizing sheet with
  | nil => exact absurd member List.not_mem_nil
  | cons step steps ih =>
      rw [List.map_cons, List.nodup_cons] at distinct
      rw [List.map_cons, List.forall_mem_cons] at inside
      rw [evaluations, List.mem_cons] at member
      rcases member with rfl | later
      · obtain ⟨cell, present⟩ := exists_cell?_of_contains inside.1
        rw [evaluateCell_snd present]
        refine ⟨cell, (cell?_evaluateAll_of_notMem distinct.1 _).trans ?_⟩
        exact (cell?_evaluateCell present step.2 step.1).trans (if_pos rfl)
      · apply ih distinct.2 _ later
        intro cell member
        have same := (evaluateCell_sameInputs sheet step.1 step.2).dimensions
        rw [contains_congr same]
        exact inside.2 cell member

theorem fault_of_evaluations {evaluation : Evaluation} {fault : SheetError}
    (member : evaluation ∈ sheet.evaluations steps) (failed : evaluation.fault? = some fault) :
    fault.cell? = some evaluation.cell := by
  induction steps generalizing sheet with
  | nil => exact absurd member List.not_mem_nil
  | cons step steps ih =>
      rw [evaluations, List.mem_cons] at member
      rcases member with rfl | later
      · rw [evaluateCell_cell]
        exact cell?_of_evaluateCell failed
      · exact ih later

theorem firstFault_eq_ok_iff {evaluations : List Evaluation} :
    Evaluation.firstFault evaluations = .ok () ↔
      ∀ evaluation ∈ evaluations, evaluation.fault? = none := by
  rw [← List.findSome?_eq_none_iff, Evaluation.firstFault]
  cases evaluations.findSome? Evaluation.fault? <;> simp

/-! ## Reached cells -/

/-- What can be reached from a cell of the sheet are cells of the sheet. -/
theorem Linked.contains_of_reaches (linked : sheet.Linked) (inside : sheet.contains root = true)
    (reaches : sheet.graph.Reaches root address) : sheet.contains address = true := by
  cases reaches with
  | refl => exact inside
  | tail _ feeds => exact contains_of_reads ((linked.feeds_iff _ _).1 feeds)

theorem Linked.mem_steps_planFrom (linked : sheet.Linked) (root cell : Address) :
    cell ∈ (sheet.planFrom root).1.steps.map Prod.fst ↔ sheet.graph.Reaches root cell := by
  rw [Cascade.steps_map_fst]
  exact (linked.plans root).mem_order cell

theorem Linked.nodup_steps_planFrom (linked : sheet.Linked) (root : Address) :
    ((sheet.planFrom root).1.steps.map Prod.fst).Nodup := by
  rw [Cascade.steps_map_fst]
  exact (linked.plans root).distinct

/-- The evaluations of a recalculation are those of the cells that can be reached. -/
theorem Linked.exists_evaluation_iff (linked : sheet.Linked) :
    (∃ evaluation ∈ (sheet.guardedFrom root).evaluations (sheet.planFrom root).1.steps,
      evaluation.cell = address) ↔ sheet.graph.Reaches root address := by
  rw [← List.mem_map, map_cell_evaluations]
  exact linked.mem_steps_planFrom root address

/-! ## Recalculating -/

section

variable (linked : sheet.Linked) (inside : sheet.contains root = true)
include linked inside

theorem exists_finish_of_recalculate {evaluation : Evaluation}
    (member : evaluation ∈
      (sheet.guardedFrom root).evaluations (sheet.planFrom root).1.steps) :
    ∃ cell : Cell, (sheet.recalculate root).sheet.cell? evaluation.cell =
      some (cell.finish evaluation.outcome) := by
  rw [recalculate_sheet inside (linked.idle root)]
  apply exists_finish_of_evaluations (linked.nodup_steps_planFrom root) _ member
  intro cell member
  exact linked.contains_of_reaches inside ((linked.mem_steps_planFrom root cell).1 member)

theorem recalculate_result :
    (sheet.recalculate root).result = Evaluation.firstFault
      ((sheet.guardedFrom root).evaluations (sheet.planFrom root).1.steps) := by
  rw [recalculate_eq inside (linked.idle root)]
  simp only [evaluateFrom_snd, List.reverse_nil, List.nil_append]

theorem mem_log_recalculate {event : LogEvent} :
    event ∈ (sheet.recalculate root).log ↔
      event = .cascade root (sheet.planFrom root).1.order ∨
      ∃ evaluation ∈ (sheet.guardedFrom root).evaluations (sheet.planFrom root).1.steps,
        event ∈ evaluation.events := by
  rw [recalculate_eq inside (linked.idle root)]
  simp only [evaluateFrom_snd, List.reverse_nil, List.nil_append, List.mem_toArray, List.mem_cons,
    List.mem_flatMap]

/-- Every cell that can be reached has been evaluated in the end. -/
theorem evaluated_of_reaches (reaches : sheet.graph.Reaches root address) :
    (sheet.recalculate root).Evaluated address := by
  obtain ⟨evaluation, member, rfl⟩ := linked.exists_evaluation_iff.2 reaches
  obtain ⟨cell, left⟩ := exists_finish_of_recalculate linked inside member
  refine ⟨_, left, cell.finish_finished _, ?_⟩
  rw [mem_log_recalculate linked inside, cell.finish_value]
  exact .inr ⟨evaluation, member, List.mem_cons_self⟩

/-- A recalculation succeeds exactly if no cell that can be reached ends with an error. -/
theorem recalculate_result_eq_ok_iff :
    (sheet.recalculate root).result = .ok () ↔
      ∀ address cell, sheet.graph.Reaches root address →
        (sheet.recalculate root).sheet.cell? address = some cell → cell.error = none := by
  rw [recalculate_result linked inside, firstFault_eq_ok_iff]
  constructor
  · intro faultless address now reaches present
    obtain ⟨evaluation, member, rfl⟩ := linked.exists_evaluation_iff.2 reaches
    obtain ⟨cell, left⟩ := exists_finish_of_recalculate linked inside member
    rw [left] at present
    cases present
    exact (cell.finish_error_eq_none_iff evaluation).2 (faultless evaluation member)
  · intro faultless evaluation member
    obtain ⟨cell, left⟩ := exists_finish_of_recalculate linked inside member
    rw [← cell.finish_error_eq_none_iff]
    exact faultless _ _ (linked.exists_evaluation_iff.1 ⟨evaluation, member, rfl⟩) left

/-- The fault of a recalculation is about a cell that can be reached. -/
theorem reaches_of_recalculate_error {fault : SheetError}
    (failed : (sheet.recalculate root).result = .error fault) :
    ∃ cell, fault.cell? = some cell ∧ sheet.graph.Reaches root cell := by
  rw [recalculate_result linked inside, Evaluation.firstFault] at failed
  split at failed
  · next first found =>
      cases failed
      obtain ⟨evaluation, member, failed⟩ := List.exists_of_findSome?_eq_some found
      exact ⟨evaluation.cell, fault_of_evaluations member failed,
        linked.exists_evaluation_iff.1 ⟨evaluation, member, rfl⟩⟩
  · cases failed

/-- A recalculation that starts at a cell of the sheet meets only cells of the sheet. -/
theorem recalculate_staysInside : (sheet.recalculate root).StaysInside := by
  have size := (recalculate_sameInputs sheet root).dimensions
  constructor
  case cascades =>
    intro start order logged cell listed
    rw [contains_congr size]
    rw [mem_log_recalculate linked inside] at logged
    rcases logged with planned | ⟨evaluation, _, reported⟩
    · cases planned
      rw [(linked.plans root).mem_order] at listed
      exact linked.contains_of_reaches inside listed
    · -- An evaluation reports its value and perhaps a failure, but no cascade.
      simp [Evaluation.events] at reported
  case fault =>
    intro cell outside failed
    obtain ⟨reached, about, reaches⟩ := reaches_of_recalculate_error linked inside failed
    cases about
    rw [contains_congr size, linked.contains_of_reaches inside reaches] at outside
    cases outside

end

end Sheet

end Worksheet
