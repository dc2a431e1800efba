import Worksheet.Proofs.Sheet.Reading
import Worksheet.Sheet.Editing

/-!
# Faults of editing are about cells

A recalculation reports the first fault of an evaluation, and that is about the evaluated
cell.  Apart from it, a recalculation and an edit fail only because of the cell that they
are for.  So every fault that is reported when edits are made or made again is about some
cell.
-/

namespace Worksheet

/-- If an operation has failed, the fault is about a cell. -/
def Outcome.Located (outcome : Outcome) : Prop :=
  ∀ fault, outcome.result = .error fault → fault.cell?.isSome = true

namespace Outcome.Located

theorem success (sheet : Sheet) : (Outcome.success sheet).Located := by
  rintro fault ⟨⟩

theorem outsideGrid (sheet : Sheet) (address : Address) :
    (Outcome.failure sheet (.outsideGrid address)).Located := by
  rintro fault ⟨⟩
  rfl

theorem andAlso {first : Outcome} {next : Sheet → Outcome} (before : first.Located)
    (after : (next first.sheet).Located) : (first.andAlso next).Located := by
  intro fault failed
  rw [Outcome.andAlso] at failed
  dsimp only at failed
  split at failed
  · next fault' failedBefore =>
      cases failed
      exact before fault failedBefore
  · exact after fault failed

end Outcome.Located

namespace Sheet

variable {sheet : Sheet} {address : Address}

theorem cell?_of_evaluateCell {onCycle : Bool} {fault : SheetError}
    (failed : (sheet.evaluateCell address onCycle).2.fault? = some fault) :
    fault.cell? = some address := by
  rw [evaluateCell] at failed
  split at failed
  · cases failed
    rfl
  · rw [Evaluation.fault?] at failed
    dsimp only at failed
    split at failed
    · cases failed
    · next fault' computed =>
        cases failed
        exact cell?_of_compute computed

theorem located_of_evaluateFrom {done : List Evaluation}
    (before : ∀ evaluation ∈ done, ∀ fault, evaluation.fault? = some fault →
      fault.cell?.isSome = true) (steps : List (Address × Bool)) :
    ∀ evaluation ∈ (evaluateFrom sheet done steps).2, ∀ fault,
      evaluation.fault? = some fault → fault.cell?.isSome = true := by
  induction steps generalizing sheet done with
  | nil =>
      intro evaluation member
      exact before evaluation (List.mem_reverse.1 member)
  | cons step steps ih =>
      apply ih
      rw [List.forall_mem_cons]
      constructor
      · intro fault failed
        rw [cell?_of_evaluateCell failed]
        rfl
      · exact before

theorem recalculate_located (sheet : Sheet) (root : Address) :
    (sheet.recalculate root).Located := by
  rw [recalculate]
  split
  · exact Outcome.Located.outsideGrid sheet root
  · split
    · rintro fault ⟨⟩
      rfl
    · intro fault failed
      dsimp only at failed
      unfold Evaluation.firstFault at failed
      split at failed
      · next fault' found =>
          cases failed
          rcases List.exists_of_findSome?_eq_some found with ⟨evaluation, member, failed⟩
          exact located_of_evaluateFrom (by simp) _ evaluation member fault failed
      · cases failed

theorem apply_located (sheet : Sheet) (edit : Edit) : (sheet.apply edit).Located := by
  cases edit with
  | text cell old new =>
      rw [apply, commitText]
      split
      · exact Outcome.Located.outsideGrid sheet cell
      · exact recalculate_located _ cell
  | color cell old new =>
      rw [apply, commitColor]
      split
      · exact Outcome.Located.outsideGrid sheet cell
      · exact Outcome.Located.success _

theorem applyAll_located (sheet : Sheet) (edits : List Edit) : (sheet.applyAll edits).Located := by
  rw [applyAll]
  have start := Outcome.Located.success sheet
  generalize Outcome.success sheet = outcome at start
  induction edits generalizing outcome with
  | nil => exact start
  | cons edit edits ih => exact ih _ (start.andAlso (apply_located _ edit))

end Sheet

end Worksheet
