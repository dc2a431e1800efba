import Worksheet.Proofs.Sheet.Cascading
import Worksheet.Proofs.Sheet.Operation
import Worksheet.Proofs.Sheet.Showing

/-!
# Cells between two operations

While a cell is evaluated its state says so, and while a cascade goes on its cells are in the
guard.  Neither outlasts an operation.  A cascade comes to each of its cells once and leaves
there either a value or an error with its marker.  A committed text is not left unevaluated,
since the cascade starts at its cell, and all other cells are as the operation has found them.

So between two operations every cell is at rest: it is one that was never evaluated, and then
it has neither text nor value, or it has settled, or it shows the marker of its error.
-/

namespace Worksheet

namespace Cell

/-- The cell is not in the middle of an evaluation, and what it shows fits to its state. -/
inductive AtRest (cell : Cell) : Prop
  | idle (state : cell.state = .idle) (text : cell.text = "") (value : cell.value = "")
      (faultless : cell.error = none)
  | settled (state : cell.state = .settled) (faultless : cell.error = none)
  | errored (error : CellError) (state : cell.state = .errored) (shown : cell.error = some error)
      (formula : cell.isFormula = true) (marker : cell.value = error.marker)

theorem blank_atRest : Cell.blank.AtRest :=
  .idle rfl rfl rfl rfl

theorem AtRest.state_ne {cell : Cell} (atRest : cell.AtRest) : cell.state ≠ .evaluating := by
  cases atRest with
  | idle state =>
      rw [state]
      decide
  | settled state =>
      rw [state]
      decide
  | errored error state =>
      rw [state]
      decide

/-- The color of a cell is of no importance. -/
theorem AtRest.withColor {cell : Cell} (atRest : cell.AtRest) (color : Color) :
    AtRest { cell with color } := by
  cases atRest with
  | idle state text value faultless => exact .idle state text value faultless
  | settled state faultless => exact .settled state faultless
  | errored error state shown formula marker => exact .errored error state shown formula marker

theorem formula?_eq_none {cell : Cell} (plain : cell.isFormula = false) :
    cell.formula? = none := by
  rw [isFormula, Option.isSome_eq_false_iff, Option.isNone_iff_eq_none] at plain
  exact plain

end Cell

namespace Sheet

variable {sheet : Sheet} {root address : Address} {cell : Cell}

/-! ## What a cascade leaves behind -/

/-- A cell of a consistent sheet that an evaluation has left is at rest.  If it has an error it
holds a formula, because every other text is its own value. -/
theorem Consistent.atRest_of_finished (consistent : sheet.Consistent)
    (inside : sheet.cell? address = some cell) (finished : cell.Finished) : cell.AtRest := by
  rcases finished with ⟨state, faultless⟩ | ⟨error, state, shown, marker⟩
  · exact .settled state faultless
  · cases formula : cell.isFormula with
    | true => exact .errored error state shown formula marker
    | false =>
        have faultless := (consistent.shows_text inside (Cell.formula?_eq_none formula)).2
        rw [shown] at faultless
        cases faultless

/-- All cells of a consistent sheet are at rest. -/
structure Resting (sheet : Sheet) : Prop extends Consistent sheet where
  atRest : ∀ address cell, sheet.cell? address = some cell → cell.AtRest

/-- A recalculation brings all cells to rest, if those that cannot be reached are at rest. -/
theorem resting_recalculate (linked : sheet.Linked) (inside : sheet.contains root = true)
    (consistent : (sheet.recalculate root).sheet.Consistent)
    (others : ∀ address cell, sheet.cell? address = some cell →
      ¬ sheet.graph.Reaches root address → cell.AtRest) :
    (sheet.recalculate root).sheet.Resting := by
  refine ⟨consistent, ?_⟩
  intro address cell present
  by_cases reached : sheet.graph.Reaches root address
  · obtain ⟨left, there, finished, _⟩ := evaluated_of_reaches linked inside reached
    rw [there] at present
    cases present
    exact consistent.atRest_of_finished there finished
  · obtain ⟨steps, recalculated⟩ := recalculate_recalculated linked inside
    rw [recalculated.cell?_of_unreached reached] at present
    exact others address cell present reached

namespace Resting

theorem blank (rows columns : Nat) : (Sheet.blank rows columns).Resting := by
  refine ⟨consistent_blank rows columns, ?_⟩
  intro address cell present
  have found := (Grid.get?_filled rows columns _ address).symm.trans present
  split at found
  · cases found
    exact Cell.blank_atRest
  · cases found

theorem recalculate (resting : sheet.Resting) (address : Address) :
    (sheet.recalculate address).sheet.Resting := by
  cases inside : sheet.contains address with
  | true =>
      apply resting_recalculate resting.toLinked inside (resting.toConsistent.recalculate address)
      exact fun other cell present _ => resting.atRest other cell present
  | false =>
      rw [Sheet.recalculate, inside]
      exact resting

/-- The cell of a committed text is the first of its cascade, so no text is left without an
evaluation. -/
theorem commitText (resting : sheet.Resting) (address : Address) (text : String) :
    (sheet.commitText address text).sheet.Resting := by
  have consistent := resting.toConsistent.commitText address text
  cases inside : sheet.cell? address with
  | none =>
      rw [commitText_outside inside]
      exact resting
  | some cell =>
      rw [commitText_sheet inside] at consistent ⊢
      apply resting_recalculate (linked_withTextLinked resting.toLinked inside text)
        (contains_withTextLinked inside text) consistent
      intro other seen present unreached
      rw [cell?_withTextLinked inside, if_neg] at present
      · exact resting.atRest other seen present
      · rintro rfl
        exact unreached .refl

theorem commitColor (resting : sheet.Resting) (address : Address) (color : Color) :
    (sheet.commitColor address color).sheet.Resting := by
  refine ⟨resting.toConsistent.commitColor address color, ?_⟩
  intro other seen present
  cases inside : sheet.cell? address with
  | none =>
      rw [commitColor_outside inside] at present
      exact resting.atRest other seen present
  | some cell =>
      rw [commitColor_sheet inside] at present
      have found := (cell?_setCell inside { cell with color } other).symm.trans present
      split at found
      · cases found
        exact (resting.atRest address cell inside).withColor color
      · exact resting.atRest other seen found

end Resting

theorem keptBySteps_resting : KeptBySteps Resting := by
  constructor
  case toKeptByCommits =>
    constructor
    case commitText =>
      intro sheet address text resting
      exact resting.commitText address text
    case commitColor =>
      intro sheet address color resting
      exact resting.commitColor address color
  case recalculate =>
    intro sheet address resting
    exact resting.recalculate address
  case blank =>
    intro sheet resting
    rw [resting.operators]
    exact Resting.blank _ _
  case noted =>
    intro sheet history modified resting
    exact ⟨keptBySteps_consistent.noted history modified resting.toConsistent, resting.atRest⟩
  case adopted =>
    intro sheet changes filePath resting
    exact ⟨keptBySteps_consistent.adopted changes filePath resting.toConsistent, resting.atRest⟩

/-! ## Sheets in use -/

theorem InUse.resting (used : sheet.InUse) : sheet.Resting :=
  keptBySteps_resting.of_inUse Resting.blank used

/-- Between two operations nothing is being evaluated: the guard of a sheet in use is empty, no
cell is in the middle of an evaluation, and all cells are at rest.  A text that is not a formula
is its own value and has no error. -/
theorem at_rest_of_inUse (used : sheet.InUse) :
    (sheet.guard.isEmpty = true ∧ ∀ address, sheet.isEvaluating address = false) ∧
    ∀ address cell, sheet.cell? address = some cell →
      cell.state ≠ .evaluating ∧ cell.AtRest ∧
        (cell.isFormula = false → cell.value = cell.text ∧ cell.error = none) := by
  have resting := used.resting
  refine ⟨⟨Std.HashSet.isEmpty_iff_forall_contains.2 resting.idle, resting.idle⟩, ?_⟩
  intro address cell inside
  have atRest := resting.atRest address cell inside
  refine ⟨atRest.state_ne, atRest, ?_⟩
  intro plain
  exact resting.toConsistent.shows_text inside (Cell.formula?_eq_none plain)

/-- A formula that reads its own cell is an example: its evaluation fails, and the cell is at
rest with the marker of its error. -/
theorem at_rest_of_selfReference :
    ∃ sheet cell, sheet = (blank 1 1).perform (.setText ⟨0, 0⟩ "=A1") ∧ InUse sheet ∧
      sheet.guard.isEmpty = true ∧ sheet.cell? ⟨0, 0⟩ = some cell ∧
      cell.state = .errored ∧ cell.value = "#SELF!" := by
  have start : (blank 1 1).Reached := reached_blank (by decide)
  have reached := start.performed (.setText ⟨0, 0⟩ "=A1")
  have text := start.text_setText ⟨0, 0⟩ rfl "=A1" ⟨0, 0⟩
  change (((blank 1 1).perform (.setText ⟨0, 0⟩ "=A1")).cell? ⟨0, 0⟩).map Cell.text = _ at text
  generalize edited : (blank 1 1).perform (.setText ⟨0, 0⟩ "=A1") = sheet at reached text
  obtain ⟨cell, inside, entered⟩ := Option.map_eq_some_iff.1 (text.trans (if_pos rfl))
  obtain ⟨⟨idle, -⟩, cells⟩ := at_rest_of_inUse reached.inUse
  obtain ⟨-, atRest, -⟩ := cells ⟨0, 0⟩ cell inside
  have formula : cell.formula? = some "A1".toList := by
    rw [Cell.formula?, entered]
    decide
  have shows := reached.consistent.shows_selfReference inside formula (by decide +kernel)
  refine ⟨sheet, cell, rfl, reached.inUse, idle, inside, ?_, shows.1⟩
  cases atRest with
  | idle _ empty =>
      rw [entered] at empty
      exact absurd empty (by decide)
  | settled _ faultless =>
      rw [shows.2] at faultless
      cases faultless
  | errored _ state => exact state

end Sheet

end Worksheet
