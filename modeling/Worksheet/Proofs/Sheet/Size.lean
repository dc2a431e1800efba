import Worksheet.Proofs.Sheet.Recalculating

/-!
# The size of reached sheets

No operation changes the dimensions of a sheet.  So a reached sheet is as small as the
new one that it comes from, and the numbers of all rows and columns, counted from one,
fit in 64 bits.
-/

namespace Worksheet.Sheet

variable {sheet : Sheet}

/-! ## Dimensions -/

theorem dimensions_recalculate (linked : sheet.Linked) (address : Address) :
    (sheet.recalculate address).sheet.dimensions = sheet.dimensions := by
  cases inside : sheet.contains address with
  | false =>
      rw [Sheet.recalculate, if_pos (by simp [inside])]
      rfl
  | true =>
      obtain ⟨steps, recalculated⟩ := recalculate_recalculated linked inside
      exact recalculated.inputs.dimensions

theorem dimensions_commitColor (sheet : Sheet) (address : Address) (color : Color) :
    (sheet.commitColor address color).sheet.dimensions = sheet.dimensions := by
  cases present : sheet.cell? address with
  | none =>
      rw [Sheet.commitColor, present]
      rfl
  | some cell =>
      rw [Sheet.commitColor, present]
      exact dimensions_setCell sheet address { cell with color }

/-- No operation changes the dimensions of a sheet. -/
theorem keptBySteps_dimensions (size : Nat × Nat) :
    KeptBySteps fun sheet => sheet.Consistent ∧ sheet.dimensions = size := by
  constructor
  case toKeptByCommits =>
    constructor
    case commitText =>
      rintro sheet address text ⟨consistent, same⟩
      exact ⟨consistent.commitText address text,
        (dimensions_commitText consistent.toLinked address text).trans same⟩
    case commitColor =>
      rintro sheet address color ⟨consistent, same⟩
      exact ⟨consistent.commitColor address color,
        (dimensions_commitColor sheet address color).trans same⟩
  case recalculate =>
    rintro sheet address ⟨consistent, same⟩
    exact ⟨consistent.recalculate address,
      (dimensions_recalculate consistent.toLinked address).trans same⟩
  case blank =>
    rintro sheet ⟨consistent, same⟩
    exact ⟨keptBySteps_consistent.blank consistent, same⟩
  case noted =>
    rintro sheet history modified ⟨consistent, same⟩
    exact ⟨keptBySteps_consistent.noted history modified consistent, same⟩
  case adopted =>
    rintro sheet changes filePath ⟨consistent, same⟩
    exact ⟨keptBySteps_consistent.adopted changes filePath consistent, same⟩

theorem Reached.dimensions_perform (reached : sheet.Reached) (action : Action) :
    (sheet.perform action).dimensions = sheet.dimensions :=
  ((keptBySteps_dimensions sheet.dimensions).perform action ⟨reached.consistent, rfl⟩).2

/-! ## Bounds -/

/-- A reached sheet has no more cells than a new one may have. -/
theorem Reached.small (reached : sheet.Reached) :
    sheet.grid.rows * sheet.grid.columns ≤ maxCells := by
  induction reached with
  | @created rows columns sheet new =>
      rw [create] at new
      split at new
      · next small =>
          cases new
          exact small
      · cases new
  | performed action before ih =>
      obtain ⟨rows, columns⟩ := Prod.mk.inj (before.dimensions_perform action)
      rw [rows, columns]
      exact ih

/-- The numbers of its rows and columns fit in 64 bits. -/
theorem Reached.fits (reached : sheet.Reached) {address : Address}
    (inside : sheet.contains address = true) :
    address.row + 1 < gridLimit ∧ address.column + 1 < gridLimit := by
  have small := reached.small
  simp only [contains, Grid.contains, Bool.and_eq_true, decide_eq_true_eq] at inside
  have rows : sheet.grid.rows ≤ sheet.grid.rows * sheet.grid.columns :=
    Nat.le_mul_of_pos_right _ (Nat.zero_lt_of_lt inside.2)
  have columns : sheet.grid.columns ≤ sheet.grid.rows * sheet.grid.columns :=
    Nat.le_mul_of_pos_left _ (Nat.zero_lt_of_lt inside.1)
  unfold maxCells at small
  unfold gridLimit
  omega

end Worksheet.Sheet
