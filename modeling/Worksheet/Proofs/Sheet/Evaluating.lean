import Mathlib.Data.List.Nodup
import Worksheet.Proofs.Sheet.Reading
import Worksheet.Sheet.Recalculation

/-!
# The effect of evaluating cells

Evaluating a cell changes what this cell shows and leaves everything else as it
is, in particular the texts, the colors and the references.  When cells are
evaluated one after another, each of them shows in the end what was computed for
it in its turn, from cells that are still the same if they have not had their
turn later.
-/

namespace Worksheet

/-! ## What a cell shows -/

namespace Cell

/-- The cell shows a value, or the marker of a fault. -/
def Shows (cell : Cell) (outcome : Except SheetError String) : Prop :=
  match outcome with
  | .ok value => cell.value = value ∧ cell.error = none
  | .error fault => cell.value = fault.cellError.marker ∧ cell.error = some fault.cellError

/-- The cell after an evaluation. -/
def finish (cell : Cell) (outcome : Except SheetError String) : Cell :=
  match outcome with
  | .ok value => cell.settle value
  | .error fault => cell.fail fault.cellError

@[simp]
theorem finish_text (cell : Cell) (outcome : Except SheetError String) :
    (cell.finish outcome).text = cell.text := by
  cases outcome <;> rfl

@[simp]
theorem finish_color (cell : Cell) (outcome : Except SheetError String) :
    (cell.finish outcome).color = cell.color := by
  cases outcome <;> rfl

theorem finish_shows (cell : Cell) (outcome : Except SheetError String) :
    (cell.finish outcome).Shows outcome := by
  cases outcome <;> exact ⟨rfl, rfl⟩

/-- Two cells that show the same outcome have the same value and the same error. -/
theorem Shows.unique {first second : Cell} {outcome : Except SheetError String}
    (before : first.Shows outcome) (after : second.Shows outcome) :
    first.value = second.value ∧ first.error = second.error := by
  cases outcome with
  | ok value => exact ⟨before.1.trans after.1.symm, before.2.trans after.2.symm⟩
  | error fault => exact ⟨before.1.trans after.1.symm, before.2.trans after.2.symm⟩

end Cell

namespace Sheet

/-! ## Putting a cell into a sheet -/

theorem contains_of_cell? {sheet : Sheet} {address : Address} {cell : Cell}
    (inside : sheet.cell? address = some cell) : sheet.contains address = true := by
  have found := sheet.grid.isSome_get? address
  rw [cell?] at inside
  rw [inside] at found
  exact found.symm

theorem exists_cell?_of_contains {sheet : Sheet} {address : Address}
    (inside : sheet.contains address = true) : ∃ cell, sheet.cell? address = some cell := by
  have found := sheet.grid.isSome_get? address
  rw [contains] at inside
  rw [inside] at found
  exact Option.isSome_iff_exists.1 found

theorem cell?_setCell {sheet : Sheet} {address : Address} {old : Cell}
    (inside : sheet.cell? address = some old) (new : Cell) (other : Address) :
    (sheet.setCell address new).cell? other =
      if other = address then some new else sheet.cell? other := by
  have bound := contains_of_cell? inside
  rw [contains] at bound
  unfold cell? setCell
  rw [Grid.get?_set]
  simp [bound]

theorem dimensions_setCell (sheet : Sheet) (address : Address) (cell : Cell) :
    (sheet.setCell address cell).dimensions = sheet.dimensions := by
  simp only [setCell, dimensions, Grid.set]
  split <;> rfl

/-- Which cells there are is a matter of the dimensions. -/
theorem contains_congr {first second : Sheet}
    (dimensions : first.dimensions = second.dimensions) (address : Address) :
    first.contains address = second.contains address := by
  obtain ⟨rows, columns⟩ := Prod.mk.inj dimensions
  rw [contains, contains, Grid.contains, Grid.contains, rows, columns]

/-- All cells of a blank sheet have the empty text. -/
theorem text_blank (rows columns : Nat) (address : Address) :
    ((blank rows columns).cell? address).map Cell.text =
      if (blank rows columns).contains address then some "" else none := by
  refine (congrArg (Option.map Cell.text) (Grid.get?_filled rows columns _ address)).trans ?_
  rw [apply_ite (Option.map Cell.text)]
  rfl

/-! ## Sheets with the same inputs -/

/-- A sheet has come from another one without a change of anything that has been
entered: only values, errors, states, waiting changes and the guard may differ. -/
structure SameInputs (before after : Sheet) : Prop where
  operators : after.operators = before.operators
  graph : after.graph = before.graph
  history : after.history = before.history
  filePath : after.filePath = before.filePath
  modified : after.modified = before.modified
  dimensions : after.dimensions = before.dimensions
  entered : ∀ address,
    (after.cell? address).map (fun cell => (cell.text, cell.color)) =
      (before.cell? address).map fun cell => (cell.text, cell.color)

namespace SameInputs

variable {first second third : Sheet}

theorem refl (sheet : Sheet) : SameInputs sheet sheet :=
  ⟨rfl, rfl, rfl, rfl, rfl, rfl, fun _ => rfl⟩

theorem trans (before : SameInputs first second) (after : SameInputs second third) :
    SameInputs first third := by
  constructor
  case operators => exact after.operators.trans before.operators
  case graph => exact after.graph.trans before.graph
  case history => exact after.history.trans before.history
  case filePath => exact after.filePath.trans before.filePath
  case modified => exact after.modified.trans before.modified
  case dimensions => exact after.dimensions.trans before.dimensions
  case entered =>
    intro address
    exact (after.entered address).trans (before.entered address)

/-- The cells of both sheets have the same texts. -/
theorem text (same : SameInputs first second) (address : Address) :
    (second.cell? address).map Cell.text = (first.cell? address).map Cell.text := by
  have texts := congrArg (Option.map Prod.fst) (same.entered address)
  simpa only [Option.map_map, Function.comp_def] using texts

end SameInputs

/-! ## Evaluating one cell -/

variable {sheet : Sheet} {address : Address}

theorem evaluateCell_outside (outside : sheet.cell? address = none) (onCycle : Bool) :
    (sheet.evaluateCell address onCycle).1 = sheet := by
  simp [evaluateCell, outside]

/-- An evaluation stores its outcome, and it announces the cell if that changes the
value. -/
theorem evaluateCell_inside {cell : Cell} (inside : sheet.cell? address = some cell)
    (onCycle : Bool) :
    (sheet.evaluateCell address onCycle).1 =
      let working := sheet.setCell address cell.evaluating
      let finished := cell.finish (working.compute address onCycle)
      { working.setCell address finished with
        changes :=
          if finished.value = cell.value then sheet.changes
          else sheet.changes.announce address } := by
  have announced : ∀ finished : Cell,
      (if finished.value = cell.value then
        (sheet.setCell address cell.evaluating).setCell address finished
      else ((sheet.setCell address cell.evaluating).setCell address finished).announce address) =
      { (sheet.setCell address cell.evaluating).setCell address finished with
        changes :=
          if finished.value = cell.value then sheet.changes
          else sheet.changes.announce address } := by
    intro finished
    by_cases unchanged : finished.value = cell.value
    · simp only [if_pos unchanged]
      rfl
    · simp only [if_neg unchanged]
      rfl
  simp only [evaluateCell, inside]
  generalize (sheet.setCell address cell.evaluating).compute address onCycle = outcome
  cases outcome with
  | ok value => exact announced (cell.settle value)
  | error fault => exact announced (cell.fail fault.cellError)

/-- An evaluation replaces its own cell and no other one. -/
theorem cell?_evaluateCell {cell : Cell} (inside : sheet.cell? address = some cell)
    (onCycle : Bool) (other : Address) :
    (sheet.evaluateCell address onCycle).1.cell? other =
      if other = address then
        some (cell.finish ((sheet.setCell address cell.evaluating).compute address onCycle))
      else sheet.cell? other := by
  have working : (sheet.setCell address cell.evaluating).cell? address = some cell.evaluating := by
    rw [cell?_setCell inside, if_pos rfl]
  rw [evaluateCell_inside inside]
  refine (cell?_setCell working _ other).trans ?_
  rw [cell?_setCell inside]
  split <;> rfl

/-- Putting a cell with the same text and color into a sheet changes no input. -/
theorem setCell_sameInputs {old new : Cell} (inside : sheet.cell? address = some old)
    (text : new.text = old.text) (color : new.color = old.color) :
    SameInputs sheet (sheet.setCell address new) := by
  constructor
  case entered =>
    intro other
    rw [cell?_setCell inside]
    split
    · next same =>
        subst same
        simp only [inside, Option.map_some, text, color]
    · rfl
  case dimensions => exact dimensions_setCell sheet address new
  all_goals rfl

theorem evaluateCell_sameInputs (sheet : Sheet) (address : Address) (onCycle : Bool) :
    SameInputs sheet (sheet.evaluateCell address onCycle).1 := by
  cases inside : sheet.cell? address with
  | none =>
      rw [evaluateCell_outside inside]
      exact SameInputs.refl sheet
  | some cell =>
      have working : (sheet.setCell address cell.evaluating).cell? address =
          some cell.evaluating := by
        rw [cell?_setCell inside, if_pos rfl]
      have before : SameInputs sheet (sheet.setCell address cell.evaluating) :=
        setCell_sameInputs inside rfl rfl
      let finished := cell.finish ((sheet.setCell address cell.evaluating).compute address onCycle)
      have after : SameInputs (sheet.setCell address cell.evaluating)
          ((sheet.setCell address cell.evaluating).setCell address finished) :=
        setCell_sameInputs working (Cell.finish_text _ _) (Cell.finish_color _ _)
      have both := before.trans after
      rw [evaluateCell_inside inside]
      exact ⟨both.operators, both.graph, both.history, both.filePath, both.modified,
        both.dimensions, both.entered⟩

theorem evaluateCell_guard (sheet : Sheet) (address : Address) (onCycle : Bool) :
    (sheet.evaluateCell address onCycle).1.guard = sheet.guard := by
  cases inside : sheet.cell? address with
  | none => rw [evaluateCell_outside inside]
  | some cell =>
      rw [evaluateCell_inside inside]
      rfl

/-! ## Evaluating cells one after another -/

/-- The sheet after the evaluations of some steps. -/
def evaluateAll (sheet : Sheet) (steps : List (Address × Bool)) : Sheet :=
  steps.foldl (fun sheet step => (sheet.evaluateCell step.1 step.2).1) sheet

theorem evaluateFrom_fst (sheet : Sheet) (done : List Evaluation)
    (steps : List (Address × Bool)) :
    (evaluateFrom sheet done steps).1 = sheet.evaluateAll steps := by
  induction steps generalizing sheet done with
  | nil => rfl
  | cons step steps ih => exact ih _ _

theorem evaluateAll_append (sheet : Sheet) (first second : List (Address × Bool)) :
    sheet.evaluateAll (first ++ second) = (sheet.evaluateAll first).evaluateAll second :=
  List.foldl_append

theorem evaluateAll_sameInputs (sheet : Sheet) (steps : List (Address × Bool)) :
    SameInputs sheet (sheet.evaluateAll steps) := by
  induction steps generalizing sheet with
  | nil => exact SameInputs.refl sheet
  | cons step steps ih => exact (evaluateCell_sameInputs sheet step.1 step.2).trans (ih _)

theorem evaluateAll_guard (sheet : Sheet) (steps : List (Address × Bool)) :
    (sheet.evaluateAll steps).guard = sheet.guard := by
  induction steps generalizing sheet with
  | nil => rfl
  | cons step steps ih => exact (ih _).trans (evaluateCell_guard sheet step.1 step.2)

/-- A cell that has no turn stays as it is. -/
theorem cell?_evaluateAll_of_notMem {steps : List (Address × Bool)} {other : Address}
    (absent : other ∉ steps.map Prod.fst) (sheet : Sheet) :
    (sheet.evaluateAll steps).cell? other = sheet.cell? other := by
  induction steps generalizing sheet with
  | nil => rfl
  | cons step steps ih =>
      rw [List.map_cons, List.mem_cons, not_or] at absent
      apply (ih absent.2 _).trans
      dsimp only
      cases inside : sheet.cell? step.1 with
      | none => rw [evaluateCell_outside inside]
      | some cell => rw [cell?_evaluateCell inside, if_neg absent.1]

/-- A cell shows in the end what was computed for it in its turn.  The cells that
have no later turn are the same as they were then. -/
theorem exists_shows_of_turn (before : List (Address × Bool)) {after : List (Address × Bool)}
    {address : Address} (onCycle : Bool) (only : address ∉ after.map Prod.fst)
    (inside : sheet.contains address = true) :
    ∃ past cell, SameInputs sheet past ∧
      (sheet.evaluateAll (before ++ (address, onCycle) :: after)).cell? address = some cell ∧
      cell.Shows (past.compute address onCycle) ∧
      ∀ other, other ≠ address → other ∉ after.map Prod.fst →
        past.cell? other =
          (sheet.evaluateAll (before ++ (address, onCycle) :: after)).cell? other := by
  have earlier := evaluateAll_sameInputs sheet before
  rw [evaluateAll_append]
  generalize sheet.evaluateAll before = turn at earlier
  obtain ⟨original, found⟩ := exists_cell?_of_contains inside
  have entered := earlier.entered address
  rw [found, Option.map_some, Option.map_eq_some_iff] at entered
  obtain ⟨cell, present, _⟩ := entered
  have working : SameInputs turn (turn.setCell address cell.evaluating) :=
    setCell_sameInputs present rfl rfl
  have turned := cell?_evaluateCell present onCycle
  refine ⟨turn.setCell address cell.evaluating,
    cell.finish ((turn.setCell address cell.evaluating).compute address onCycle),
    earlier.trans working, ?_, Cell.finish_shows _ _, ?_⟩
  · exact (cell?_evaluateAll_of_notMem only _).trans ((turned address).trans (if_pos rfl))
  · intro other apart absent
    rw [cell?_setCell present, if_neg apart]
    exact ((cell?_evaluateAll_of_notMem absent _).trans
      ((turned other).trans (if_neg apart))).symm

end Sheet

end Worksheet
