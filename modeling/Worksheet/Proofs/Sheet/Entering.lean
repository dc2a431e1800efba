import Worksheet.Proofs.Sheet.Evaluating
import Worksheet.Sheet.Editing

/-!
# What is entered in a sheet

The text and the color of a cell are what has been entered in it.  Committing a text or
a color changes the entry of one cell.  The recalculation that follows changes no entry
at all, whether it succeeds or fails, and it neither touches the history nor brings
anything into a cell that has no text.  None of this depends on the references or on
the operators of the sheet.
-/

namespace Worksheet

/-- The texts and the colors of all cells. -/
abbrev Snapshot := Address → Option (String × Color)

namespace Snapshot

variable {snapshot : Snapshot} {address : Address}

/-- The snapshot in which the entry of one cell has been changed. -/
def change (snapshot : Snapshot) (address : Address) (edit : String × Color → String × Color) :
    Snapshot :=
  fun other => if other = address then (snapshot address).map edit else snapshot other

theorem change_self (snapshot : Snapshot) (address : Address)
    (edit : String × Color → String × Color) :
    change snapshot address edit address = (snapshot address).map edit :=
  if_pos rfl

theorem change_of_ne {other : Address} (apart : other ≠ address)
    (edit : String × Color → String × Color) :
    change snapshot address edit other = snapshot other :=
  if_neg apart

/-- Two changes of one cell are a single one. -/
theorem change_change (snapshot : Snapshot) (address : Address)
    (first second : String × Color → String × Color) :
    change (change snapshot address first) address second =
      change snapshot address (second ∘ first) := by
  funext other
  by_cases same : other = address
  · simp only [change, same, if_true, Option.map_map]
  · simp only [change, if_neg same]

/-- A change that brings nothing new leaves the snapshot as it is. -/
theorem change_eq_self {edit : String × Color → String × Color}
    (stays : ∀ entry, snapshot address = some entry → edit entry = entry) :
    change snapshot address edit = snapshot := by
  funext other
  by_cases same : other = address
  · rw [same, change_self]
    cases present : snapshot address with
    | none => rfl
    | some entry => rw [Option.map_some, stays entry present]
  · exact if_neg same

theorem change_eq_self_of_entry {entry : String × Color} {edit : String × Color → String × Color}
    (present : snapshot address = some entry) (same : edit entry = entry) :
    change snapshot address edit = snapshot := by
  apply change_eq_self
  intro found there
  rw [present] at there
  cases there
  exact same

/-- A change is taken back by one that gives the cell its entry again. -/
theorem change_back {entry : String × Color} {edit back : String × Color → String × Color}
    (present : snapshot address = some entry) (restores : back (edit entry) = entry) :
    change (change snapshot address edit) address back = snapshot := by
  rw [change_change]
  exact change_eq_self_of_entry present restores

/-- Changes that make the same of the entry are the same. -/
theorem change_congr {first second : String × Color → String × Color}
    (alike : ∀ entry, snapshot address = some entry → first entry = second entry) :
    change snapshot address first = change snapshot address second := by
  funext other
  by_cases same : other = address
  · rw [same, change_self, change_self]
    exact Option.map_congr alike
  · simp only [change, if_neg same]

end Snapshot

namespace Sheet

variable {sheet : Sheet}

/-- What has been entered in a cell: its text and its color. -/
def entered? (sheet : Sheet) (address : Address) : Option (String × Color) :=
  (sheet.cell? address).map fun cell => (cell.text, cell.color)

/-- What a step of editing or loading does not touch. -/
structure Untouched (before after : Sheet) : Prop where
  dimensions : after.dimensions = before.dimensions
  history : after.history = before.history
  modified : after.modified = before.modified

theorem Untouched.refl (sheet : Sheet) : Untouched sheet sheet :=
  ⟨rfl, rfl, rfl⟩

theorem Untouched.trans {first second third : Sheet} (before : Untouched first second)
    (after : Untouched second third) : Untouched first third :=
  ⟨after.dimensions.trans before.dimensions, after.history.trans before.history,
    after.modified.trans before.modified⟩

/-- The cell at an address has no text and shows nothing. -/
def Vacant (sheet : Sheet) (address : Address) : Prop :=
  ∀ cell, sheet.cell? address = some cell →
    cell.text = "" ∧ cell.value = "" ∧ cell.error = none

theorem entered?_blank (rows columns : Nat) (address : Address) :
    (blank rows columns).entered? address =
      if (blank rows columns).contains address then some ("", defaultColor) else none := by
  rw [entered?]
  refine (congrArg (Option.map fun cell : Cell => (cell.text, cell.color))
    (Grid.get?_filled rows columns _ address)).trans ?_
  rw [apply_ite (Option.map _)]
  rfl

theorem vacant_blank (rows columns : Nat) (address : Address) :
    (blank rows columns).Vacant address := by
  intro cell present
  have found := (Grid.get?_filled rows columns _ address).symm.trans present
  split at found
  · cases found
    exact ⟨rfl, rfl, rfl⟩
  · cases found

/-! ## Recalculating -/

/-- A recalculation evaluates some cells, unless it is refused. -/
theorem recalculate_cases (sheet : Sheet) (root : Address) :
    (sheet.recalculate root).sheet = sheet ∨
      ∃ held released steps, (sheet.recalculate root).sheet =
        { ({ sheet with guard := held }).evaluateAll steps with guard := released } := by
  unfold recalculate
  split
  · exact .inl rfl
  · split
    · exact .inl rfl
    · right
      simp only [evaluateFrom_fst]
      exact ⟨_, _, _, rfl⟩

/-- A recalculation changes nothing that has been entered. -/
theorem recalculate_sameInputs (sheet : Sheet) (root : Address) :
    SameInputs sheet (sheet.recalculate root).sheet := by
  rcases recalculate_cases sheet root with refused | ⟨held, released, steps, done⟩
  · rw [refused]
    exact SameInputs.refl sheet
  · have evaluated := evaluateAll_sameInputs { sheet with guard := held } steps
    rw [done]
    exact ⟨evaluated.operators, evaluated.graph, evaluated.history, evaluated.filePath,
      evaluated.modified, evaluated.dimensions, evaluated.entered⟩

theorem Vacant.evaluateCell {other : Address} (vacant : sheet.Vacant other) (address : Address)
    (onCycle : Bool) : (sheet.evaluateCell address onCycle).1.Vacant other := by
  cases inside : sheet.cell? address with
  | none =>
      rw [evaluateCell_outside inside]
      exact vacant
  | some cell =>
      intro now present
      rw [cell?_evaluateCell inside] at present
      split at present
      · next same =>
          subst same
          rcases vacant cell inside with ⟨text, _, _⟩
          have working : (sheet.setCell other cell.evaluating).cell? other =
              some cell.evaluating := by
            rw [cell?_setCell inside, if_pos rfl]
          have plain : cell.evaluating.formula? = none := by
            rw [Cell.formula?, Cell.evaluating, text]
            rfl
          rw [compute_plain working plain] at present
          cases present
          exact ⟨text, text, rfl⟩
      · exact vacant now present

theorem Vacant.evaluateAll {other : Address} (vacant : sheet.Vacant other)
    (steps : List (Address × Bool)) : (sheet.evaluateAll steps).Vacant other := by
  induction steps generalizing sheet with
  | nil => exact vacant
  | cons step steps ih => exact ih (vacant.evaluateCell step.1 step.2)

theorem Vacant.recalculate {other : Address} (vacant : sheet.Vacant other) (root : Address) :
    (sheet.recalculate root).sheet.Vacant other := by
  rcases recalculate_cases sheet root with refused | ⟨held, released, steps, done⟩
  · rw [refused]
    exact vacant
  · rw [done]
    have start : ({ sheet with guard := held } : Sheet).Vacant other := vacant
    exact start.evaluateAll steps

/-! ## Committing -/

/-- The sheet in which a text has been stored and linked, but nothing has been
recalculated. -/
def withTextLinked (sheet : Sheet) (address : Address) (cell : Cell) (text : String) : Sheet :=
  let stored := sheet.setCell address (cell.withText text)
  { stored with graph := stored.graph.setReferences address (Cell.referencesOf text) }

theorem commitText_sheet {address : Address} {cell : Cell}
    (inside : sheet.cell? address = some cell) (text : String) :
    (sheet.commitText address text).sheet =
      ((sheet.withTextLinked address cell text).recalculate address).sheet := by
  simp only [Sheet.commitText, inside, withTextLinked]

theorem commitText_result {address : Address} {cell : Cell}
    (inside : sheet.cell? address = some cell) (text : String) :
    (sheet.commitText address text).result =
      ((sheet.withTextLinked address cell text).recalculate address).result := by
  simp only [Sheet.commitText, inside, withTextLinked]

theorem commitText_outside {address : Address} (outside : sheet.cell? address = none)
    (text : String) : (sheet.commitText address text).sheet = sheet := by
  rw [Sheet.commitText, outside]
  rfl

theorem commitColor_sheet {address : Address} {cell : Cell}
    (inside : sheet.cell? address = some cell) (color : Color) :
    (sheet.commitColor address color).sheet =
      (sheet.setCell address { cell with color }).announce address := by
  rw [Sheet.commitColor, inside]
  rfl

theorem commitColor_outside {address : Address} (outside : sheet.cell? address = none)
    (color : Color) : (sheet.commitColor address color).sheet = sheet := by
  rw [Sheet.commitColor, outside]
  rfl

/-- Putting a cell into a sheet replaces the entry of this cell. -/
theorem entered?_setCell {address : Address} {old : Cell}
    (inside : sheet.cell? address = some old) (new : Cell) :
    (sheet.setCell address new).entered? =
      Snapshot.change sheet.entered? address fun _ => (new.text, new.color) := by
  funext other
  rw [entered?, cell?_setCell inside, Snapshot.change]
  split
  · rw [entered?, inside]
    rfl
  · rfl

theorem entered?_of_cell? {address : Address} {cell : Cell}
    (inside : sheet.cell? address = some cell) :
    sheet.entered? address = some (cell.text, cell.color) := by
  rw [entered?, inside]
  rfl

theorem entered?_outside {address : Address} (outside : sheet.cell? address = none) :
    sheet.entered? address = none := by
  rw [entered?, outside]
  rfl

/-- A change of a cell outside of the sheet changes nothing. -/
theorem change_outside {address : Address} (outside : sheet.cell? address = none)
    (edit : String × Color → String × Color) :
    Snapshot.change sheet.entered? address edit = sheet.entered? := by
  apply Snapshot.change_eq_self
  intro entry present
  rw [entered?_outside outside] at present
  cases present

/-- Committing a color enters the color in its cell. -/
theorem entered?_commitColor (sheet : Sheet) (address : Address) (color : Color) :
    (sheet.commitColor address color).sheet.entered? =
      Snapshot.change sheet.entered? address fun entry => (entry.1, color) := by
  cases inside : sheet.cell? address with
  | none => rw [commitColor_outside inside, change_outside inside]
  | some cell =>
      rw [commitColor_sheet inside]
      apply (entered?_setCell inside { cell with color }).trans
      apply Snapshot.change_congr
      intro entry present
      rw [entered?_of_cell? inside] at present
      cases present
      rfl

/-- Committing a text enters the text in its cell. -/
theorem entered?_commitText (sheet : Sheet) (address : Address) (text : String) :
    (sheet.commitText address text).sheet.entered? =
      Snapshot.change sheet.entered? address fun entry => (text, entry.2) := by
  cases inside : sheet.cell? address with
  | none => rw [commitText_outside inside, change_outside inside]
  | some cell =>
      have recalculated : (sheet.commitText address text).sheet.entered? =
          (sheet.withTextLinked address cell text).entered? := by
        rw [commitText_sheet inside]
        funext other
        exact (recalculate_sameInputs _ address).entered other
      rw [recalculated]
      apply (entered?_setCell inside (cell.withText text)).trans
      apply Snapshot.change_congr
      intro entry present
      rw [entered?_of_cell? inside] at present
      cases present
      rfl

theorem Untouched.commitColor (sheet : Sheet) (address : Address) (color : Color) :
    Untouched sheet (sheet.commitColor address color).sheet := by
  cases inside : sheet.cell? address with
  | none =>
      rw [commitColor_outside inside]
      exact Untouched.refl sheet
  | some cell =>
      rw [commitColor_sheet inside]
      exact ⟨dimensions_setCell sheet address { cell with color }, rfl, rfl⟩

theorem Untouched.commitText (sheet : Sheet) (address : Address) (text : String) :
    Untouched sheet (sheet.commitText address text).sheet := by
  cases inside : sheet.cell? address with
  | none =>
      rw [commitText_outside inside]
      exact Untouched.refl sheet
  | some cell =>
      rw [commitText_sheet inside]
      have inputs := recalculate_sameInputs (sheet.withTextLinked address cell text) address
      have stored := dimensions_setCell sheet address (cell.withText text)
      exact ⟨inputs.dimensions.trans stored, inputs.history, inputs.modified⟩

theorem Vacant.commitColor {other : Address} (vacant : sheet.Vacant other) (address : Address)
    (color : Color) : (sheet.commitColor address color).sheet.Vacant other := by
  cases inside : sheet.cell? address with
  | none =>
      rw [commitColor_outside inside]
      exact vacant
  | some cell =>
      rw [commitColor_sheet inside]
      intro now present
      have found := (cell?_setCell inside { cell with color } other).symm.trans present
      split at found
      · next same =>
          cases found
          exact vacant cell (same ▸ inside)
      · exact vacant now found

/-- Committing a text brings nothing into the other cells that have none. -/
theorem Vacant.commitText {other : Address} (vacant : sheet.Vacant other) {address : Address}
    (apart : other ≠ address) (text : String) :
    (sheet.commitText address text).sheet.Vacant other := by
  cases inside : sheet.cell? address with
  | none =>
      rw [commitText_outside inside]
      exact vacant
  | some cell =>
      rw [commitText_sheet inside]
      apply Vacant.recalculate
      intro now present
      have found := (cell?_setCell inside (cell.withText text) other).symm.trans present
      rw [if_neg apart] at found
      exact vacant now found

end Sheet

end Worksheet
