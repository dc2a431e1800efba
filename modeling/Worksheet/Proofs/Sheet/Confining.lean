import Worksheet.Proofs.Sheet.Recording

/-!
# Commits touch only what depends on them

A cell depends on another one if its text names it, directly or through the texts of others.
A cascade goes along the reference graph, which records the texts as they are after the commit,
so it comes to the cells that depend on the committed one and to no others.  Replacing the
references of a cell changes the links into this cell alone.

So a commit leaves all cells as they are that do not depend on its cell afterwards, with their
texts, values, colors, errors and states, and it leaves what the other cells read.
-/

namespace Worksheet.Sheet

open Relation

variable {sheet before middle after : Sheet} {address : Address} {cell : Cell}

/-! ## Dependence -/

/-- A cell is another one, or its text names it, directly or through the texts of others. -/
def DependsOn (sheet : Sheet) (reader source : Address) : Prop :=
  ReflTransGen sheet.Reads reader source

/-- What can be reached in the graph of a sheet are the cells that depend on the start. -/
theorem Linked.reaches_iff_dependsOn (linked : sheet.Linked) (source reader : Address) :
    sheet.graph.Reaches source reader ↔ sheet.DependsOn reader source := by
  rw [DependencyGraph.Reaches, linked.feeds_eq_swap, DependsOn, reflTransGen_swap]

theorem SameInputs.dependsOn (same : SameInputs before after) :
    after.DependsOn = before.DependsOn := by
  funext reader source
  rw [DependsOn, DependsOn, same.reads]

/-! ## Confined changes -/

/-- Between two sheets nothing has been touched except a text and what depends on its cell. -/
structure Confined (before after : Sheet) (address : Address) : Prop where
  dimensions : after.dimensions = before.dimensions
  filePath : after.filePath = before.filePath
  colors : ∀ other,
    (after.cell? other).map Cell.color = (before.cell? other).map Cell.color
  texts : ∀ other, other ≠ address →
    (after.cell? other).map Cell.text = (before.cell? other).map Cell.text
  cells : ∀ other, ¬ after.DependsOn other address → after.cell? other = before.cell? other
  precedents : ∀ other, other ≠ address →
    after.graph.precedentsOf other = before.graph.precedentsOf other

theorem Confined.refl (sheet : Sheet) (address : Address) : Confined sheet sheet address :=
  ⟨rfl, rfl, fun _ => rfl, fun _ _ => rfl, fun _ _ => rfl, fun _ _ => rfl⟩

/-- Two steps touch no more than one if the second one leaves the dependences as they are. -/
theorem Confined.trans (first : Confined before middle address)
    (second : Confined middle after address) (same : after.DependsOn = middle.DependsOn) :
    Confined before after address where
  dimensions := second.dimensions.trans first.dimensions
  filePath := second.filePath.trans first.filePath
  colors other := (second.colors other).trans (first.colors other)
  texts other apart := (second.texts other apart).trans (first.texts other apart)
  cells other apart := (second.cells other apart).trans (first.cells other (same ▸ apart))
  precedents other apart := (second.precedents other apart).trans (first.precedents other apart)

theorem SameInputs.color (same : SameInputs before after) (address : Address) :
    (after.cell? address).map Cell.color = (before.cell? address).map Cell.color := by
  have colors := congrArg (Option.map Prod.snd) (same.entered address)
  simpa only [Option.map_map, Function.comp_def] using colors

theorem confined_recalculate (linked : sheet.Linked) (address : Address) :
    Confined sheet (sheet.recalculate address).sheet address := by
  have inputs := recalculate_sameInputs sheet address
  constructor
  case dimensions => exact inputs.dimensions
  case filePath => exact inputs.filePath
  case colors => exact inputs.color
  case texts => exact fun other _ => inputs.text other
  case precedents =>
    intro other _
    rw [inputs.graph]
  case cells =>
    intro other apart
    cases inside : sheet.contains address with
    | false =>
        rw [recalculate, inside]
        rfl
    | true =>
        obtain ⟨steps, recalculated⟩ := recalculate_recalculated linked inside
        apply recalculated.cell?_of_unreached
        rw [linked.reaches_iff_dependsOn, ← inputs.dependsOn]
        exact apart

/-- Storing a text changes its cell and what this cell reads. -/
theorem confined_withTextLinked (linked : sheet.Linked) (inside : sheet.cell? address = some cell)
    (text : String) : Confined sheet (sheet.withTextLinked address cell text) address := by
  have cells := cell?_withTextLinked inside text
  constructor
  case dimensions => exact dimensions_setCell sheet address (cell.withText text)
  case filePath => rfl
  case colors =>
    intro other
    rw [cells]
    split
    · next same =>
        rw [same, inside]
        rfl
    · rfl
  case texts =>
    intro other apart
    rw [cells, if_neg apart]
  case cells =>
    intro other apart
    rw [cells, if_neg]
    rintro rfl
    exact apart .refl
  case precedents =>
    intro other apart
    rw [(linked_withTextLinked linked inside text).precedents, linked.precedents,
      references_withTextLinked inside, if_neg apart]

theorem confined_commitText (linked : sheet.Linked) (address : Address) (text : String) :
    Confined sheet (sheet.commitText address text).sheet address := by
  cases inside : sheet.cell? address with
  | none =>
      rw [commitText_outside inside]
      exact Confined.refl sheet address
  | some cell =>
      rw [commitText_sheet inside]
      have stored := confined_withTextLinked linked inside text
      have evaluated := confined_recalculate (linked_withTextLinked linked inside text) address
      exact stored.trans evaluated (recalculate_sameInputs _ address).dependsOn

theorem confined_setText (linked : sheet.Linked) (address : Address) (text : String) :
    Confined sheet (sheet.setText address text).sheet address := by
  cases inside : sheet.cell? address with
  | none =>
      rw [setText_outside inside]
      exact Confined.refl sheet address
  | some cell =>
      rw [setText_inside inside]
      split
      · exact confined_commitText linked address text
      · have recorded := confined_commitText
          (linked.record (.single (.text address cell.text text))) address text
        exact ⟨recorded.dimensions, recorded.filePath, recorded.colors, recorded.texts,
          recorded.cells, recorded.precedents⟩

/-! ## Sheets in use -/

/-- Giving a cell of a sheet in use a text touches nothing except this text and what depends on
the cell afterwards: all colors, the other texts, the dimensions and the file stay, every cell
that does not depend on it stays as it is, and the other cells read what they have read before.
The same holds of a recalculation, which also leaves all texts and the whole graph. -/
theorem confined_of_inUse (used : sheet.InUse) (address : Address) :
    (∀ text, let after := (sheet.setText address text).sheet
      Confined sheet after address ∧
        (sheet.contains address = true →
          (after.cell? address).map Cell.text = some text)) ∧
    let after := (sheet.recalculate address).sheet
    Confined sheet after address ∧
      (∀ other, (after.cell? other).map Cell.text = (sheet.cell? other).map Cell.text) ∧
      after.graph = sheet.graph := by
  have linked := used.consistent.toLinked
  have inputs := recalculate_sameInputs sheet address
  refine ⟨?_, confined_recalculate linked address, inputs.text, inputs.graph⟩
  intro text
  refine ⟨confined_setText linked address text, ?_⟩
  intro inside
  obtain ⟨cell, present⟩ := exists_cell?_of_contains inside
  rw [setText_inside present]
  split
  · exact (text_commitText linked inside text address).trans (if_pos rfl)
  · exact (text_commitText (linked.record _) inside text address).trans (if_pos rfl)

/-- A formula that has been replaced is an example: its cell is left alone when the cell that it
named gets a text. -/
theorem confined_of_dropped_reference :
    ∃ sheet after, sheet = ((blank 1 2).perform (.setText ⟨0, 0⟩ "=B1")).perform
        (.setText ⟨0, 0⟩ "7") ∧ InUse sheet ∧
      after = (sheet.setText ⟨0, 1⟩ "3").sheet ∧ ¬ after.DependsOn ⟨0, 0⟩ ⟨0, 1⟩ ∧
      after.cell? ⟨0, 0⟩ = sheet.cell? ⟨0, 0⟩ ∧
      (after.cell? ⟨0, 1⟩).map Cell.text = some "3" := by
  have start : (blank 1 2).Reached := reached_blank (by decide)
  have reached := (start.performed (.setText ⟨0, 0⟩ "=B1")).performed (.setText ⟨0, 0⟩ "7")
  have texts := start.text_setText_setText ⟨0, 0⟩ ⟨0, 0⟩ rfl rfl "=B1" "7"
  generalize edited : ((blank 1 2).perform (.setText ⟨0, 0⟩ "=B1")).perform
    (.setText ⟨0, 0⟩ "7") = sheet at reached texts
  obtain ⟨target, present, _⟩ := Option.map_eq_some_iff.1
    ((texts ⟨0, 1⟩).trans ((if_neg (by decide)).trans (text_blank 1 2 ⟨0, 1⟩)))
  obtain ⟨confined, entered⟩ := (confined_of_inUse reached.inUse ⟨0, 1⟩).1 "3"
  have apart : ¬ (sheet.setText ⟨0, 1⟩ "3").sheet.DependsOn ⟨0, 0⟩ ⟨0, 1⟩ := by
    obtain ⟨cell, inside, text⟩ := Option.map_eq_some_iff.1
      ((confined.texts ⟨0, 0⟩ (by decide)).trans ((texts ⟨0, 0⟩).trans (if_pos rfl)))
    intro depends
    rcases depends.cases_head with same | ⟨next, reads, _⟩
    · exact absurd same (by decide)
    · rw [Reads, references_of_cell? inside, text] at reads
      exact absurd reads List.not_mem_nil
  exact ⟨sheet, _, rfl, reached.inUse, rfl, apart, confined.cells _ apart,
    entered (contains_of_cell? present)⟩

end Worksheet.Sheet
