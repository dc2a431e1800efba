import Worksheet.Proofs.Dependency.Planning
import Worksheet.Proofs.Sheet.Action
import Worksheet.Proofs.Sheet.Evaluating

/-!
# Consistent sheets

In a consistent sheet the reference graph records what the texts of the cells
name, no cell is being evaluated, and every cell shows what was computed for it
at some time, with a text, with references and with a place in or outside of the
reference cycles that are still the present ones.  Outside of the cycles the cells
that were read then have not changed since.

A recalculation makes a sheet consistent in which only cells that can be reached
from the recalculated one show something older.  This is the case after a text
has been committed: the links into the cell of the new text are the only ones
that change, and a cycle that is closed or broken by them passes through that
cell.  So every reached sheet is consistent.
-/

namespace Worksheet.Sheet

open Relation

/-! ## References -/

/-- The cells that the text of a cell names. -/
def references (sheet : Sheet) (address : Address) : List Address :=
  match sheet.cell? address with
  | some cell => Cell.referencesOf cell.text
  | none => []

/-- The text of `reader` names `referenced`. -/
def Reads (sheet : Sheet) (reader referenced : Address) : Prop :=
  referenced ∈ sheet.references reader

theorem references_of_cell? {sheet : Sheet} {address : Address} {cell : Cell}
    (inside : sheet.cell? address = some cell) :
    sheet.references address = Cell.referencesOf cell.text := by
  rw [references, inside]

/-- Only cells of the sheet read others. -/
theorem contains_of_reads {sheet : Sheet} {reader referenced : Address}
    (reads : sheet.Reads reader referenced) : sheet.contains reader = true := by
  rw [Reads, references] at reads
  split at reads
  · next cell inside => exact contains_of_cell? inside
  · exact absurd reads List.not_mem_nil

/-- The references of a cell are known from its text. -/
theorem references_congr {first second : Sheet} {address : Address}
    (text : (first.cell? address).map Cell.text = (second.cell? address).map Cell.text) :
    first.references address = second.references address := by
  rw [references, references]
  rcases none_or_some_of_map_eq text with ⟨here, there⟩ | ⟨cell, other, here, there, same⟩
  · rw [here, there]
  · simp only [here, there, same]

theorem SameInputs.references {before after : Sheet} (same : SameInputs before after)
    (address : Address) : after.references address = before.references address :=
  references_congr (same.text address)

theorem SameInputs.reads {before after : Sheet} (same : SameInputs before after) :
    after.Reads = before.Reads := by
  funext reader referenced
  rw [Reads, Reads, same.references]

/-- A text names each cell once. -/
theorem referencesOf_eraseDups (text : String) :
    (Cell.referencesOf text).eraseDups = Cell.referencesOf text := by
  rw [Cell.referencesOf]
  split
  · exact Distinct.eraseDups_eraseDups _
  · rfl

/-! ## Linked sheets -/

/-- The reference graph records what the texts name, and no cell is being
evaluated. -/
structure Linked (sheet : Sheet) : Prop where
  operators : sheet.operators = OperatorTable.arithmetic
  idle : ∀ address, sheet.isEvaluating address = false
  precedents : ∀ address, sheet.graph.precedentsOf address = sheet.references address
  mirrored : sheet.graph.Mirrored

theorem Linked.feeds_iff {sheet : Sheet} (linked : sheet.Linked) (source reader : Address) :
    sheet.graph.Feeds source reader ↔ source ∈ sheet.references reader := by
  rw [← linked.precedents]
  exact linked.mirrored source reader

theorem Linked.feeds_eq_swap {sheet : Sheet} (linked : sheet.Linked) :
    sheet.graph.Feeds = Function.swap sheet.Reads := by
  funext source reader
  exact propext (linked.feeds_iff source reader)

/-- The cycles of the graph are the reference cycles of the texts. -/
theorem Linked.onCycle_iff {sheet : Sheet} (linked : sheet.Linked) (address : Address) :
    OnCycle sheet.graph.Feeds address ↔ OnCycle sheet.Reads address := by
  rw [linked.feeds_eq_swap, OnCycle.swap_iff]

/-! ## Consistent sheets -/

/-- A cell shows what was computed for it in an earlier sheet, and nothing that
was decisive then has changed. -/
structure Computed (sheet : Sheet) (address : Address) (cell : Cell) (past : Sheet)
    (onCycle : Bool) : Prop where
  operators : past.operators = sheet.operators
  precedents : past.graph.precedentsOf address = sheet.references address
  text : (past.cell? address).map Cell.text = some cell.text
  marked : onCycle = true ↔ OnCycle sheet.Reads address
  shows : cell.Shows (past.compute address onCycle)
  inputs : ¬ OnCycle sheet.Reads address → ∀ referenced ∈ sheet.references address,
    referenced ≠ address → ReadsAlike past sheet referenced

/-- What was computed for a cell is still right in a sheet with the same references,
in which neither the cell nor a cell that it reads has changed. -/
theorem Computed.transfer {before after past : Sheet} {address : Address} {cell now : Cell}
    {onCycle : Bool} (computed : Computed before address cell past onCycle)
    (same : (now.text, now.value, now.error) = (cell.text, cell.value, cell.error))
    (operators : after.operators = before.operators)
    (references : after.references address = before.references address)
    (cycles : OnCycle after.Reads address ↔ OnCycle before.Reads address)
    (alike : ∀ referenced ∈ before.references address, ReadsAlike before after referenced) :
    Computed after address now past onCycle := by
  obtain ⟨text, rest⟩ := Prod.mk.inj same
  obtain ⟨value, error⟩ := Prod.mk.inj rest
  constructor
  case operators => exact computed.operators.trans operators.symm
  case precedents => rw [references, computed.precedents]
  case text => rw [computed.text, text]
  case marked => rw [cycles, computed.marked]
  case shows =>
    have shows := computed.shows
    unfold Cell.Shows at shows ⊢
    rw [value, error]
    exact shows
  case inputs =>
    intro alone referenced member apart
    rw [cycles] at alone
    rw [references] at member
    exact (computed.inputs alone referenced member apart).trans (alike referenced member)

/-- Every cell shows what was computed for it. -/
structure Consistent (sheet : Sheet) : Prop extends Linked sheet where
  computed : ∀ address cell, sheet.cell? address = some cell →
    ∃ past onCycle, Computed sheet address cell past onCycle

/-- A sheet of blank cells is consistent. -/
theorem consistent_blank (rows columns : Nat) : (blank rows columns).Consistent := by
  have blanks : ∀ address cell, (blank rows columns).cell? address = some cell →
      cell = Cell.blank := by
    intro address cell inside
    have found := (Grid.get?_filled rows columns Cell.blank address).symm.trans inside
    split at found
    · exact (Option.some.inj found).symm
    · cases found
  have nothing : ∀ address, (blank rows columns).references address = [] := by
    intro address
    rw [references]
    split
    · next cell inside =>
        rw [blanks address cell inside]
        rfl
    · rfl
  constructor
  case toLinked =>
    constructor
    case operators => rfl
    case idle => exact Guard.isEvaluating_empty
    case precedents =>
      intro address
      rw [nothing]
      exact DependencyGraph.precedentsOf_empty address
    case mirrored => exact DependencyGraph.mirrored_empty
  case computed =>
    intro address cell inside
    have alone : ¬ OnCycle (blank rows columns).Reads address := by
      intro circular
      obtain ⟨next, _, reads, _⟩ := circular.exists_step
      rw [Reads, nothing] at reads
      exact List.not_mem_nil reads
    refine ⟨blank rows columns, false, rfl, ?_, ?_, ?_, ?_, ?_⟩
    · rw [nothing]
      exact DependencyGraph.precedentsOf_empty address
    · rw [inside]
      rfl
    · simp [alone]
    · have plain := blanks address cell inside
      subst plain
      rw [compute_plain inside rfl]
      exact ⟨rfl, rfl⟩
    · intro _ referenced member
      rw [nothing] at member
      exact absurd member List.not_mem_nil

/-- Consistency is a matter of operators, references, guard, texts, values and
errors. -/
theorem Consistent.congr {before after : Sheet} (consistent : before.Consistent)
    (operators : after.operators = before.operators) (graph : after.graph = before.graph)
    (guard : after.guard = before.guard)
    (cells : ∀ address,
      (after.cell? address).map (fun cell => (cell.text, cell.value, cell.error)) =
        (before.cell? address).map fun cell => (cell.text, cell.value, cell.error)) :
    after.Consistent := by
  have references : ∀ address, after.references address = before.references address := by
    intro address
    have texts := congrArg (Option.map Prod.fst) (cells address)
    apply references_congr
    simpa only [Option.map_map, Function.comp_def] using texts
  have reads : after.Reads = before.Reads := by
    funext reader referenced
    rw [Reads, Reads, references]
  have alike : ∀ address, ReadsAlike before after address := by
    intro address
    have contents := congrArg (Option.map fun shown => (shown.1, shown.2.1)) (cells address)
    rw [ReadsAlike]
    simpa only [Option.map_map, Function.comp_def] using contents.symm
  constructor
  case toLinked =>
    constructor
    case operators => exact operators.trans consistent.operators
    case idle =>
      intro address
      rw [isEvaluating, guard]
      exact consistent.idle address
    case precedents =>
      intro address
      rw [graph, references]
      exact consistent.precedents address
    case mirrored =>
      rw [graph]
      exact consistent.mirrored
  case computed =>
    intro address cell inside
    have shown := cells address
    rw [inside, Option.map_some, eq_comm, Option.map_eq_some_iff] at shown
    obtain ⟨old, oldInside, same⟩ := shown
    obtain ⟨past, onCycle, computed⟩ := consistent.computed address old oldInside
    refine ⟨past, onCycle, computed.transfer same.symm operators (references address) ?_ ?_⟩
    · rw [reads]
    · intro referenced _
      exact alike referenced

end Worksheet.Sheet
