import Worksheet.Sheet.Evaluation

/-!
# What the value of a cell depends on

The value of a formula depends on the operators and on the texts and values of
the cells that it names, and on nothing else.  Whether the cell reads itself or
is on a reference cycle is decided before the formula is looked at, so only these
two faults are shown by their own markers.
-/

namespace Worksheet.Sheet

/-- A formula that reads a cell finds the same in two sheets. -/
def ReadsAlike (first second : Sheet) (address : Address) : Prop :=
  (first.cell? address).map (fun cell => (cell.text, cell.value)) =
    (second.cell? address).map fun cell => (cell.text, cell.value)

namespace ReadsAlike

variable {first second third : Sheet} {address : Address}

theorem trans (before : ReadsAlike first second address)
    (after : ReadsAlike second third address) : ReadsAlike first third address :=
  Eq.trans before after

theorem of_cell?_eq (same : first.cell? address = second.cell? address) :
    ReadsAlike first second address := by
  rw [ReadsAlike, same]

end ReadsAlike

/-- What two places have in common they have in common if there is nothing at both of
them, or something at both of them. -/
theorem none_or_some_of_map_eq {α β : Type} {first second : Option α} {view : α → β}
    (same : first.map view = second.map view) :
    (first = none ∧ second = none) ∨
      ∃ here there, first = some here ∧ second = some there ∧ view here = view there := by
  cases first with
  | none =>
      left
      exact ⟨rfl, Option.map_eq_none_iff.1 same.symm⟩
  | some here =>
      right
      obtain ⟨there, found, alike⟩ := Option.map_eq_some_iff.1 same.symm
      exact ⟨here, there, rfl, found, alike.symm⟩

variable {first second : Sheet} {reading : Address}

theorem operand_congr {referenced : Address} (alike : ReadsAlike first second referenced) :
    first.operand reading referenced = second.operand reading referenced := by
  rw [operand, operand]
  rcases none_or_some_of_map_eq alike with ⟨here, there⟩ | ⟨cell, other, here, there, same⟩
  · rw [here, there]
  · obtain ⟨text, value⟩ := Prod.mk.inj same
    simp only [here, there, text, value]

theorem bind_congr {names : List String}
    (alike : ∀ name ∈ names, ∀ referenced, Address.ofString? name = some referenced →
      ReadsAlike first second referenced) (formula : Formula) :
    first.bind reading formula names = second.bind reading formula names := by
  induction names generalizing formula with
  | nil => rfl
  | cons name rest ih =>
      have later := ih fun other member => alike other (List.mem_cons_of_mem _ member)
      simp only [bind]
      cases decoded : Address.ofString? name with
      | none => exact later formula
      | some referenced =>
          simp only [operand_congr (alike name List.mem_cons_self referenced decoded), later]

/-- A formula has the same value in two sheets that agree on the cells it names. -/
theorem computeFormula_congr {body : List Char} (operators : first.operators = second.operators)
    (alike : ∀ formula, Formula.parse first.operators body = .ok formula →
      ∀ name ∈ formula.names, ∀ referenced, Address.ofString? name = some referenced →
        ReadsAlike first second referenced) :
    first.computeFormula reading body = second.computeFormula reading body := by
  unfold computeFormula
  rw [← operators]
  cases parsed : Formula.parse first.operators body with
  | error fault => rfl
  | ok formula => simp only [bind_congr (alike formula parsed)]

/-! ## The cases of a computation -/

section

variable {sheet : Sheet} {address : Address} {cell : Cell} {body : List Char}

theorem compute_plain (inside : sheet.cell? address = some cell) (plain : cell.formula? = none)
    (onCycle : Bool) : sheet.compute address onCycle = .ok cell.text := by
  simp [compute, inside, plain]

theorem compute_selfReference (inside : sheet.cell? address = some cell)
    (formula : cell.formula? = some body) (reads : address ∈ sheet.graph.precedentsOf address)
    (onCycle : Bool) : sheet.compute address onCycle = .error (.selfReference address) := by
  simp [compute, inside, formula, reads]

theorem compute_circular (inside : sheet.cell? address = some cell)
    (formula : cell.formula? = some body) (other : address ∉ sheet.graph.precedentsOf address) :
    sheet.compute address true = .error (.circularReference address) := by
  simp [compute, inside, formula, other]

theorem compute_formula (inside : sheet.cell? address = some cell)
    (formula : cell.formula? = some body) (other : address ∉ sheet.graph.precedentsOf address) :
    sheet.compute address false = sheet.computeFormula address body := by
  simp [compute, inside, formula, other]

end

/-! ## Faults of a computation -/

variable {sheet : Sheet} {address : Address} {fault : SheetError}

theorem fault_of_operand {referenced : Address}
    (failed : sheet.operand address referenced = .error fault) :
    fault.cell? = some address ∧ fault.cellError = .formula := by
  rw [operand] at failed
  split at failed
  · cases failed
    exact ⟨rfl, rfl⟩
  · split at failed
    · cases failed
    · split at failed
      · cases failed
      · cases failed
        exact ⟨rfl, rfl⟩

theorem fault_of_bind {names : List String} {formula : Formula}
    (failed : sheet.bind address formula names = .error fault) :
    fault.cell? = some address ∧ fault.cellError = .formula := by
  induction names generalizing formula with
  | nil => cases failed
  | cons name rest ih =>
      rw [bind] at failed
      split at failed
      · exact ih failed
      · split at failed
        · next fault' operandFailed =>
            cases failed
            exact fault_of_operand operandFailed
        · cases failed
        · split at failed
          · cases failed
            exact ⟨rfl, rfl⟩
          · exact ih failed

/-- A formula that fails is marked neither as reading itself nor as circular, and the
fault is about its cell. -/
theorem fault_of_computeFormula {body : List Char}
    (failed : sheet.computeFormula address body = .error fault) :
    fault.cell? = some address ∧ fault.cellError = .formula := by
  rw [computeFormula] at failed
  split at failed
  · cases failed
    exact ⟨rfl, rfl⟩
  · split at failed
    · next fault' bindFailed =>
        cases failed
        exact fault_of_bind bindFailed
    · cases failed
    · split at failed
      · cases failed
        exact ⟨rfl, rfl⟩
      · cases failed

/-- A cell without a value has a fault that is about itself. -/
theorem cell?_of_compute {onCycle : Bool}
    (failed : sheet.compute address onCycle = .error fault) : fault.cell? = some address := by
  rw [compute] at failed
  split at failed
  · cases failed
    rfl
  · split at failed
    · cases failed
    · split at failed
      · cases failed
        rfl
      · split at failed
        · cases failed
          rfl
        · exact (fault_of_computeFormula failed).1

end Worksheet.Sheet
