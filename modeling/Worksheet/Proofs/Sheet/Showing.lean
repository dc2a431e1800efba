import Worksheet.Proofs.Sheet.Pair

/-!
# What the cells of a reached sheet show

A cell of a consistent sheet shows its own text, a marker because it reads
itself, a marker because it is on a reference cycle, or the present value of its
formula.  Which of these it is depends on the present texts alone.
-/

namespace Worksheet.Sheet

variable {sheet : Sheet} {address : Address} {cell : Cell} {body : List Char}

/-! ## The cases of a consistent sheet -/

/-- The references of a formula cell are those of its formula. -/
theorem references_of_formula (inside : sheet.cell? address = some cell)
    (formula : cell.formula? = some body) :
    sheet.references address = References.inText body := by
  rw [references_of_cell? inside, Cell.referencesOf]
  rw [Cell.formula?] at formula
  rw [formula]

namespace Consistent

/-- A text that is not a formula is shown as it is. -/
theorem shows_text (consistent : sheet.Consistent) (inside : sheet.cell? address = some cell)
    (plain : cell.formula? = none) : cell.value = cell.text ∧ cell.error = none := by
  obtain ⟨past, onCycle, computed⟩ := consistent.computed address cell inside
  obtain ⟨old, present, text⟩ := Option.map_eq_some_iff.1 computed.text
  have stillPlain : old.formula? = none := by
    rw [Cell.formula?, text]
    exact plain
  have shows := computed.shows
  rw [compute_plain present stillPlain, text] at shows
  exact shows

/-- What was computed for a formula cell was computed from the same formula and the
same references. -/
theorem exists_past (consistent : sheet.Consistent) (inside : sheet.cell? address = some cell)
    (formula : cell.formula? = some body) :
    ∃ past onCycle old, Computed sheet address cell past onCycle ∧
      past.cell? address = some old ∧ old.formula? = some body ∧
      past.graph.precedentsOf address = References.inText body := by
  obtain ⟨past, onCycle, computed⟩ := consistent.computed address cell inside
  obtain ⟨old, present, text⟩ := Option.map_eq_some_iff.1 computed.text
  refine ⟨past, onCycle, old, computed, present, ?_, ?_⟩
  · rw [Cell.formula?, text]
    exact formula
  · rw [computed.precedents, references_of_formula inside formula]

/-- A cell that reads itself is marked as such. -/
theorem shows_selfReference (consistent : sheet.Consistent)
    (inside : sheet.cell? address = some cell) (formula : cell.formula? = some body)
    (reads : address ∈ References.inText body) :
    cell.value = "#SELF!" ∧ cell.error = some .selfReference := by
  obtain ⟨past, onCycle, old, computed, present, still, precedents⟩ :=
    consistent.exists_past inside formula
  have shows := computed.shows
  rw [compute_selfReference present still (by rw [precedents]; exact reads)] at shows
  exact shows

/-- A cell on a reference cycle that does not read itself is marked as such. -/
theorem shows_circularReference (consistent : sheet.Consistent)
    (inside : sheet.cell? address = some cell) (formula : cell.formula? = some body)
    (other : address ∉ References.inText body) (circular : OnCycle sheet.Reads address) :
    cell.value = "#CYCLE!" ∧ cell.error = some .circularReference := by
  obtain ⟨past, onCycle, old, computed, present, still, precedents⟩ :=
    consistent.exists_past inside formula
  have shows := computed.shows
  rw [computed.marked.2 circular,
    compute_circular present still (by rw [precedents]; exact other)] at shows
  exact shows

/-- A cell that is on no cycle shows what was computed for its formula. -/
theorem exists_shows_formula (consistent : sheet.Consistent)
    (inside : sheet.cell? address = some cell) (formula : cell.formula? = some body)
    (other : address ∉ References.inText body) (alone : ¬ OnCycle sheet.Reads address) :
    ∃ past onCycle, Computed sheet address cell past onCycle ∧
      cell.Shows (past.computeFormula address body) := by
  obtain ⟨past, onCycle, old, computed, present, still, precedents⟩ :=
    consistent.exists_past inside formula
  have shows := computed.shows
  have unmarked : onCycle = false := by
    rw [← Bool.not_eq_true, computed.marked]
    exact alone
  rw [unmarked, compute_formula present still (by rw [precedents]; exact other)] at shows
  exact ⟨past, onCycle, computed, shows⟩

/-- If its references are all that its formula names, it shows the present value of
the formula. -/
theorem shows_computeFormula (consistent : sheet.Consistent)
    (inside : sheet.cell? address = some cell) (formula : cell.formula? = some body)
    (tracked : References.Tracked body) (other : address ∉ References.inText body)
    (alone : ¬ OnCycle sheet.Reads address) :
    cell.Shows (sheet.computeFormula address body) := by
  obtain ⟨past, onCycle, computed, shows⟩ :=
    consistent.exists_shows_formula inside formula other alone
  have same : past.computeFormula address body = sheet.computeFormula address body := by
    apply computeFormula_congr computed.operators
    intro read parsed name member referenced denotes
    rw [computed.operators, consistent.operators] at parsed
    have names := tracked read parsed name member referenced denotes
    refine computed.inputs alone referenced ?_ ?_
    · rw [references_of_formula inside formula]
      exact names
    · rintro rfl
      exact other names
  rw [← same]
  exact shows

/-- A cell that is on no cycle and does not read itself has neither of the two markers. -/
theorem error_of_alone (consistent : sheet.Consistent)
    (inside : sheet.cell? address = some cell) (formula : cell.formula? = some body)
    (other : address ∉ References.inText body) (alone : ¬ OnCycle sheet.Reads address) :
    cell.error = none ∨ cell.error = some .formula := by
  obtain ⟨past, onCycle, computed, shows⟩ :=
    consistent.exists_shows_formula inside formula other alone
  cases outcome : past.computeFormula address body with
  | ok value =>
      rw [outcome] at shows
      exact Or.inl shows.2
  | error fault =>
      rw [outcome] at shows
      right
      rw [shows.2, (fault_of_computeFormula outcome).2]

end Consistent

/-! ## Reached sheets -/

/-- A formula cell of a reached sheet is never stale: what it shows is what its
formula gives for the present texts and values. -/
theorem shows_compute_of_reached (reached : sheet.Reached)
    (inside : sheet.cell? address = some cell) (formula : cell.formula? = some body)
    (tracked : References.Tracked body) (other : address ∉ References.inText body)
    (alone : ¬ OnCycle sheet.Reads address) :
    sheet.compute address false = sheet.computeFormula address body ∧
      cell.Shows (sheet.compute address false) := by
  have consistent := reached.consistent
  have fresh : sheet.compute address false = sheet.computeFormula address body := by
    apply compute_formula inside formula
    rw [consistent.precedents, references_of_formula inside formula]
    exact other
  rw [fresh]
  exact ⟨rfl, consistent.shows_computeFormula inside formula tracked other alone⟩

/-- A formula that reads a blank cell is an example. -/
theorem shows_compute_of_blank_reference :
    ∃ sheet cell, sheet = (blank 1 2).perform (.setText ⟨0, 1⟩ "=A1*2") ∧ Reached sheet ∧
      sheet.cell? ⟨0, 1⟩ = some cell ∧ cell.formula? = some "A1*2".toList ∧
      References.Tracked "A1*2".toList ∧ ⟨0, 1⟩ ∉ References.inText "A1*2".toList ∧
      ¬ OnCycle sheet.Reads ⟨0, 1⟩ ∧ cell.Shows (sheet.compute ⟨0, 1⟩ false) := by
  have start : (blank 1 2).Reached := reached_blank (by decide)
  have reached := Reached.performed (.setText ⟨0, 1⟩ "=A1*2") start
  have texts := start.text_setText ⟨0, 1⟩ rfl "=A1*2"
  change ∀ other, (((blank 1 2).perform (.setText ⟨0, 1⟩ "=A1*2")).cell? other).map Cell.text = _
    at texts
  generalize edited : (blank 1 2).perform (.setText ⟨0, 1⟩ "=A1*2") = sheet at reached texts
  obtain ⟨cell, inside, text⟩ := Option.map_eq_some_iff.1 ((texts ⟨0, 1⟩).trans (if_pos rfl))
  obtain ⟨blankCell, blankInside, blankText⟩ := Option.map_eq_some_iff.1
    ((texts ⟨0, 0⟩).trans ((if_neg (by decide)).trans (text_blank 1 2 ⟨0, 0⟩)))
  have formula : cell.formula? = some "A1*2".toList := by
    rw [Cell.formula?, text]
    decide
  have tracked : References.Tracked "A1*2".toList :=
    References.tracked_of_apart (by decide +kernel)
  have other : ⟨0, 1⟩ ∉ References.inText "A1*2".toList := by decide +kernel
  have alone : ¬ OnCycle sheet.Reads ⟨0, 1⟩ := by
    have reads : sheet.references ⟨0, 1⟩ = [⟨0, 0⟩] := by
      rw [references_of_cell? inside, text]
      decide +kernel
    have nothing : sheet.references ⟨0, 0⟩ = [] := by
      rw [references_of_cell? blankInside, blankText]
      decide +kernel
    intro circular
    obtain ⟨next, _, first, again⟩ := circular.exists_next
    rw [Reads, reads, List.mem_singleton] at first
    subst first
    obtain ⟨further, _, second, _⟩ := again.exists_next
    rw [Reads, nothing] at second
    exact List.not_mem_nil second
  exact ⟨sheet, cell, rfl, reached, inside, formula, tracked, other, alone,
    (shows_compute_of_reached reached inside formula tracked other alone).2⟩

/-- In a reached sheet the markers tell exactly which formula cells read themselves
and which others are on a reference cycle. -/
theorem marked_iff_of_reached (reached : sheet.Reached)
    (inside : sheet.cell? address = some cell) :
    (cell.error = some .selfReference ↔
      ∃ body, cell.formula? = some body ∧ address ∈ References.inText body) ∧
    (cell.error = some .selfReference → cell.value = "#SELF!") ∧
    (cell.error = some .circularReference ↔
      ∃ body, cell.formula? = some body ∧ address ∉ References.inText body ∧
        OnCycle sheet.Reads address) ∧
    (cell.error = some .circularReference → cell.value = "#CYCLE!") := by
  have consistent := reached.consistent
  cases formula : cell.formula? with
  | none => simp [(consistent.shows_text inside formula).2]
  | some body =>
      by_cases reads : address ∈ References.inText body
      · have shows := consistent.shows_selfReference inside formula reads
        simp [shows.1, shows.2, reads]
      · by_cases circular : OnCycle sheet.Reads address
        · have shows := consistent.shows_circularReference inside formula reads circular
          simp [shows.1, shows.2, reads, circular]
        · have error := consistent.error_of_alone inside formula reads circular
          rcases error with none | fault
          · simp [none, reads, circular]
          · simp [fault, reads, circular]

/-- Two cells that read each other are an example. -/
theorem marked_of_two_cells :
    ∃ sheet cell,
      sheet = ((blank 1 2).perform (.setText ⟨0, 0⟩ "=B1")).perform (.setText ⟨0, 1⟩ "=A1") ∧
      Reached sheet ∧ sheet.cell? ⟨0, 0⟩ = some cell ∧
      cell.error = some .circularReference ∧ cell.value = "#CYCLE!" := by
  have start : (blank 1 2).Reached := reached_blank (by decide)
  have reached := (start.performed (.setText ⟨0, 0⟩ "=B1")).performed (.setText ⟨0, 1⟩ "=A1")
  have apart : (⟨0, 0⟩ : Address) ≠ ⟨0, 1⟩ := by decide
  have texts := start.twoTexts apart rfl rfl "=B1" "=A1"
  obtain ⟨cell, inside, text⟩ := texts.exists_first
  have circular := texts.onCycle_first apart (by decide +kernel) (by decide +kernel)
  have formula : cell.formula? = some "B1".toList := by
    rw [Cell.formula?, text]
    decide
  have markers := marked_iff_of_reached reached inside
  have error := markers.2.2.1.2 ⟨"B1".toList, formula, by decide +kernel, circular⟩
  exact ⟨_, cell, rfl, reached, inside, error, markers.2.2.2 error⟩

end Worksheet.Sheet
