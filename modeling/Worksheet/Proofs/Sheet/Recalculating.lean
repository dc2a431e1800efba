import Worksheet.Proofs.Sheet.Consistency
import Worksheet.Proofs.Sheet.Entering

/-!
# Reached sheets are consistent

A recalculation makes a sheet consistent in which only cells that can be reached
from the recalculated one show something older.  This is the case after a text
has been committed: the links into the cell of the new text are the only ones
that change, and a cycle that is closed or broken by them passes through that
cell.
-/

namespace Worksheet.Sheet

open Relation

variable {sheet : Sheet} {root : Address}

/-! ## The effect of a recalculation -/

/-- What a recalculation does to a sheet: the cells of an ordered list are
evaluated one after another, and nothing is left in the guard. -/
structure Recalculated (before after : Sheet) (root : Address)
    (steps : List (Address × Bool)) : Prop where
  mem_steps : ∀ address, address ∈ steps.map Prod.fst ↔ before.graph.Reaches root address
  distinct : (steps.map Prod.fst).Nodup
  ordered : (steps.map Prod.fst).Pairwise fun first later =>
    before.graph.Reaches later first → before.graph.Reaches first later
  marked : ∀ step ∈ steps, (step.2 = true ↔ OnCycle before.graph.Feeds step.1)
  inputs : SameInputs before after
  idle : ∀ address, after.isEvaluating address = false
  cells : ∃ start : Sheet, SameInputs before start ∧
    (∀ address, start.cell? address = before.cell? address) ∧
    ∀ address, after.cell? address = (start.evaluateAll steps).cell? address

/-- The plan of a recalculation, with the guard and the scope while it goes on. -/
def planFrom (sheet : Sheet) (root : Address) : Cascade × Guard × GuardScope :=
  Cascade.plan sheet.graph root (sheet.guard.hold root) ⟨#[root]⟩

/-- The sheet while a recalculation goes on, before the first evaluation. -/
def guardedFrom (sheet : Sheet) (root : Address) : Sheet :=
  { sheet with guard := (sheet.planFrom root).2.1 }

/-- A recalculation that is allowed to start evaluates the cells of its plan. -/
theorem recalculate_eq (inside : sheet.contains root = true)
    (idle : sheet.isEvaluating root = false) :
    sheet.recalculate root =
      let plan := sheet.planFrom root
      let run := evaluateFrom (sheet.guardedFrom root) [] plan.1.steps
      { sheet := { run.1 with guard := run.1.guard.release plan.2.2 }
        result := Evaluation.firstFault run.2
        log :=
          (LogEvent.cascade root plan.1.order :: run.2.flatMap Evaluation.events).toArray } := by
  have free : sheet.guard.enter? root = some (sheet.guard.hold root, ⟨#[root]⟩) := by
    rw [isEvaluating] at idle
    simp [Guard.enter?, idle]
  simp only [recalculate, inside, free]
  rfl

theorem recalculate_sheet (inside : sheet.contains root = true)
    (idle : sheet.isEvaluating root = false) :
    (sheet.recalculate root).sheet =
      let plan := sheet.planFrom root
      let evaluated := (sheet.guardedFrom root).evaluateAll plan.1.steps
      { evaluated with guard := evaluated.guard.release plan.2.2 } := by
  rw [recalculate_eq inside idle]
  simp only [evaluateFrom_fst]

/-- When a recalculation starts, only its root is in the guard. -/
theorem Linked.isEvaluating_hold_iff (linked : sheet.Linked) (root cell : Address) :
    (sheet.guard.hold root).isEvaluating cell = true ↔ cell = root := by
  have free := linked.idle cell
  rw [isEvaluating] at free
  rw [Guard.isEvaluating_hold, free, Bool.or_false, beq_iff_eq, eq_comm]

theorem Linked.plans (linked : sheet.Linked) (root : Address) :
    Cascade.Plans sheet.graph root (sheet.planFrom root).1 :=
  Cascade.plan_plans (linked.isEvaluating_hold_iff root) rfl

theorem Linked.held (linked : sheet.Linked) (root : Address) :
    Cascade.Held sheet.graph root (sheet.planFrom root).2.1 (sheet.planFrom root).2.2 :=
  Cascade.plan_held (linked.isEvaluating_hold_iff root) rfl

theorem recalculate_recalculated (linked : sheet.Linked) (inside : sheet.contains root = true) :
    ∃ steps, Recalculated sheet (sheet.recalculate root).sheet root steps := by
  rw [recalculate_sheet inside (linked.idle root)]
  have plans := linked.plans root
  have held := linked.held root
  unfold guardedFrom
  generalize sheet.planFrom root = plan at plans held
  obtain ⟨cascade, guard, scope⟩ := plan
  dsimp only at plans held ⊢
  have start : SameInputs sheet { sheet with guard } := ⟨rfl, rfl, rfl, rfl, rfl, rfl, fun _ => rfl⟩
  have done := start.trans (evaluateAll_sameInputs { sheet with guard } cascade.steps)
  refine ⟨cascade.steps, ?_⟩
  constructor
  case mem_steps =>
    intro address
    rw [Cascade.steps_map_fst]
    exact plans.mem_order address
  case distinct =>
    rw [Cascade.steps_map_fst]
    exact plans.distinct
  case ordered =>
    rw [Cascade.steps_map_fst]
    exact plans.ordered
  case marked => exact plans.marked
  case inputs =>
    exact ⟨done.operators, done.graph, done.history, done.filePath, done.modified,
      done.dimensions, done.entered⟩
  case idle =>
    intro address
    rw [isEvaluating]
    dsimp only
    rw [evaluateAll_guard, Guard.isEvaluating_release, Bool.and_eq_false_iff]
    by_cases reached : sheet.graph.Reaches root address
    · left
      simpa using (held.released address).2 reached
    · right
      rw [← Bool.not_eq_true, held.guarded]
      exact reached
  case cells => exact ⟨{ sheet with guard }, start, fun _ => rfl, fun _ => rfl⟩

namespace Recalculated

variable {before after : Sheet} {steps : List (Address × Bool)}

theorem linked (recalculated : Recalculated before after root steps) (linked : before.Linked) :
    after.Linked := by
  have inputs := recalculated.inputs
  constructor
  case operators => exact inputs.operators.trans linked.operators
  case idle => exact recalculated.idle
  case precedents =>
    intro address
    rw [inputs.graph, inputs.references]
    exact linked.precedents address
  case mirrored =>
    rw [inputs.graph]
    exact linked.mirrored

/-- A cell that cannot be reached stays as it is. -/
theorem cell?_of_unreached (recalculated : Recalculated before after root steps)
    {address : Address} (unreached : ¬ before.graph.Reaches root address) :
    after.cell? address = before.cell? address := by
  obtain ⟨start, _, same, cells⟩ := recalculated.cells
  rw [← recalculated.mem_steps] at unreached
  rw [cells, cell?_evaluateAll_of_notMem unreached, same]

/-- A cell that can be reached shows what was computed for it in its turn, and the
cells that it reads have had theirs before if it is not on a cycle. -/
theorem computed_of_reached (recalculated : Recalculated before after root steps)
    (linked : before.Linked) {address : Address} {cell : Cell}
    (inside : after.cell? address = some cell) (reached : before.graph.Reaches root address) :
    ∃ past onCycle, Computed after address cell past onCycle := by
  have inputs := recalculated.inputs
  have turn := (recalculated.mem_steps address).2 reached
  obtain ⟨⟨found, onCycle⟩, member, rfl⟩ := List.mem_map.1 turn
  obtain ⟨earlier, later, split⟩ := List.append_of_mem member
  have distinct := recalculated.distinct
  have ordered := recalculated.ordered
  rw [split, List.map_append, List.map_cons] at distinct ordered
  have last : found ∉ later.map Prod.fst := (List.nodup_cons.1 distinct.of_append_right).1
  obtain ⟨start, startInputs, _, cells⟩ := recalculated.cells
  have contained : start.contains found = true := by
    have texts := (inputs.text found).trans (startInputs.text found).symm
    rw [inside, Option.map_some, eq_comm, Option.map_eq_some_iff] at texts
    obtain ⟨old, present, _⟩ := texts
    exact contains_of_cell? present
  obtain ⟨past, result, pastInputs, present, shows, others⟩ :=
    exists_shows_of_turn earlier onCycle last contained
  rw [← split] at present others
  obtain rfl : cell = result := by
    rw [← cells, inside] at present
    exact Option.some.inj present
  have fromBefore : SameInputs before past := startInputs.trans pastInputs
  refine ⟨past, onCycle, ?_⟩
  constructor
  case operators => exact fromBefore.operators.trans inputs.operators.symm
  case precedents =>
    rw [fromBefore.graph, inputs.references]
    exact linked.precedents found
  case text =>
    rw [fromBefore.text, ← inputs.text, inside]
    rfl
  case marked =>
    rw [inputs.reads, ← linked.onCycle_iff]
    exact recalculated.marked _ member
  case shows => exact shows
  case inputs =>
    intro alone referenced names apart
    rw [inputs.references] at names
    rw [inputs.reads, ← linked.onCycle_iff, OnCycle.iff_mutual] at alone
    refine ReadsAlike.of_cell?_eq ?_
    rw [cells]
    apply others referenced apart
    -- A turn after that of the cell itself would put the two on a cycle.
    intro afterwards
    have feeds : before.graph.Reaches referenced found :=
      ReflTransGen.single ((linked.feeds_iff referenced found).2 names)
    have back := List.rel_of_pairwise_cons (List.pairwise_append.1 ordered).2.1 afterwards feeds
    exact alone ⟨referenced, apart, back, feeds⟩

end Recalculated

/-- A recalculation makes a sheet consistent if all cells that cannot be reached
show what was computed for them. -/
theorem consistent_recalculate (linked : sheet.Linked) (inside : sheet.contains root = true)
    (others : ∀ address cell, sheet.cell? address = some cell →
      ¬ sheet.graph.Reaches root address →
        ∃ past onCycle, Computed sheet address cell past onCycle) :
    (sheet.recalculate root).sheet.Consistent := by
  obtain ⟨steps, recalculated⟩ := recalculate_recalculated linked inside
  generalize (sheet.recalculate root).sheet = after at recalculated
  have inputs := recalculated.inputs
  refine ⟨recalculated.linked linked, ?_⟩
  intro address cell present
  by_cases reached : sheet.graph.Reaches root address
  · exact recalculated.computed_of_reached linked present reached
  · rw [recalculated.cell?_of_unreached reached] at present
    obtain ⟨past, onCycle, computed⟩ := others address cell present reached
    refine ⟨past, onCycle,
      computed.transfer rfl inputs.operators (inputs.references address) ?_ ?_⟩
    · rw [inputs.reads]
    · intro referenced names
      have unreached : ¬ sheet.graph.Reaches root referenced := by
        intro reaches
        exact reached (reaches.tail ((linked.feeds_iff referenced address).2 names))
      exact ReadsAlike.of_cell?_eq (recalculated.cell?_of_unreached unreached).symm

/-! ## Steps of the operations -/

theorem Consistent.recalculate (consistent : sheet.Consistent) (address : Address) :
    (sheet.recalculate address).sheet.Consistent := by
  by_cases inside : sheet.contains address = true
  · apply consistent_recalculate consistent.toLinked inside
    intro other cell present _
    exact consistent.computed other cell present
  · rw [Sheet.recalculate, if_pos (by simpa using inside)]
    exact consistent

section

variable {address : Address} {cell : Cell}

theorem cell?_withTextLinked (inside : sheet.cell? address = some cell) (text : String)
    (other : Address) :
    (sheet.withTextLinked address cell text).cell? other =
      if other = address then some (cell.withText text) else sheet.cell? other :=
  cell?_setCell inside (cell.withText text) other

theorem references_withTextLinked (inside : sheet.cell? address = some cell) (text : String)
    (other : Address) :
    (sheet.withTextLinked address cell text).references other =
      if other = address then Cell.referencesOf text else sheet.references other := by
  unfold references
  rw [cell?_withTextLinked inside]
  by_cases same : other = address
  · simp [same, Cell.withText]
  · simp [same]

theorem linked_withTextLinked (linked : sheet.Linked) (inside : sheet.cell? address = some cell)
    (text : String) : (sheet.withTextLinked address cell text).Linked := by
  constructor
  case operators => exact linked.operators
  case idle => exact linked.idle
  case precedents =>
    intro other
    apply (DependencyGraph.precedentsOf_setReferences _ _ _ _).trans
    rw [references_withTextLinked inside, referencesOf_eraseDups]
    split
    · rfl
    · exact linked.precedents other
  case mirrored => exact DependencyGraph.mirrored_setReferences linked.mirrored _ _

/-- Storing a text disturbs only the cells that can be reached from its cell. -/
theorem computed_withTextLinked (consistent : sheet.Consistent)
    (inside : sheet.cell? address = some cell) (text : String) {other : Address} {seen : Cell}
    (present : (sheet.withTextLinked address cell text).cell? other = some seen)
    (unreached : ¬ (sheet.withTextLinked address cell text).graph.Reaches address other) :
    ∃ past onCycle,
      Computed (sheet.withTextLinked address cell text) other seen past onCycle := by
  have linked := consistent.toLinked
  have nowLinked := linked_withTextLinked linked inside text
  have cells := cell?_withTextLinked inside text
  have references := references_withTextLinked inside text
  generalize sheet.withTextLinked address cell text = stored at *
  have apart : other ≠ address := by
    rintro rfl
    exact unreached ReflTransGen.refl
  rw [cells, if_neg apart] at present
  obtain ⟨past, onCycle, computed⟩ := consistent.computed other seen present
  refine ⟨past, onCycle, computed.transfer rfl ?_ ?_ ?_ ?_⟩
  · rw [nowLinked.operators, linked.operators]
  · rw [references, if_neg apart]
  · rw [← nowLinked.onCycle_iff, ← linked.onCycle_iff]
    refine (OnCycle.iff_of_unreached ?_ unreached).symm
    intro source reader readerApart
    rw [linked.feeds_iff, nowLinked.feeds_iff, references, if_neg readerApart]
  · intro referenced names
    refine ReadsAlike.of_cell?_eq ?_
    rw [cells, if_neg]
    rintro rfl
    refine unreached (ReflTransGen.single ((nowLinked.feeds_iff referenced other).2 ?_))
    rw [references, if_neg apart]
    exact names

end

theorem contains_withTextLinked {address : Address} {cell : Cell}
    (inside : sheet.cell? address = some cell) (text : String) :
    (sheet.withTextLinked address cell text).contains address = true := by
  have present := cell?_withTextLinked inside text address
  rw [if_pos rfl] at present
  exact contains_of_cell? present

theorem Consistent.commitText (consistent : sheet.Consistent) (address : Address)
    (text : String) : (sheet.commitText address text).sheet.Consistent := by
  cases inside : sheet.cell? address with
  | none =>
      rw [Sheet.commitText, inside]
      exact consistent
  | some cell =>
      rw [commitText_sheet inside]
      refine consistent_recalculate (linked_withTextLinked consistent.toLinked inside text)
        (contains_withTextLinked inside text) ?_
      intro other seen
      exact computed_withTextLinked consistent inside text

theorem Consistent.commitColor (consistent : sheet.Consistent) (address : Address)
    (color : Color) : (sheet.commitColor address color).sheet.Consistent := by
  cases inside : sheet.cell? address with
  | none =>
      rw [Sheet.commitColor, inside]
      exact consistent
  | some cell =>
      rw [Sheet.commitColor, inside]
      refine consistent.congr rfl rfl rfl ?_
      intro other
      refine congrArg (Option.map _) (cell?_setCell inside { cell with color } other) |>.trans ?_
      split
      · next same =>
          subst same
          rw [inside]
          rfl
      · rfl

/-! ## Reached sheets -/

theorem keptBySteps_consistent : KeptBySteps Consistent := by
  constructor
  case toKeptByCommits =>
    constructor
    case commitText =>
      intro sheet address text consistent
      exact consistent.commitText address text
    case commitColor =>
      intro sheet address color consistent
      exact consistent.commitColor address color
  case recalculate =>
    intro sheet address consistent
    exact consistent.recalculate address
  case blank =>
    intro sheet consistent
    rw [consistent.operators]
    exact consistent_blank _ _
  case noted =>
    intro sheet history modified consistent
    exact consistent.congr rfl rfl rfl fun _ => rfl
  case adopted =>
    intro sheet changes filePath consistent
    exact consistent.congr rfl rfl rfl fun _ => rfl

/-- Every reached sheet is consistent. -/
theorem Reached.consistent (reached : sheet.Reached) : sheet.Consistent :=
  keptBySteps_consistent.of_reached consistent_blank reached

/-! ## Texts and dimensions -/

/-- Committing a text changes the text of its own cell and of no other one. -/
theorem text_commitText (linked : sheet.Linked) {address : Address}
    (inside : sheet.contains address = true) (text : String) (other : Address) :
    ((sheet.commitText address text).sheet.cell? other).map Cell.text =
      if other = address then some text else (sheet.cell? other).map Cell.text := by
  obtain ⟨cell, present⟩ := exists_cell?_of_contains inside
  obtain ⟨steps, recalculated⟩ := recalculate_recalculated
    (linked_withTextLinked linked present text) (contains_withTextLinked present text)
  rw [commitText_sheet present, recalculated.inputs.text, cell?_withTextLinked present]
  split <;> rfl

theorem Linked.record (linked : sheet.Linked) (entry : HistoryEntry) :
    (sheet.record entry).Linked :=
  ⟨linked.operators, linked.idle, linked.precedents, linked.mirrored⟩

/-- Giving a cell of a reached sheet a text changes no other text. -/
theorem Reached.text_setText (reached : sheet.Reached) (address : Address)
    (inside : sheet.contains address = true) (text : String) (other : Address) :
    ((sheet.setText address text).sheet.cell? other).map Cell.text =
      if other = address then some text else (sheet.cell? other).map Cell.text := by
  have linked := reached.consistent.toLinked
  obtain ⟨cell, present⟩ := exists_cell?_of_contains inside
  rw [setText]
  rw [present]
  dsimp only
  split
  · exact text_commitText linked inside text other
  · exact text_commitText (linked.record _) inside text other

theorem dimensions_commitText (linked : sheet.Linked) (address : Address) (text : String) :
    (sheet.commitText address text).sheet.dimensions = sheet.dimensions := by
  cases present : sheet.cell? address with
  | none =>
      rw [Sheet.commitText, present]
      rfl
  | some cell =>
      obtain ⟨steps, recalculated⟩ := recalculate_recalculated
        (linked_withTextLinked linked present text) (contains_withTextLinked present text)
      rw [commitText_sheet present, recalculated.inputs.dimensions]
      exact dimensions_setCell sheet address (cell.withText text)

/-- Giving a cell of a reached sheet a text does not change the dimensions. -/
theorem Reached.dimensions_setText (reached : sheet.Reached) (address : Address)
    (text : String) : (sheet.setText address text).sheet.dimensions = sheet.dimensions := by
  have linked := reached.consistent.toLinked
  rw [setText]
  split
  · rfl
  · next cell present =>
      dsimp only
      split
      · exact dimensions_commitText linked address text
      · exact dimensions_commitText (linked.record _) address text

/-- The texts after two cells have been given one. -/
theorem Reached.text_setText_setText (reached : sheet.Reached) (first second : Address)
    (firstInside : sheet.contains first = true) (secondInside : sheet.contains second = true)
    (text text' : String) (other : Address) :
    (((sheet.perform (.setText first text)).perform (.setText second text')).cell? other).map
        Cell.text =
      if other = second then some text'
      else if other = first then some text else (sheet.cell? other).map Cell.text := by
  have dimensions := reached.dimensions_setText first text
  have inside := (contains_congr dimensions second).trans secondInside
  have edited := reached.performed (.setText first text)
  apply (edited.text_setText second inside text' other).trans
  congr 1
  exact reached.text_setText first firstInside text other

end Worksheet.Sheet
