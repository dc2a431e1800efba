import Mathlib.Data.List.Nodup
import Worksheet.Dependency.Cascade

/-!
# Met cells and their numbers

What each operation on the components of a walk does to the index of a cell, to its low
number and to the stack.  Meeting a cell gives it the next index, which is its low number
at first.  Lowering changes one low number.  Taking a component off the stack changes the
stack only.
-/

namespace Worksheet.Cascade.Components

/-- The index of a cell that has been met. -/
def indexOf (components : Components) (cell : Address) : Nat :=
  (components.visits.getD cell ⟨0, 0⟩).index

/-- The low number of a cell that has been met. -/
def lowOf (components : Components) (cell : Address) : Nat :=
  (components.visits.getD cell ⟨0, 0⟩).low

variable {components : Components} {cell : Address}

theorem indexOf_eq {visit : Visit} (found : components.visits[cell]? = some visit) :
    components.indexOf cell = visit.index := by
  rw [indexOf, Std.HashMap.getD_eq_getD_getElem?, found]
  rfl

theorem lowOf_eq {visit : Visit} (found : components.visits[cell]? = some visit) :
    components.lowOf cell = visit.low := by
  rw [lowOf, Std.HashMap.getD_eq_getD_getElem?, found]
  rfl

/-- The numbers of all cells come from their visits. -/
theorem numbers_eq {left : Components} (visits : left.visits = components.visits)
    (other : Address) :
    left.indexOf other = components.indexOf other ∧ left.lowOf other = components.lowOf other := by
  unfold indexOf lowOf
  rw [visits]
  exact ⟨rfl, rfl⟩

/-! ## Meeting a cell -/

section

variable (unmet : cell ∉ components.visits)

@[simp]
theorem stack_discover : (components.discover cell unmet).stack = cell :: components.stack :=
  rfl

theorem mem_visits_discover (other : Address) :
    other ∈ (components.discover cell unmet).visits ↔ other = cell ∨ other ∈ components.visits := by
  unfold discover
  rw [Std.HashMap.mem_insert, beq_iff_eq, eq_comm]

theorem size_visits_discover :
    (components.discover cell unmet).visits.size = components.visits.size + 1 := by
  unfold discover
  rw [Std.HashMap.size_insert, if_neg unmet]

/-- A new cell gets the next index and no lower number. -/
theorem discover_self :
    (components.discover cell unmet).indexOf cell = components.visits.size ∧
      (components.discover cell unmet).lowOf cell = components.visits.size := by
  unfold indexOf lowOf discover
  rw [Std.HashMap.getD_insert_self]
  exact ⟨rfl, rfl⟩

/-- The numbers of the cells that have been met before stay as they are. -/
theorem discover_of_mem {other : Address} (met : other ∈ components.visits) :
    (components.discover cell unmet).indexOf other = components.indexOf other ∧
      (components.discover cell unmet).lowOf other = components.lowOf other := by
  have apart : (cell == other) = false := by
    apply beq_false_of_ne
    rintro rfl
    exact unmet met
  unfold indexOf lowOf discover
  rw [Std.HashMap.getD_insert, apart]
  exact ⟨rfl, rfl⟩

end

/-! ## Lowering -/

@[simp]
theorem mem_visits_lower (index : Nat) (other : Address) :
    other ∈ (components.lower cell index).visits ↔ other ∈ components.visits :=
  Std.HashMap.mem_modify

@[simp]
theorem size_visits_lower (index : Nat) :
    (components.lower cell index).visits.size = components.visits.size :=
  Std.HashMap.size_modify

@[simp]
theorem indexOf_lower (index : Nat) (other : Address) :
    (components.lower cell index).indexOf other = components.indexOf other := by
  unfold indexOf lower
  simp only [Std.HashMap.getD_eq_getD_getElem?, Std.HashMap.getElem?_modify, beq_iff_eq]
  split
  · next same =>
      subst same
      cases components.visits[cell]? with
      | none => rfl
      | some visit => rfl
  · rfl

/-- A cell that has been met gets the smaller number, and no other low number changes. -/
theorem lowOf_lower (met : cell ∈ components.visits) (index : Nat) (other : Address) :
    (components.lower cell index).lowOf other =
      if other = cell then min (components.lowOf cell) index else components.lowOf other := by
  unfold lowOf lower
  simp only [Std.HashMap.getD_eq_getD_getElem?, Std.HashMap.getElem?_modify, beq_iff_eq]
  by_cases same : other = cell
  · subst same
    rw [if_pos rfl, if_pos rfl, Std.HashMap.getElem?_eq_some_getElem met]
    rfl
  · rw [if_neg (Ne.symm same), if_neg same]

/-- Lowering does not make a number greater. -/
theorem lowOf_lower_le (met : cell ∈ components.visits) (index : Nat) (other : Address) :
    (components.lower cell index).lowOf other ≤ components.lowOf other := by
  rw [lowOf_lower met]
  split
  · next same =>
      rw [same]
      exact Nat.min_le_left _ _
  · exact Nat.le_refl _

/-! ## Taking a component off the stack -/

/-- The cells down to a given one are taken off the stack, and nothing else changes. -/
theorem takeOnto_eq {above below : List Address} (outside : cell ∉ above)
    (shape : components.stack = above ++ cell :: below) (taken : List Address) :
    ∃ left, takeOnto cell (above ++ cell :: below) components shape taken =
        (cell :: above.reverse ++ taken, left) ∧
      left.visits = components.visits ∧ left.stack = below := by
  induction above generalizing components taken with
  | nil =>
      refine ⟨components.pop shape, ?_, rfl, rfl⟩
      unfold takeOnto
      dsimp only [List.nil_append]
      rw [if_pos rfl]
      rfl
  | cons top above ih =>
      rw [List.mem_cons, not_or] at outside
      have popped : (components.pop shape).stack = above ++ cell :: below := rfl
      obtain ⟨left, result, visits, stack⟩ := ih outside.2 popped (top :: taken)
      refine ⟨left, ?_, visits, stack⟩
      unfold takeOnto
      dsimp only [List.cons_append]
      rw [if_neg (Ne.symm outside.1), List.reverse_cons]
      simpa using result

/-- What is above the first cell of a component comes off the stack with it. -/
theorem take_eq {above below : List Address}
    (shape : components.stack = above ++ cell :: below) :
    ∃ left, components.take cell = (cell :: above.reverse, left) ∧
      left.visits = components.visits ∧ left.stack = below := by
  have outside : cell ∉ above := by
    have distinct := components.distinct
    rw [shape] at distinct
    intro member
    exact List.disjoint_of_nodup_append distinct member List.mem_cons_self
  have opened : ∀ {stack} (named : components.stack = stack),
      components.take cell = takeOnto cell stack components named [] := by
    rintro stack rfl
    rfl
  rw [opened shape]
  simpa using takeOnto_eq outside shape []

end Worksheet.Cascade.Components
