import Worksheet.Proofs.Dependency.Returning

/-!
# Coming back to a cell

If each cell of a table has a first precedent in the table, then going from a cell to its
first precedent, and on from there, must come back to a cell.  This cell can be reached from
itself, so there is a cycle through it, and the search for one finds it.
-/

namespace Worksheet.Cycle

open Relation

/-- What a table of precedents says about a cell. -/
def listed (precedents : Std.HashMap Address (List Address)) (cell : Address) : List Address :=
  precedents.getD cell []

/-- Each cell of a table has a first precedent in the table. -/
def Endless (precedents : Std.HashMap Address (List Address)) : Prop :=
  ∀ cell ∈ precedents, ∃ next others,
    precedents[cell]? = some (next :: others) ∧ next ∈ precedents

variable {precedents : Std.HashMap Address (List Address)}

theorem names_first {cell next : Address} {others : List Address}
    (found : precedents[cell]? = some (next :: others)) :
    Names (listed precedents) cell next := by
  rw [Names, listed, Std.HashMap.getD_eq_getD_getElem?, found]
  exact List.mem_cons_self

/-- Cells that lead to the current one lead to its first precedent, and so does the current
one itself. -/
theorem leads_onward {seen : Std.HashSet Address} {current next : Address}
    (step : Names (listed precedents) current next)
    (leads : ∀ cell, seen.contains cell = true →
      TransGen (Names (listed precedents)) cell current) :
    ∀ cell, (seen.insert current).contains cell = true →
      TransGen (Names (listed precedents)) cell next := by
  intro cell member
  rw [Std.HashSet.contains_insert, Bool.or_eq_true, beq_iff_eq] at member
  rcases member with rfl | before
  · exact TransGen.single step
  · exact (leads cell before).tail step

/-- The cell that comes up again can be reached from itself. -/
theorem exists_revisited (endless : Endless precedents) (seen : Std.HashSet Address)
    (current : Address) (inside : current ∈ precedents)
    (leads : ∀ cell, seen.contains cell = true →
      TransGen (Names (listed precedents)) cell current) :
    ∃ cell, revisited? precedents seen current = some cell ∧
      TransGen (Names (listed precedents)) cell cell := by
  fun_induction revisited? precedents seen current with
  | case1 seen current again => exact ⟨current, rfl, leads current again⟩
  | case2 seen current _ next others found ih =>
      obtain ⟨first, rest, entry, firstInside⟩ := endless current inside
      rw [found] at entry
      cases entry
      exact ih firstInside (leads_onward (names_first found) leads)
  | case3 seen current _ none_ =>
      obtain ⟨first, rest, entry, _⟩ := endless current inside
      exact absurd entry (none_ first rest)

/-- In a table in which each cell has a first precedent, a cycle is found from any cell. -/
theorem exists_from? (endless : Endless precedents) {start : Address}
    (inside : start ∈ precedents) :
    ∃ cell path, from? precedents start = some path ∧ Returns (listed precedents) cell path := by
  obtain ⟨cell, found, around⟩ := exists_revisited endless ∅ start inside (by simp)
  have covers : Covers cell (listed precedents) precedents.keys := by
    intro other _ some
    rw [Std.HashMap.mem_keys]
    by_contra absent
    exact some (Std.HashMap.getD_eq_fallback absent)
  obtain ⟨path, result, returns⟩ := exists_returns covers around
  refine ⟨cell, path, ?_, returns⟩
  rw [from?, found]
  exact result

end Worksheet.Cycle
