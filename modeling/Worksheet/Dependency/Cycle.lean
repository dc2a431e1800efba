import Std.Data.HashMap
import Std.Data.HashSet
import Worksheet.Address.Basic

/-!
# Reference cycles through a cell

A depth-first search along precedents for a path that leads from a cell back to
itself.  Each cell is looked into once.  A cell from which the start has not
been reached by then cannot reach it later on, so cycles that do not pass
through the start are not reported and do no harm.

Precedents are given by a function and a list of cells outside of which no cell
has any.  The search is over at the latest when all these cells have been
looked into.

Where every cell has precedents, going from one to the next must come back to some
cell, and there is a cycle through that one.
-/

namespace Worksheet

/-- The number of cells of a list that are not in a set. -/
def unseenCount (cells : List Address) (seen : Std.HashSet Address) : Nat :=
  (cells.filter fun cell => !seen.contains cell).length

/-- Putting a cell of the list into the set leaves fewer outside. -/
theorem unseenCount_insert_lt {cells : List Address} {seen : Std.HashSet Address}
    {cell : Address} (listed : cell ∈ cells) (unseen : seen.contains cell = false) :
    unseenCount cells (seen.insert cell) < unseenCount cells seen := by
  have fewer : (fun other => !(seen.insert cell).contains other) =
      fun other => !(cell == other) && !seen.contains other := by
    funext other
    rw [Std.HashSet.contains_insert, Bool.not_or]
  unfold unseenCount
  rw [fewer, ← List.filter_filter, List.length_filter_lt_length_iff_exists]
  refine ⟨cell, ?_, by simp⟩
  rw [List.mem_filter, unseen]
  exact ⟨listed, rfl⟩

namespace Cycle

/-- Continue a search.  The stack holds the path from the start to the cell that
is looked into, innermost first, each with its precedents that are still to be
tried. -/
def search (start : Address) (precedents : Address → List Address)
    (unvisited : Std.HashSet Address) :
    List (Address × List Address) → Option (List Address)
  | [] => none
  | (_, []) :: path => search start precedents unvisited path
  | (cell, next :: pending) :: path =>
      if next = start then some ((start :: cell :: path.map Prod.fst).reverse)
      else if unvisited.contains next then
        search start precedents (unvisited.erase next)
          ((next, precedents next) :: (cell, pending) :: path)
      else search start precedents unvisited ((cell, pending) :: path)
termination_by path =>
  (unvisited.size, path.foldr (fun entry size => entry.2.length + 1 + size) 0)
decreasing_by
  · apply Prod.Lex.right
    simp
  · apply Prod.Lex.left
    next found =>
      rw [Std.HashSet.size_erase]
      have inside : next ∈ unvisited := found
      have positive : 0 < unvisited.size := by
        rw [Nat.pos_iff_ne_zero]
        intro zero
        have none_left := Std.HashSet.isEmpty_eq_size_eq_zero (m := unvisited)
        rw [zero] at none_left
        exact absurd inside (Std.HashSet.not_mem_of_isEmpty (by simpa using none_left))
      simp [inside]
      omega
  · apply Prod.Lex.right
    simp

/-- A path from a cell along precedents back to itself, if there is one.  Only
the cells of `support` have precedents. -/
def through (start : Address) (precedents : Address → List Address) (support : List Address) :
    Option (List Address) :=
  search start precedents ((Std.HashSet.ofList support).erase start) [(start, precedents start)]

/-- Go from a cell to the first of its precedents, and on from there, up to a cell that
comes up again.  There is none if a cell without precedents is met. -/
def revisited? (precedents : Std.HashMap Address (List Address)) (seen : Std.HashSet Address)
    (current : Address) : Option Address :=
  if _again : seen.contains current then some current
  else
    match _found : precedents[current]? with
    | some (next :: _) => revisited? precedents (seen.insert current) next
    | _ => none
termination_by unseenCount precedents.keys seen
decreasing_by
  apply unseenCount_insert_lt
  · rw [Std.HashMap.mem_keys, Std.HashMap.mem_iff_isSome_getElem?, _found]
    rfl
  · simpa using _again

/-- A cycle to which the precedents of a cell lead. -/
def from? (precedents : Std.HashMap Address (List Address)) (start : Address) :
    Option (List Address) :=
  match revisited? precedents ∅ start with
  | none => none
  | some cell => through cell (fun other => precedents.getD other []) precedents.keys

end Cycle

end Worksheet
