import Std.Data.HashMap
import Worksheet.Address.Basic

/-!
# One direction of a reference graph

A table of links keeps, for every cell, the list of the cells linked to it, in
the order in which the links were made and without repetition.  Cells without
links take no room in the table, so the table is empty if there are no links.
-/

namespace Worksheet

/-- Lists of linked cells; a cell without links has no entry. -/
structure Links where
  entries : Std.HashMap Address (List Address)

namespace Links

/-- No links. -/
def empty : Links :=
  ⟨∅⟩

/-- The cells linked to a cell, oldest link first. -/
def of (links : Links) (cell : Address) : List Address :=
  links.entries.getD cell []

/-- Has a cell any links? -/
def has (links : Links) (cell : Address) : Bool :=
  links.entries.contains cell

/-- Are there no links at all? -/
def isEmpty (links : Links) : Bool :=
  links.entries.isEmpty

/-- Link `target` to `cell`, after the links that are there.  An existing link
stays where it is. -/
def link (links : Links) (cell target : Address) : Links :=
  let old := links.of cell
  if old.contains target then links
  else ⟨links.entries.insert cell (old ++ [target])⟩

/-- Remove the link of `target` to `cell`. -/
def unlink (links : Links) (cell target : Address) : Links :=
  match links.entries[cell]? with
  | none => links
  | some old =>
      let kept := old.filter (· != target)
      if kept.isEmpty then ⟨links.entries.erase cell⟩
      else ⟨links.entries.insert cell kept⟩

/-- Remove all links to a cell. -/
def removeAll (links : Links) (cell : Address) : Links :=
  ⟨links.entries.erase cell⟩

/-- Making a link changes the list of its own cell only. -/
theorem of_link (links : Links) (cell target other : Address) :
    (links.link cell target).of other =
      if other = cell then
        if (links.of cell).contains target then links.of cell else links.of cell ++ [target]
      else links.of other := by
  unfold link
  dsimp only
  split
  · by_cases same : other = cell <;> simp [same]
  · by_cases same : other = cell
    · simp only [same, of, Std.HashMap.getD_insert_self, if_true]
    · have apart : ¬ cell = other := fun h => same h.symm
      simp [same, of, Std.HashMap.getD_insert, apart]

/-- Removing a link changes the list of its own cell only. -/
theorem of_unlink (links : Links) (cell target other : Address) :
    (links.unlink cell target).of other =
      if other = cell then (links.of cell).filter (· != target) else links.of other := by
  unfold unlink
  by_cases same : other = cell
  · subst same
    rw [if_pos rfl]
    split
    · next found => simp [of, Std.HashMap.getD_eq_getD_getElem?, found]
    · next old found =>
        dsimp only
        split
        · next nothing =>
            simp only [of, Std.HashMap.getD_erase_self]
            rw [Std.HashMap.getD_eq_getD_getElem?, found]
            exact (List.isEmpty_iff.1 nothing).symm
        · simp only [of, Std.HashMap.getD_insert_self]
          rw [Std.HashMap.getD_eq_getD_getElem?, found]
          rfl
  · have apart : ¬ cell = other := fun h => same h.symm
    rw [if_neg same]
    split
    · rfl
    · dsimp only
      split
      · simp [of, Std.HashMap.getD_erase, apart]
      · simp [of, Std.HashMap.getD_insert, apart]

/-- Removing all links to a cell leaves the other lists as they are. -/
theorem of_removeAll (links : Links) (cell other : Address) :
    (links.removeAll cell).of other = if other = cell then [] else links.of other := by
  by_cases same : other = cell
  · simp [removeAll, of, same]
  · have apart : ¬ cell = other := fun h => same h.symm
    simp [removeAll, of, same, Std.HashMap.getD_erase, apart]

/-- Removing the links of a cell from several lists removes it from these lists only. -/
theorem of_foldl_unlink (links : Links) (dropped : List Address) (target other : Address) :
    (dropped.foldl (fun links cell => links.unlink cell target) links).of other =
      if other ∈ dropped then (links.of other).filter (· != target) else links.of other := by
  induction dropped generalizing links with
  | nil => rfl
  | cons first dropped ih =>
      rw [List.foldl_cons, ih, of_unlink]
      by_cases same : other = first
      · subst same
        simp
      · simp [same]

end Links

end Worksheet
