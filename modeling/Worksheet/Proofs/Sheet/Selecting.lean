import Mathlib.Data.List.Basic
import Worksheet.Sheet.Grid

/-!
# Selected items of a grid

The items with a property are found by going backwards through the places of the
grid.  Each is found once, at its own address, and they come row by row.  What is
selected is known from the items at all addresses.
-/

namespace Worksheet.Grid

variable {α : Type} {grid : Grid α} {wanted : Address → α → Bool}

/-! ## Places and addresses -/

theorem index_addressAt (grid : Grid α) (place : Nat) :
    grid.index (grid.addressAt place) = place :=
  Nat.div_add_mod' place grid.columns

theorem contains_addressAt {place : Nat} (inside : place < grid.items.size) :
    grid.contains (grid.addressAt place) = true := by
  rw [grid.size_items] at inside
  have positive : 0 < grid.columns := by
    rw [Nat.pos_iff_ne_zero]
    intro none
    rw [none, Nat.mul_zero] at inside
    exact Nat.not_lt_zero _ inside
  rw [Nat.mul_comm] at inside
  rw [contains, Bool.and_eq_true, decide_eq_true_iff, decide_eq_true_iff]
  exact ⟨Nat.div_lt_of_lt_mul inside, Nat.mod_lt _ positive⟩

theorem addressAt_index {address : Address} (inside : grid.contains address = true) :
    grid.addressAt (grid.index address) = address :=
  index_inj (contains_addressAt (index_lt_size inside)) inside (index_addressAt grid _)

/-- The item at a place is the one at its address. -/
theorem get?_addressAt {place : Nat} (inside : place < grid.items.size) :
    grid.get? (grid.addressAt place) = grid.items[place]? := by
  rw [get?, if_pos (contains_addressAt inside), index_addressAt]

/-- The item at an address is the one at its place. -/
theorem get?_eq_some_iff {address : Address} {item : α} :
    grid.get? address = some item ↔
      ∃ place < grid.items.size,
        grid.addressAt place = address ∧ grid.items[place]? = some item := by
  constructor
  · intro present
    have inside : grid.contains address = true := by
      rw [← isSome_get?, present]
      rfl
    rw [get?, if_pos inside] at present
    exact ⟨grid.index address, index_lt_size inside, addressAt_index inside, present⟩
  · rintro ⟨place, inside, rfl, present⟩
    rw [get?_addressAt inside, present]

/-! ## Selection -/

/-- The item at an address together with the address, if it has the property. -/
def pick? (grid : Grid α) (wanted : Address → α → Bool) (address : Address) :
    Option (Address × α) :=
  (grid.get? address).bind fun item => if wanted address item then some (address, item) else none

theorem pick?_eq_some_iff {address : Address} {entry : Address × α} :
    grid.pick? wanted address = some entry ↔
      entry.1 = address ∧ grid.get? address = some entry.2 ∧ wanted address entry.2 = true := by
  obtain ⟨place, item⟩ := entry
  simp only [pick?, Option.bind_eq_some_iff, Option.ite_none_right_eq_some, Option.some.injEq,
    Prod.mk.injEq]
  constructor
  · rintro ⟨_, present, has, rfl, rfl⟩
    exact ⟨rfl, present, has⟩
  · rintro ⟨rfl, present, has⟩
    exact ⟨item, present, has, rfl, rfl⟩

theorem selectBefore_eq {count : Nat} (within : count ≤ grid.items.size)
    (found : List (Address × α)) :
    grid.selectBefore wanted count found =
      (List.range count).filterMap (fun place => grid.pick? wanted (grid.addressAt place)) ++
        found := by
  induction count generalizing found with
  | zero => rfl
  | succ count ih =>
      have inside : count < grid.items.size := within
      have next := ih (Nat.le_of_lt inside)
      have present : grid.items[count]? = some grid.items[count] := Array.getElem?_eq_getElem inside
      rw [List.range_succ, List.filterMap_append, selectBefore, present]
      have last : grid.get? (grid.addressAt count) = some grid.items[count] :=
        (get?_addressAt inside).trans present
      dsimp only
      split
      · next has =>
          have picked : grid.pick? wanted (grid.addressAt count) =
              some (grid.addressAt count, grid.items[count]) :=
            pick?_eq_some_iff.2 ⟨rfl, last, has⟩
          rw [next, List.append_assoc]
          simp [picked]
      · next lacks =>
          have nothing : grid.pick? wanted (grid.addressAt count) = none := by
            rw [pick?, last, Option.bind_some, if_neg lacks]
          rw [next]
          simp [nothing]

/-- The selection goes through the places of the grid in order. -/
theorem select_eq (grid : Grid α) (wanted : Address → α → Bool) :
    grid.select wanted =
      (List.range grid.items.size).filterMap fun place =>
        grid.pick? wanted (grid.addressAt place) := by
  rw [select, selectBefore_eq (Nat.le_refl _), List.append_nil]

/-- What is selected are the items with the property, each with its address. -/
theorem mem_select {address : Address} {item : α} :
    (address, item) ∈ grid.select wanted ↔
      grid.get? address = some item ∧ wanted address item = true := by
  rw [select_eq, List.mem_filterMap]
  simp only [List.mem_range, pick?_eq_some_iff]
  constructor
  · rintro ⟨place, inside, rfl, present, has⟩
    exact ⟨present, has⟩
  · rintro ⟨present, has⟩
    obtain ⟨place, inside, rfl, _⟩ := get?_eq_some_iff.1 present
    exact ⟨place, inside, rfl, present, has⟩

/-- The selected items come row by row, each once. -/
theorem pairwise_select (grid : Grid α) (wanted : Address → α → Bool) :
    (grid.select wanted).Pairwise fun before after =>
      grid.index before.1 < grid.index after.1 := by
  rw [select_eq, List.pairwise_filterMap]
  refine List.Pairwise.imp ?_ List.pairwise_lt_range
  intro first second lower before beforePicked after afterPicked
  rw [(pick?_eq_some_iff.1 beforePicked).1, (pick?_eq_some_iff.1 afterPicked).1, index_addressAt,
    index_addressAt]
  exact lower

/-- Of two addresses of the grid, the one with the lower place comes first, row by row. -/
theorem precedes_of_index_lt {grid : Grid α} {first second : Address}
    (inside : grid.contains second = true) (lower : grid.index first < grid.index second) :
    first.row < second.row ∨ first.row = second.row ∧ first.column < second.column := by
  simp only [contains, Bool.and_eq_true, decide_eq_true_eq] at inside
  unfold index at lower
  rcases Nat.lt_trichotomy first.row second.row with above | same | below
  · exact .inl above
  · rw [same] at lower
    exact .inr ⟨same, Nat.lt_of_add_lt_add_left lower⟩
  · have behind : (second.row + 1) * grid.columns ≤ first.row * grid.columns :=
      Nat.mul_le_mul_right _ below
    rw [Nat.succ_mul] at behind
    omega

theorem nodup_select (grid : Grid α) (wanted : Address → α → Bool) :
    ((grid.select wanted).map Prod.fst).Nodup := by
  rw [List.Nodup, List.pairwise_map]
  refine List.Pairwise.imp ?_ (pairwise_select grid wanted)
  intro before after lower same
  rw [same] at lower
  exact Nat.lt_irrefl _ lower

/-- What is made of the selected items is the same in grids of the same size if it is
at every address. -/
theorem map_select_congr {β : Type} {first second : Grid α} (rows : first.rows = second.rows)
    (columns : first.columns = second.columns) (make : Address × α → β)
    (alike : ∀ address, (first.pick? wanted address).map make =
      (second.pick? wanted address).map make) :
    (first.select wanted).map make = (second.select wanted).map make := by
  have size : first.items.size = second.items.size := by
    rw [first.size_items, second.size_items, rows, columns]
  rw [select_eq, select_eq, List.map_filterMap, List.map_filterMap, size]
  apply List.filterMap_congr
  intro place _
  have address : first.addressAt place = second.addressAt place := by
    rw [addressAt, addressAt, columns]
  rw [address]
  exact alike _

end Worksheet.Grid
