import Worksheet.Address.Basic

/-!
# Grids

A grid is a rectangle of items, one for each address whose row and column lie
inside its bounds, kept row after row.  Its size never changes: an address
outside the bounds has no item, and nothing can be put there.
-/

namespace Worksheet

/-- A rectangle of items, kept row after row. -/
structure Grid (α : Type) where
  rows : Nat
  columns : Nat
  items : Array α
  size_items : items.size = rows * columns

namespace Grid

variable {α : Type}

/-- The grid that holds the same item everywhere. -/
def filled (rows columns : Nat) (item : α) : Grid α :=
  { rows, columns, items := Array.replicate (rows * columns) item, size_items := by simp }

/-- Does an address lie inside the bounds? -/
def contains (grid : Grid α) (address : Address) : Bool :=
  address.row < grid.rows && address.column < grid.columns

/-- The place of an address in row-major order. -/
def index (grid : Grid α) (address : Address) : Nat :=
  address.row * grid.columns + address.column

/-- The address at a place in row-major order. -/
def addressAt (grid : Grid α) (index : Nat) : Address :=
  ⟨index / grid.columns, index % grid.columns⟩

/-- The item at an address, if it lies inside the bounds. -/
def get? (grid : Grid α) (address : Address) : Option α :=
  if grid.contains address then grid.items[grid.index address]? else none

/-- Put an item at an address inside the bounds. -/
def set (grid : Grid α) (address : Address) (item : α) : Grid α :=
  if grid.contains address then
    { grid with
      items := grid.items.setIfInBounds (grid.index address) item
      size_items := by simp [grid.size_items] }
  else grid

/-- Among the first `count` items, those with a property, with their addresses,
in front of the items already found. -/
def selectBefore (grid : Grid α) (wanted : Address → α → Bool) :
    (count : Nat) → List (Address × α) → List (Address × α)
  | 0, found => found
  | count + 1, found =>
      match grid.items[count]? with
      | none => grid.selectBefore wanted count found
      | some item =>
          let address := grid.addressAt count
          if wanted address item then grid.selectBefore wanted count ((address, item) :: found)
          else grid.selectBefore wanted count found

/-- The items with a property, with their addresses, row by row. -/
def select (grid : Grid α) (wanted : Address → α → Bool) : List (Address × α) :=
  grid.selectBefore wanted grid.items.size []

/-- Every address inside the bounds has a place among the items. -/
theorem index_lt_size {grid : Grid α} {address : Address} (h : grid.contains address = true) :
    grid.index address < grid.items.size := by
  simp only [contains, Bool.and_eq_true, decide_eq_true_eq] at h
  rw [grid.size_items, index]
  calc address.row * grid.columns + address.column
      < address.row * grid.columns + grid.columns := Nat.add_lt_add_left h.2 _
    _ = (address.row + 1) * grid.columns := (Nat.succ_mul _ _).symm
    _ ≤ grid.rows * grid.columns := Nat.mul_le_mul_right _ h.1

/-- Two addresses inside the bounds with the same place are the same. -/
theorem index_inj {grid : Grid α} {a b : Address} (ha : grid.contains a = true)
    (hb : grid.contains b = true) (h : grid.index a = grid.index b) : a = b := by
  simp only [contains, Bool.and_eq_true, decide_eq_true_eq] at ha hb
  unfold index at h
  have positive : 0 < grid.columns := Nat.lt_of_le_of_lt (Nat.zero_le _) ha.2
  have columns : a.column = b.column := by
    have := congrArg (· % grid.columns) h
    simpa [Nat.add_comm, Nat.add_mul_mod_self_right, Nat.mod_eq_of_lt ha.2,
      Nat.mod_eq_of_lt hb.2] using this
  have rows : a.row = b.row := by
    rw [columns] at h
    exact Nat.eq_of_mul_eq_mul_right positive (Nat.add_right_cancel h)
  cases a
  cases b
  simp_all

/-- There is an item at every address inside the bounds and nowhere else. -/
theorem isSome_get? (grid : Grid α) (address : Address) :
    (grid.get? address).isSome = grid.contains address := by
  unfold get?
  cases h : grid.contains address with
  | false => simp
  | true => simp [index_lt_size h]

@[simp]
theorem contains_set (grid : Grid α) (address other : Address) (item : α) :
    (grid.set address item).contains other = grid.contains other := by
  unfold set
  split <;> rfl

/-- Putting an item somewhere changes what is there and nothing else. -/
theorem get?_set (grid : Grid α) (address other : Address) (item : α) :
    (grid.set address item).get? other =
      if other = address ∧ grid.contains address = true then some item else grid.get? other := by
  cases inside : grid.contains address with
  | false => simp [set, inside]
  | true =>
      cases there : grid.contains other with
      | false =>
          have apart : other ≠ address := by
            rintro rfl
            simp [inside] at there
          simp [get?, there, apart]
      | true =>
          by_cases same : other = address
          · subst same
            have bound := index_lt_size there
            simp only [get?, contains_set, there, if_true, and_self]
            simp only [set, there, if_true]
            exact Array.getElem?_setIfInBounds_self_of_lt bound
          · have places : grid.index address ≠ grid.index other :=
              fun h => same (index_inj inside there h).symm
            simp only [get?, contains_set, there, if_true, same, false_and, if_false]
            simp only [set, inside, if_true]
            simp only [index] at places ⊢
            rw [Array.getElem?_setIfInBounds_ne places]

/-- A grid holds its one item everywhere if it was filled with it. -/
theorem get?_filled (rows columns : Nat) (item : α) (address : Address) :
    (filled rows columns item).get? address =
      if (filled rows columns item).contains address then some item else none := by
  unfold get?
  cases h : (filled rows columns item).contains address with
  | false => simp
  | true =>
      have bound : (filled rows columns item).index address < rows * columns :=
        Nat.lt_of_lt_of_eq (index_lt_size h) (filled rows columns item).size_items
      rw [if_pos rfl, if_pos rfl]
      exact Array.getElem?_replicate.trans (if_pos bound)

end Grid

end Worksheet
