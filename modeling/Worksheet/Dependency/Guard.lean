import Std.Data.HashSet
import Worksheet.Address.Basic

/-!
# Evaluation guard

The guard is the set of the cells that are being evaluated.  A cell enters it
as the first cell of a scope, and further cells can be added to that scope.  A
cell in the guard cannot enter it again.  Releasing a scope takes out exactly
the cells that the scope has brought in.
-/

namespace Worksheet

/-- The cells that are being evaluated. -/
structure Guard where
  active : Std.HashSet Address

/-- The cells that one evaluation has brought into the guard, in order. -/
structure GuardScope where
  cells : Array Address

/-- Add a cell that has been put into the guard. -/
def GuardScope.add (scope : GuardScope) (cell : Address) : GuardScope :=
  ⟨scope.cells.push cell⟩

namespace Guard

/-- No cell is being evaluated. -/
def empty : Guard :=
  ⟨∅⟩

/-- Is a cell being evaluated? -/
def isEvaluating (guard : Guard) (cell : Address) : Bool :=
  guard.active.contains cell

/-- The number of cells that are being evaluated. -/
def size (guard : Guard) : Nat :=
  guard.active.size

/-- Is no cell being evaluated? -/
def isEmpty (guard : Guard) : Bool :=
  guard.active.isEmpty

/-- Put a cell into the guard. -/
def hold (guard : Guard) (cell : Address) : Guard :=
  ⟨guard.active.insert cell⟩

/-- Start a scope with a cell, unless the cell is being evaluated. -/
def enter? (guard : Guard) (cell : Address) : Option (Guard × GuardScope) :=
  if guard.isEvaluating cell then none else some (guard.hold cell, ⟨#[cell]⟩)

/-- Add a cell to a scope, unless the cell is being evaluated. -/
def extend? (guard : Guard) (scope : GuardScope) (cell : Address) :
    Option (Guard × GuardScope) :=
  if guard.isEvaluating cell then none else some (guard.hold cell, scope.add cell)

/-- Take the cells of a scope out of the guard. -/
def release (guard : Guard) (scope : GuardScope) : Guard :=
  ⟨scope.cells.foldl (fun active cell => active.erase cell) guard.active⟩

@[simp]
theorem isEvaluating_empty (cell : Address) : empty.isEvaluating cell = false := by
  simp [isEvaluating, empty]

/-- A cell is in the guard after another one has been put there if it is that one
or has been in the guard before. -/
theorem isEvaluating_hold (guard : Guard) (cell other : Address) :
    (guard.hold cell).isEvaluating other = (cell == other || guard.isEvaluating other) :=
  Std.HashSet.contains_insert

/-- Releasing a scope takes out the cells of the scope and no others. -/
theorem isEvaluating_release (guard : Guard) (scope : GuardScope) (cell : Address) :
    (guard.release scope).isEvaluating cell =
      (!scope.cells.toList.contains cell && guard.isEvaluating cell) := by
  unfold release isEvaluating
  dsimp only
  rw [← Array.foldl_toList]
  generalize guard.active = active
  induction scope.cells.toList generalizing active with
  | nil => simp
  | cons held cells ih =>
      rw [List.foldl_cons, ih, Std.HashSet.contains_erase, List.contains_cons]
      by_cases same : held = cell
      · simp [same]
      · have apart : (held == cell) = false := beq_false_of_ne same
        have apart' : (cell == held) = false := beq_false_of_ne fun h => same h.symm
        simp [apart, apart']

end Guard

/-! ## Named scopes -/

/-- A guard with the scopes that are alive, each under a name of its own. -/
structure GuardedScopes where
  guard : Guard
  alive : List (String × GuardScope)

namespace GuardedScopes

/-- No scope is alive. -/
def empty : GuardedScopes :=
  ⟨Guard.empty, []⟩

/-- The scope with a name. -/
def find? (scopes : GuardedScopes) (name : String) : Option GuardScope :=
  (scopes.alive.find? fun entry => entry.1 == name).map Prod.snd

/-- Release the scope with a name, and tell whether there was one. -/
def drop (scopes : GuardedScopes) (name : String) : Bool × GuardedScopes :=
  match scopes.find? name with
  | none => (false, scopes)
  | some scope =>
      (true, ⟨scopes.guard.release scope, scopes.alive.filter fun entry => entry.1 != name⟩)

/-- Start a scope with a cell, and tell whether the cell could enter.  A new
scope takes the place of an older one with its name, which is released once the
cell has entered. -/
def enter (scopes : GuardedScopes) (name : String) (cell : Address) : Bool × GuardedScopes :=
  match scopes.guard.enter? cell with
  | none => (false, scopes)
  | some (guard, scope) =>
      let freed := (GuardedScopes.drop ⟨guard, scopes.alive⟩ name).2
      (true, ⟨freed.guard, (name, scope) :: freed.alive⟩)

/-- Add a cell to the scope with a name.  Tell whether the cell could be added,
or nothing if there is no such scope. -/
def extend (scopes : GuardedScopes) (name : String) (cell : Address) :
    Option Bool × GuardedScopes :=
  match scopes.find? name with
  | none => (none, scopes)
  | some scope =>
      match scopes.guard.extend? scope cell with
      | none => (some false, scopes)
      | some (guard, longer) =>
          let alive := scopes.alive.map fun entry =>
            if entry.1 == name then (name, longer) else entry
          (some true, ⟨guard, alive⟩)

end GuardedScopes

end Worksheet
