import Worksheet.Dependency.Cycle
import Worksheet.Dependency.Graph
import Worksheet.Dependency.Guard

/-!
# Order of recalculation

When a cell changes, it and all cells that depend on it, directly or through
others, are evaluated again, each once and after the cells that it reads.
Where cells read each other in a circle no such order exists.  The reached
cells are therefore grouped: two cells are in one group if each can be reached
from the other.  A group of more than one cell is a reference cycle, and the
groups can always be ordered.

The groups are the strongly connected components of the reached cells.  Tarjan's
algorithm finds them in a single walk along dependents, depth first, with the
path of the walk in a list.  A component is closed after all components that
it leads to, so the one that is closed last comes first in the order.  Time is
linear in the number of reached cells and links.

Dependents are tried latest first, so that dependents which do not read one
another come out in the order in which their links were made.  A cell that
reads itself is no cycle in this sense; it is dealt with when it is evaluated.
-/

namespace Worksheet

/-- The cells to evaluate after a change, in groups.  A group comes after the
groups that it reads from. -/
structure Cascade where
  groups : List (List Address)

namespace Cascade

/-- The cells in the order in which they are to be evaluated. -/
def order (cascade : Cascade) : List Address :=
  cascade.groups.flatten

/-- The cells in order, each with the answer whether it is on a reference cycle. -/
def steps (cascade : Cascade) : List (Address × Bool) :=
  cascade.groups.flatMap fun group =>
    let onCycle : Bool := 1 < group.length
    group.map fun cell => (cell, onCycle)

/-- The cells that are on a reference cycle. -/
def cyclic (cascade : Cascade) : List Address :=
  (cascade.groups.filter fun group => 1 < group.length).flatten

/-! ## Components -/

/-- What a walk knows about a cell that it has met. -/
structure Visit where
  /-- The number of cells that were met before it. -/
  index : Nat
  /-- The least index of a cell to which the cell is known to lead, among those
  whose component is still open. -/
  low : Nat

/-- The cells that a walk has met.  Those whose component is still open are on a
stack, the one met last on top. -/
structure Components where
  visits : Std.HashMap Address Visit
  stack : List Address
  onStack : Std.HashSet Address
  distinct : stack.Nodup
  mem_onStack : ∀ cell, cell ∈ onStack ↔ cell ∈ stack
  visited : ∀ cell ∈ stack, cell ∈ visits

namespace Components

/-- No cell has been met. -/
def empty : Components where
  visits := ∅
  stack := []
  onStack := ∅
  distinct := List.nodup_nil
  mem_onStack := by simp
  visited := by simp

theorem not_mem_empty (cell : Address) : cell ∉ empty.visits :=
  Std.HashMap.not_mem_empty

/-- Meet a new cell.  It gets the next index, and it is put on the stack. -/
def discover (components : Components) (cell : Address) (unmet : cell ∉ components.visits) :
    Components :=
  let index := components.visits.size
  { visits := components.visits.insert cell ⟨index, index⟩
    stack := cell :: components.stack
    onStack := components.onStack.insert cell
    distinct := List.nodup_cons.2 ⟨fun below => unmet (components.visited cell below),
      components.distinct⟩
    mem_onStack := by
      intro other
      rw [Std.HashSet.mem_insert, components.mem_onStack, List.mem_cons, beq_iff_eq, eq_comm]
    visited := by
      intro other member
      rw [Std.HashMap.mem_insert, beq_iff_eq]
      rcases List.mem_cons.1 member with rfl | below
      · exact Or.inl rfl
      · exact Or.inr (components.visited other below) }

/-- A cell is found to lead to the cell with an index. -/
def lower (components : Components) (cell : Address) (index : Nat) : Components :=
  { components with
    visits := components.visits.modify cell fun visit =>
      { visit with low := min visit.low index }
    visited := by simpa using components.visited }

/-- Take the top cell off the stack. -/
def pop (components : Components) {top : Address} {below : List Address}
    (shape : components.stack = top :: below) : Components :=
  have unique : top ∉ below ∧ below.Nodup := by
    rw [← List.nodup_cons, ← shape]
    exact components.distinct
  { visits := components.visits
    stack := below
    onStack := components.onStack.erase top
    distinct := unique.2
    mem_onStack := by
      intro cell
      rw [Std.HashSet.mem_erase, components.mem_onStack, shape, List.mem_cons]
      by_cases same : top = cell
      · subst same
        simp [unique.1]
      · simp [same, Ne.symm same]
    visited := by
      intro cell member
      apply components.visited
      rw [shape]
      exact List.mem_cons_of_mem top member }

/-- Take cells off the stack down to a given one, and put them in front of those
that were taken off before. -/
def takeOnto (cell : Address) : (stack : List Address) → (components : Components) →
    components.stack = stack → (taken : List Address) → List Address × Components
  | [], components, _, taken => (taken, components)
  | top :: below, components, shape, taken =>
      if top = cell then (top :: taken, components.pop shape)
      else takeOnto cell below (components.pop shape) rfl (top :: taken)

/-- Take the component that begins with a cell off the stack.  Its cells are in the
order in which they were met. -/
def take (components : Components) (cell : Address) : List Address × Components :=
  takeOnto cell components.stack components rfl []

end Components

/-! ## The walk -/

/-- A cell on the path of a walk, with those of its dependents that are still to be
tried. -/
structure Turn (graph : DependencyGraph) where
  cell : Address
  untried : List Address
  feeds : ∀ next ∈ untried, next ∈ graph.dependentsOf cell

/-- Where a walk along dependents stands. -/
structure Walk (graph : DependencyGraph) where
  guard : Guard
  /-- The cells that the walk has brought into the guard. -/
  scope : GuardScope
  components : Components
  /-- The components that are closed, the one closed last at the head. -/
  groups : List (List Address)
  /-- The path to the cell that is looked into, innermost first. -/
  path : List (Turn graph)

variable {graph : DependencyGraph}

/-- All dependents of a cell are to be tried, the latest first. -/
def Turn.start (graph : DependencyGraph) (cell : Address) : Turn graph where
  cell
  untried := (graph.dependentsOf cell).reverse
  feeds _ member := List.mem_reverse.1 member

/-- The cell of a turn has one dependent less to try. -/
def Turn.tried {cell next : Address} {untried : List Address}
    (feeds : ∀ other ∈ next :: untried, other ∈ graph.dependentsOf cell) : Turn graph :=
  ⟨cell, untried, fun other member => feeds other (List.mem_cons_of_mem next member)⟩

namespace Walk

/-- A walk that has met its first cell only, for which the scope has been started. -/
def start (graph : DependencyGraph) (root : Address) (guard : Guard) (scope : GuardScope) :
    Walk graph where
  guard
  scope
  components := Components.empty.discover root (Components.not_mem_empty root)
  groups := []
  path := [Turn.start graph root]

/-- Look into a cell that has not been met, unless the guard holds it already. -/
def enter (walk : Walk graph) (cell : Address) (unmet : cell ∉ walk.components.visits) :
    Walk graph :=
  if walk.guard.isEvaluating cell then walk
  else
    { guard := walk.guard.hold cell
      scope := walk.scope.add cell
      components := walk.components.discover cell unmet
      groups := walk.groups
      path := Turn.start graph cell :: walk.path }

/-- Try a dependent of a cell.  If it has been met and its component is still open, the
cell leads back to it. -/
def attempt (walk : Walk graph) (cell next : Address) : Walk graph :=
  if next = cell then walk
  else
    match found : walk.components.visits[next]? with
    | none => walk.enter next (by simpa using found)
    | some visit =>
        if walk.components.onStack.contains next then
          { walk with components := walk.components.lower cell visit.index }
        else walk

/-- What is found to be reached from a cell, the cell before it on the path reaches as
well. -/
def passOn (components : Components) (index : Nat) : List (Turn graph) → Components
  | [] => components
  | before :: _ => components.lower before.cell index

/-- Leave a cell of which all dependents have been tried.  If it leads to no open cell met
before it, then it is the first cell of its component, which is closed. -/
def leave (walk : Walk graph) (cell : Address) : Walk graph :=
  match walk.components.visits[cell]? with
  | none => walk
  | some visit =>
      let components := passOn walk.components visit.low walk.path
      if visit.low = visit.index then
        let (component, left) := components.take cell
        { walk with components := left, groups := component :: walk.groups }
      else { walk with components }

/-- One step of a walk.  It is over if nothing is left on the path. -/
def step (walk : Walk graph) : Walk graph :=
  match walk.path with
  | [] => walk
  | ⟨cell, [], _⟩ :: path => { walk with path }.leave cell
  | ⟨cell, next :: _, feeds⟩ :: path =>
      { walk with path := Turn.tried feeds :: path }.attempt cell next

/-! ### Every walk ends -/

/-- The number of links to cells that are not in the guard. -/
def linksOutside (graph : DependencyGraph) (guard : Guard) : Nat :=
  unseenCount (graph.dependents.entries.toList.flatMap Prod.snd) guard.active

/-- Putting a dependent into the guard leaves fewer links outside. -/
theorem linksOutside_hold_lt {guard : Guard} {source cell : Address}
    (feeds : cell ∈ graph.dependentsOf source) (outside : guard.isEvaluating cell = false) :
    linksOutside graph (guard.hold cell) < linksOutside graph guard := by
  apply unseenCount_insert_lt _ outside
  unfold DependencyGraph.dependentsOf Links.of at feeds
  rw [Std.HashMap.getD_eq_getD_getElem?] at feeds
  cases entry : graph.dependents.entries[source]? with
  | none => simp [entry] at feeds
  | some readers =>
      rw [List.mem_flatMap]
      refine ⟨(source, readers), Std.HashMap.mem_toList_iff_getElem?_eq_some.2 entry, ?_⟩
      simpa [entry] using feeds

/-- What is left to do on a path. -/
def pathSize (path : List (Turn graph)) : Nat :=
  path.foldr (fun turn size => turn.untried.length + 1 + size) 0

/-- What is left to do in a walk: the links to cells outside of the guard come before
the path. -/
def size (walk : Walk graph) : Nat × Nat :=
  (linksOutside graph walk.guard, pathSize walk.path)

/-- A cell that is looked into has been added to the scope. -/
theorem enter_eq_extend? (walk : Walk graph) (cell : Address)
    (unmet : cell ∉ walk.components.visits) :
    walk.enter cell unmet =
      match walk.guard.extend? walk.scope cell with
      | none => walk
      | some (guard, scope) =>
          { guard
            scope
            components := walk.components.discover cell unmet
            groups := walk.groups
            path := Turn.start graph cell :: walk.path } := by
  unfold enter Guard.extend?
  split
  · rfl
  · rfl

/-- Trying a dependent leaves guard and path as they are, or the dependent enters the
guard. -/
theorem attempt_cases (walk : Walk graph) (cell next : Address) :
    ((walk.attempt cell next).guard = walk.guard ∧ (walk.attempt cell next).path = walk.path) ∨
      (walk.guard.isEvaluating next = false ∧
        (walk.attempt cell next).guard = walk.guard.hold next) := by
  unfold attempt
  split
  · exact Or.inl ⟨rfl, rfl⟩
  · split
    · unfold enter
      split
      · exact Or.inl ⟨rfl, rfl⟩
      · next outside => exact Or.inr ⟨by simpa using outside, rfl⟩
    · split
      · exact Or.inl ⟨rfl, rfl⟩
      · exact Or.inl ⟨rfl, rfl⟩

/-- Leaving a cell makes no difference to guard and path. -/
theorem leave_frame (walk : Walk graph) (cell : Address) :
    (walk.leave cell).guard = walk.guard ∧ (walk.leave cell).path = walk.path := by
  unfold leave
  split
  · exact ⟨rfl, rfl⟩
  · dsimp only
    split
    · exact ⟨rfl, rfl⟩
    · exact ⟨rfl, rfl⟩

/-- A step leaves less to do. -/
theorem size_step_lt {walk : Walk graph} (onward : walk.path ≠ []) :
    Prod.Lex (· < ·) (· < ·) walk.step.size walk.size := by
  unfold step size
  split
  · next shape => exact absurd shape onward
  · next cell _ path shape =>
      rw [(leave_frame _ _).1, (leave_frame _ _).2, shape]
      apply Prod.Lex.right
      simp [pathSize]
  · next cell next untried feeds path shape =>
      rcases attempt_cases { walk with path := Turn.tried feeds :: path } cell next with
        ⟨guard, rest⟩ | ⟨outside, guard⟩
      · rw [guard, rest, shape]
        apply Prod.Lex.right
        simp [pathSize, Turn.tried]
      · rw [guard]
        apply Prod.Lex.left
        exact linksOutside_hold_lt (feeds next List.mem_cons_self) outside

/-- Take steps until nothing is left on the path. -/
def run (walk : Walk graph) : Walk graph :=
  if _ended : walk.path.isEmpty then walk else walk.step.run
termination_by walk.size
decreasing_by exact size_step_lt fun nothing => _ended (List.isEmpty_iff.2 nothing)

end Walk

/-- Plan the evaluation of a changed cell, for which the scope has been started,
and of all cells that depend on it.  All of them are added to the scope. -/
def plan (graph : DependencyGraph) (root : Address) (guard : Guard) (scope : GuardScope) :
    Cascade × Guard × GuardScope :=
  let last := (Walk.start graph root guard scope).run
  (⟨last.groups⟩, last.guard, last.scope)

end Cascade

end Worksheet
