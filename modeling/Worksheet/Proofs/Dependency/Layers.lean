import Worksheet.Proofs.Dependency.Components
import Worksheet.Proofs.Dependency.Grouping

/-!
# Layers of open cells

The stack of a walk falls into layers.  Each cell of the path has a layer of its own, which
consists of the cell and of what has been met after it and before the next cell of the path.
The cells of a layer are joined: each of them can be reached from each other.

The low number of a cell of the path is the index of some cell on the stack that it leads
to.  Conversely, whatever the cells of its layer feed has been met no earlier than that
number says, belongs to a closed component, or is still to be tried.  This is the state
`Traced` of a walk.  It contains the state `Accounted`, which says of the met cells what does
not depend on the path, and it holds at the start.
-/

namespace Worksheet.Cascade

open Relation

variable {graph : DependencyGraph}

/-- A cell of a path, and the cells above it on the stack that are joined to it and were
met before the next cell of the path. -/
structure Layer (graph : DependencyGraph) where
  turn : Turn graph
  above : List Address
  joined : ∀ cell ∈ above, graph.Joined turn.cell cell

/-- The cells of a layer, the one met last at the head. -/
def Layer.cells (layer : Layer graph) : List Address :=
  layer.above ++ [layer.turn.cell]

theorem Layer.cell_mem (layer : Layer graph) : layer.turn.cell ∈ layer.cells :=
  List.mem_append_right _ List.mem_cons_self

theorem Layer.joined_of_mem (layer : Layer graph) {cell : Address} (member : cell ∈ layer.cells) :
    graph.Joined layer.turn.cell cell := by
  rcases List.mem_append.1 member with above | last
  · exact layer.joined cell above
  · rw [List.mem_singleton.1 last]
    exact DependencyGraph.Joined.refl _

/-- A layer of whose first cell one dependent less is to be tried. -/
def Layer.tried {cell next : Address} {untried : List Address}
    (feeds : ∀ other ∈ next :: untried, other ∈ graph.dependentsOf cell) (above : List Address)
    (joined : ∀ other ∈ above, graph.Joined cell other) : Layer graph :=
  ⟨Turn.tried feeds, above, joined⟩

/-- Two layers next to each other, the inner one in front, become one if their first cells
are joined. -/
def Layer.merge (inner layer : Layer graph)
    (both : graph.Joined layer.turn.cell inner.turn.cell) : Layer graph where
  turn := layer.turn
  above := inner.cells ++ layer.above
  joined := by
    intro cell member
    rcases List.mem_append.1 member with within | above
    · exact both.trans (inner.joined_of_mem within)
    · exact layer.joined cell above

theorem Layer.cells_merge (inner layer : Layer graph)
    (both : graph.Joined layer.turn.cell inner.turn.cell) :
    (inner.merge layer both).cells = inner.cells ++ layer.cells :=
  List.append_assoc _ _ _

/-- A cell belongs to a closed component, or it is open and has at least a given index. -/
def Walk.Settled (walk : Walk graph) (low : Nat) (cell : Address) : Prop :=
  cell ∈ walk.groups.flatten ∨
    (cell ∈ walk.components.stack ∧ low ≤ walk.components.indexOf cell)

theorem Walk.Settled.mono {walk : Walk graph} {low lower : Nat} {cell : Address}
    (settled : walk.Settled low cell) (smaller : lower ≤ low) : walk.Settled lower cell :=
  settled.imp_right fun onStack => ⟨onStack.1, smaller.trans onStack.2⟩

/-- The cells that a walk from `root` has met are those on the stack and those of the closed
components.  They have been brought into the guard, and indices grow up the stack. -/
structure Accounted (graph : DependencyGraph) (root : Address) (walk : Walk graph) : Prop where
  met : ∀ cell, cell ∈ walk.components.visits ↔
    cell ∈ walk.components.stack ++ walk.groups.flatten
  held : ∀ cell, walk.guard.isEvaluating cell = true ↔ cell ∈ walk.components.visits
  entered : walk.scope.cells.toList.Perm (walk.components.stack ++ walk.groups.flatten)
  distinct : (walk.components.stack ++ walk.groups.flatten).Nodup
  bounded : ∀ cell ∈ walk.components.stack,
    walk.components.indexOf cell < walk.components.visits.size
  descending : walk.components.stack.Pairwise fun later earlier =>
    walk.components.indexOf earlier < walk.components.indexOf later
  closed : ∀ cell ∈ walk.groups.flatten, ∀ next, graph.Feeds cell next →
    next ∈ walk.groups.flatten
  grouped : Grouped graph walk.groups
  reached : ∀ cell ∈ walk.components.visits, graph.Reaches root cell

/-- The state of a walk from `root` whose stack consists of layers. -/
structure Traced (graph : DependencyGraph) (root : Address) (walk : Walk graph)
    (layers : List (Layer graph)) : Prop extends Accounted graph root walk where
  path : walk.path = layers.map Layer.turn
  stack : walk.components.stack = layers.flatMap Layer.cells
  linked : List.IsChain (fun inner outer => graph.Feeds outer inner)
    (layers.map fun layer => layer.turn.cell)
  lowest : ∀ layer ∈ layers,
    walk.components.lowOf layer.turn.cell ≤ walk.components.indexOf layer.turn.cell
  /-- Behind a low number is a cell that is reached. -/
  leads : ∀ layer ∈ layers, ∃ target ∈ walk.components.stack,
    walk.components.indexOf target = walk.components.lowOf layer.turn.cell ∧
      graph.Reaches layer.turn.cell target
  /-- No open cell with a smaller index than the low number has been found. -/
  tried : ∀ layer ∈ layers, ∀ cell ∈ layer.cells, ∀ next, graph.Feeds cell next →
    (cell = layer.turn.cell ∧ next ∈ layer.turn.untried) ∨
      walk.Settled (walk.components.lowOf layer.turn.cell) next
  outermost : ∀ cell, (layers.map fun layer => layer.turn.cell).getLast? = some cell →
    cell = root
  first : walk.path = [] → walk.groups.flatten.head? = some root

/-- At the start only the changed cell has been met. -/
theorem mem_visits_start {root : Address} {guard : Guard} {scope : GuardScope} (cell : Address) :
    cell ∈ (Walk.start graph root guard scope).components.visits ↔ cell = root := by
  apply (Components.mem_visits_discover (Components.not_mem_empty root) cell).trans
  simp [Components.not_mem_empty]

theorem Accounted.start {root : Address} {guard : Guard} {scope : GuardScope}
    (only : ∀ cell, guard.isEvaluating cell = true ↔ cell = root)
    (entered : scope.cells.toList = [root]) :
    Accounted graph root (Walk.start graph root guard scope) := by
  have numbers := Components.discover_self (Components.not_mem_empty root)
  constructor
  case met =>
    intro cell
    rw [mem_visits_start]
    simp [Walk.start, Components.empty]
  case held =>
    intro cell
    rw [mem_visits_start]
    exact only cell
  case entered =>
    apply List.Perm.of_eq
    exact entered
  case distinct => simp [Walk.start, Components.empty]
  case bounded =>
    intro cell member
    have same : cell = root := by simpa [Walk.start, Components.empty] using member
    rw [same, Walk.start, numbers.1, Components.size_visits_discover]
    exact Nat.lt_succ_self _
  case descending => simp [Walk.start, Components.empty]
  case closed => simp [Walk.start]
  case grouped => exact Grouped.nil
  case reached =>
    intro cell member
    rw [mem_visits_start] at member
    rw [member]
    exact ReflTransGen.refl

namespace Traced

variable {root : Address} {walk : Walk graph} {layers outer : List (Layer graph)}
  {layer : Layer graph}

theorem start {guard : Guard} {scope : GuardScope}
    (only : ∀ cell, guard.isEvaluating cell = true ↔ cell = root)
    (entered : scope.cells.toList = [root]) :
    Traced graph root (Walk.start graph root guard scope)
      [⟨Turn.start graph root, [], by simp⟩] := by
  have numbers := Components.discover_self (Components.not_mem_empty root)
  constructor
  case toAccounted => exact Accounted.start only entered
  case path => rfl
  case stack => rfl
  case linked => exact List.isChain_singleton _
  case lowest =>
    intro layer member
    rw [List.mem_singleton.1 member]
    exact Nat.le_of_eq (numbers.2.trans numbers.1.symm)
  case leads =>
    intro layer member
    rw [List.mem_singleton.1 member]
    exact ⟨root, List.mem_cons_self, numbers.1.trans numbers.2.symm, ReflTransGen.refl⟩
  case tried =>
    intro layer member cell inside next feeds
    rw [List.mem_singleton.1 member] at inside ⊢
    have same : cell = root := by simpa [Layer.cells, Turn.start] using inside
    rw [same] at feeds ⊢
    exact Or.inl ⟨rfl, List.mem_reverse.2 feeds⟩
  case outermost =>
    intro cell last
    simpa [Walk.start, Turn.start, eq_comm] using last
  case first => simp [Walk.start]

/-! ## The layers of the stack -/

theorem mem_stack (traced : Traced graph root walk layers) (member : layer ∈ layers)
    {cell : Address} (inside : cell ∈ layer.cells) : cell ∈ walk.components.stack := by
  rw [traced.stack]
  exact List.mem_flatMap.2 ⟨layer, member, inside⟩

theorem mem_visits (traced : Traced graph root walk layers) (member : layer ∈ layers)
    {cell : Address} (inside : cell ∈ layer.cells) : cell ∈ walk.components.visits :=
  walk.components.visited cell (traced.mem_stack member inside)

/-- The stack begins with the innermost layer. -/
theorem stack_cons (traced : Traced graph root walk (layer :: outer)) :
    walk.components.stack = layer.above ++ layer.turn.cell :: outer.flatMap Layer.cells := by
  rw [traced.stack, List.flatMap_cons, Layer.cells, List.append_assoc]
  rfl

/-- The cells of the innermost layer are those with no smaller index than the innermost
cell. -/
theorem mem_cells_iff (traced : Traced graph root walk (layer :: outer)) {cell : Address}
    (onStack : cell ∈ walk.components.stack) :
    cell ∈ layer.cells ↔
      walk.components.indexOf layer.turn.cell ≤ walk.components.indexOf cell := by
  have descending := traced.descending
  rw [traced.stack_cons, List.pairwise_append] at descending
  rw [traced.stack_cons, List.mem_append, List.mem_cons] at onStack
  rw [Layer.cells, List.mem_append, List.mem_singleton]
  rcases onStack with above | rfl | below
  · have later := descending.2.2 cell above layer.turn.cell List.mem_cons_self
    exact ⟨fun _ => Nat.le_of_lt later, fun _ => Or.inl above⟩
  · exact ⟨fun _ => Nat.le_refl _, fun _ => Or.inr rfl⟩
  · have earlier := List.rel_of_pairwise_cons descending.2.1 below
    constructor
    · rintro (above | rfl)
      · have later := descending.2.2 cell above cell (List.mem_cons_of_mem _ below)
        exact absurd later (Nat.lt_irrefl _)
      · exact Nat.le_refl _
    · intro notEarlier
      exact absurd earlier (Nat.not_lt.2 notEarlier)

/-- Each cell of a path leads to the innermost one. -/
theorem reaches_of_linked {cell : Address} {before : List Address}
    (linked : List.IsChain (fun inner outer => graph.Feeds outer inner) (cell :: before)) :
    ∀ other ∈ cell :: before, graph.Reaches other cell := by
  induction before generalizing cell with
  | nil =>
      intro other member
      rw [List.mem_singleton.1 member]
      exact ReflTransGen.refl
  | cons next before ih =>
      rw [List.isChain_cons_cons] at linked
      intro other member
      rcases List.mem_cons.1 member with rfl | further
      · exact ReflTransGen.refl
      · exact ReflTransGen.tail (ih linked.2 other further) linked.1

end Traced

end Worksheet.Cascade
