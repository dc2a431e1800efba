import Worksheet.Dependency.Links

/-!
# The reference graph

A formula cell reads the cells that its formula names, its precedents, and is
a dependent of each of them.  The graph keeps both directions.  When a formula
changes, the links of its cell are replaced: cells that are no longer read lose
their dependent, and cells that are still read keep it in its old place.
-/

namespace Worksheet

/-- The references between cells, in both directions. -/
structure DependencyGraph where
  /-- For a cell, the cells whose formulas read it. -/
  dependents : Links
  /-- For a formula cell, the cells that it reads. -/
  precedents : Links

namespace DependencyGraph

/-- The graph without references. -/
def empty : DependencyGraph :=
  ⟨Links.empty, Links.empty⟩

/-- The cells whose formulas read a cell, in the order in which they came to
read it. -/
def dependentsOf (graph : DependencyGraph) (cell : Address) : List Address :=
  graph.dependents.of cell

/-- The cells that the formula of a cell reads. -/
def precedentsOf (graph : DependencyGraph) (cell : Address) : List Address :=
  graph.precedents.of cell

/-- Are there no references? -/
def isEmpty (graph : DependencyGraph) : Bool :=
  graph.dependents.isEmpty && graph.precedents.isEmpty

/-- Record that `dependent` reads `referenced`. -/
def addDependency (graph : DependencyGraph) (referenced dependent : Address) : DependencyGraph :=
  { dependents := graph.dependents.link referenced dependent
    precedents := graph.precedents.link dependent referenced }

/-- Replace everything that a cell reads. -/
def setReferences (graph : DependencyGraph) (cell : Address) (references : List Address) :
    DependencyGraph :=
  let dropped := (graph.precedentsOf cell).filter fun old => !references.contains old
  let cleared : DependencyGraph :=
    { dependents := dropped.foldl (fun links old => links.unlink old cell) graph.dependents
      precedents := graph.precedents.removeAll cell }
  references.foldl (fun graph referenced => graph.addDependency referenced cell) cleared

end DependencyGraph

end Worksheet
