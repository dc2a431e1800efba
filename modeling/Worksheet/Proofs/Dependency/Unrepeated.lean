import Worksheet.Proofs.Dependency.Mirror

/-!
# Properties of both tables

A property that the operations on a table of links keep holds of both tables of a graph
that has been built by operations on graphs.  One such property is that no cell stands
in a list twice.
-/

namespace Worksheet

namespace Links

/-- The operations on tables of links keep a property. -/
structure Kept (holds : Links → Prop) : Prop where
  empty : holds empty
  link {links : Links} (before : holds links) (cell target : Address) :
    holds (links.link cell target)
  unlink {links : Links} (before : holds links) (cell target : Address) :
    holds (links.unlink cell target)
  removeAll {links : Links} (before : holds links) (cell : Address) :
    holds (links.removeAll cell)

theorem Kept.foldl_unlink {holds : Links → Prop} (kept : Kept holds) {links : Links}
    (before : holds links) (dropped : List Address) (target : Address) :
    holds (dropped.foldl (fun links cell => links.unlink cell target) links) := by
  induction dropped generalizing links with
  | nil => exact before
  | cons first dropped ih => exact ih (kept.unlink before first target)

/-- No list of the table has a repetition. -/
def Unrepeated (links : Links) : Prop :=
  ∀ cell, (links.of cell).Nodup

theorem unrepeated_empty : empty.Unrepeated := by
  intro cell
  simp [of, empty]

variable {links : Links}

theorem Unrepeated.link (unrepeated : links.Unrepeated) (cell target : Address) :
    (links.link cell target).Unrepeated := by
  intro other
  rw [of_link]
  split
  · split
    · exact unrepeated cell
    · next absent =>
        apply (unrepeated cell).append (List.nodup_singleton target)
        rw [List.disjoint_singleton, ← List.contains_iff_mem]
        exact absent
  · exact unrepeated other

theorem Unrepeated.unlink (unrepeated : links.Unrepeated) (cell target : Address) :
    (links.unlink cell target).Unrepeated := by
  intro other
  rw [of_unlink]
  split
  · exact (unrepeated cell).filter _
  · exact unrepeated other

theorem Unrepeated.removeAll (unrepeated : links.Unrepeated) (cell : Address) :
    (links.removeAll cell).Unrepeated := by
  intro other
  rw [of_removeAll]
  split
  · exact List.nodup_nil
  · exact unrepeated other

theorem kept_unrepeated : Kept Unrepeated :=
  ⟨unrepeated_empty, Unrepeated.link, Unrepeated.unlink, Unrepeated.removeAll⟩

end Links

namespace DependencyGraph

variable {graph : DependencyGraph} {holds : Links → Prop}

/-- A property holds of both tables of a graph. -/
def Both (holds : Links → Prop) (graph : DependencyGraph) : Prop :=
  holds graph.dependents ∧ holds graph.precedents

theorem Both.addDependency (kept : Links.Kept holds) (both : graph.Both holds)
    (referenced dependent : Address) : (graph.addDependency referenced dependent).Both holds :=
  ⟨kept.link both.1 referenced dependent, kept.link both.2 dependent referenced⟩

theorem Both.foldl_addDependency (kept : Links.Kept holds) (both : graph.Both holds)
    (cell : Address) (added : List Address) :
    (added.foldl (fun graph referenced => graph.addDependency referenced cell)
      graph).Both holds := by
  induction added generalizing graph with
  | nil => exact both
  | cons first added ih => exact ih (both.addDependency kept first cell)

theorem Both.setReferences (kept : Links.Kept holds) (both : graph.Both holds) (cell : Address)
    (references : List Address) : (graph.setReferences cell references).Both holds := by
  rw [DependencyGraph.setReferences]
  apply Both.foldl_addDependency kept
  exact ⟨kept.foldl_unlink both.1 _ cell, kept.removeAll both.2 cell⟩

/-- What the operations on tables keep holds of both tables of a built graph. -/
theorem Built.both (built : graph.Built) (kept : Links.Kept holds) : graph.Both holds := by
  induction built with
  | empty => exact ⟨kept.empty, kept.empty⟩
  | addDependency referenced dependent _ ih => exact ih.addDependency kept referenced dependent
  | setReferences cell references _ ih => exact ih.setReferences kept cell references

/-- No list of the graph has a repetition. -/
structure Unrepeated (graph : DependencyGraph) : Prop where
  dependents : graph.dependents.Unrepeated
  precedents : graph.precedents.Unrepeated

/-- The lists of a graph that has been built have no repetition. -/
theorem Built.unrepeated (built : graph.Built) : graph.Unrepeated :=
  ⟨(built.both Links.kept_unrepeated).1, (built.both Links.kept_unrepeated).2⟩

end DependencyGraph

end Worksheet
