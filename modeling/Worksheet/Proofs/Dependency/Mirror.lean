import Worksheet.Dependency.Graph
import Worksheet.Proofs.List.Distinct

/-!
# Both directions of a reference graph

The two tables of a reference graph are mirrored if they record the same links.
Every operation on the graph keeps this.  Replacing the references of a cell
changes what that cell reads and nothing else.
-/

namespace Worksheet.DependencyGraph

/-- Both tables record the same links. -/
def Mirrored (graph : DependencyGraph) : Prop :=
  ∀ referenced dependent,
    dependent ∈ graph.dependentsOf referenced ↔ referenced ∈ graph.precedentsOf dependent

@[simp]
theorem precedentsOf_empty (cell : Address) : empty.precedentsOf cell = [] := by
  simp [precedentsOf, empty, Links.of, Links.empty]

@[simp]
theorem dependentsOf_empty (cell : Address) : empty.dependentsOf cell = [] := by
  simp [dependentsOf, empty, Links.of, Links.empty]

theorem mirrored_empty : empty.Mirrored := by
  intro referenced dependent
  simp

/-! ## Adding a reference -/

theorem precedentsOf_addDependency (graph : DependencyGraph) (referenced dependent cell : Address) :
    (graph.addDependency referenced dependent).precedentsOf cell =
      if cell = dependent then
        if (graph.precedentsOf dependent).contains referenced then graph.precedentsOf dependent
        else graph.precedentsOf dependent ++ [referenced]
      else graph.precedentsOf cell :=
  Links.of_link _ _ _ _

theorem dependentsOf_addDependency (graph : DependencyGraph) (referenced dependent cell : Address) :
    (graph.addDependency referenced dependent).dependentsOf cell =
      if cell = referenced then
        if (graph.dependentsOf referenced).contains dependent then graph.dependentsOf referenced
        else graph.dependentsOf referenced ++ [dependent]
      else graph.dependentsOf cell :=
  Links.of_link _ _ _ _

theorem mem_dependentsOf_addDependency (graph : DependencyGraph)
    (referenced dependent cell other : Address) :
    other ∈ (graph.addDependency referenced dependent).dependentsOf cell ↔
      (cell = referenced ∧ other = dependent) ∨ other ∈ graph.dependentsOf cell := by
  rw [dependentsOf_addDependency]
  by_cases same : cell = referenced
  · subst same
    simp only [if_true, true_and]
    split
    · next present =>
        constructor
        · exact Or.inr
        · rintro (rfl | member)
          · exact List.contains_iff_mem.1 present
          · exact member
    · simp [or_comm]
  · simp [same]

/-- What a cell reads after references have been added to those that it has read
before. -/
theorem precedentsOf_foldl_addDependency (cell : Address) (added before : List Address)
    (graph : DependencyGraph) (other : Address)
    (start : graph.precedentsOf cell = before.eraseDups) :
    (added.foldl (fun graph referenced => graph.addDependency referenced cell) graph).precedentsOf
        other =
      if other = cell then (before ++ added).eraseDups else graph.precedentsOf other := by
  induction added generalizing before graph with
  | nil =>
      by_cases same : other = cell
      · simp [same, start]
      · simp [same]
  | cons referenced added ih =>
      have next : (graph.addDependency referenced cell).precedentsOf cell =
          (before ++ [referenced]).eraseDups := by
        rw [precedentsOf_addDependency, Distinct.eraseDups_concat, start]
        simp [List.contains_eq_mem]
      rw [List.foldl_cons, ih (before ++ [referenced]) _ next]
      by_cases same : other = cell
      · simp [same]
      · simp [same, precedentsOf_addDependency]

/-- A cell comes last in the lists of the cells that it newly reads. -/
theorem dependentsOf_foldl_addDependency (graph : DependencyGraph) (cell : Address)
    (added : List Address) (referenced : Address) :
    (added.foldl (fun graph referenced => graph.addDependency referenced cell) graph).dependentsOf
        referenced =
      if referenced ∈ added ∧ cell ∉ graph.dependentsOf referenced then
        graph.dependentsOf referenced ++ [cell]
      else graph.dependentsOf referenced := by
  induction added generalizing graph with
  | nil => simp
  | cons first added ih =>
      rw [List.foldl_cons, ih, dependentsOf_addDependency]
      by_cases same : referenced = first
      · subst same
        by_cases present : cell ∈ graph.dependentsOf referenced
        · simp [present]
        · simp [present]
      · simp [same]

theorem mem_dependentsOf_foldl_addDependency (cell : Address) (added : List Address)
    (graph : DependencyGraph) (referenced other : Address) :
    other ∈
        (added.foldl (fun graph referenced => graph.addDependency referenced cell)
          graph).dependentsOf referenced ↔
      (referenced ∈ added ∧ other = cell) ∨ other ∈ graph.dependentsOf referenced := by
  rw [dependentsOf_foldl_addDependency]
  split
  · next newly => simp [newly.1, or_comm]
  · next before =>
      constructor
      · exact Or.inr
      · rintro (⟨read, rfl⟩ | member)
        · by_contra absent
          exact before ⟨read, absent⟩
        · exact member

theorem mirrored_addDependency {graph : DependencyGraph} (mirrored : graph.Mirrored)
    (referenced dependent : Address) : (graph.addDependency referenced dependent).Mirrored := by
  intro cell other
  rw [mem_dependentsOf_addDependency, precedentsOf_addDependency, mirrored cell other]
  by_cases same : other = dependent
  · subst same
    simp only [and_true, if_true]
    split
    · next present =>
        constructor
        · rintro (rfl | member)
          · exact List.contains_iff_mem.1 present
          · exact member
        · exact Or.inr
    · simp [or_comm]
  · simp [same]

/-! ## Replacing references -/

/-- A dependent is dropped from exactly the cells of the list. -/
theorem mem_of_foldl_unlink (cell : Address) (dropped : List Address) (links : Links)
    (referenced other : Address) :
    other ∈ (dropped.foldl (fun links old => links.unlink old cell) links).of referenced ↔
      other ∈ links.of referenced ∧ ¬ (referenced ∈ dropped ∧ other = cell) := by
  rw [Links.of_foldl_unlink]
  split
  · next dropped => simp [dropped]
  · next kept => simp [kept]

/-- A cell reads its new references, each once, and other cells read what they
have read before. -/
theorem precedentsOf_setReferences (graph : DependencyGraph) (cell : Address)
    (references : List Address) (other : Address) :
    (graph.setReferences cell references).precedentsOf other =
      if other = cell then references.eraseDups else graph.precedentsOf other := by
  rw [setReferences]
  rw [precedentsOf_foldl_addDependency cell references []]
  · by_cases same : other = cell
    · simp [same]
    · simp [same, precedentsOf, Links.of_removeAll]
  · simp [precedentsOf, Links.of_removeAll]

theorem mirrored_setReferences {graph : DependencyGraph} (mirrored : graph.Mirrored)
    (cell : Address) (references : List Address) :
    (graph.setReferences cell references).Mirrored := by
  intro referenced dependent
  rw [precedentsOf_setReferences]
  rw [setReferences]
  rw [mem_dependentsOf_foldl_addDependency]
  simp only [dependentsOf]
  rw [mem_of_foldl_unlink]
  have before := mirrored referenced dependent
  simp only [dependentsOf] at before
  rw [before, List.mem_filter]
  by_cases same : dependent = cell
  · subst same
    simp only [and_true, if_true, List.mem_eraseDups, Bool.not_eq_true', List.contains_eq_mem,
      decide_eq_false_iff_not, not_and, not_not]
    constructor
    · rintro (member | ⟨old, kept⟩)
      · exact member
      · exact kept old
    · exact Or.inl
  · simp [same]

/-! ## Built graphs -/

/-- A graph that has been built by operations on graphs.  To clear a graph is to
start again from the empty one. -/
inductive Built : DependencyGraph → Prop
  | empty : Built empty
  | addDependency {graph : DependencyGraph} (referenced dependent : Address)
      (before : Built graph) : Built (graph.addDependency referenced dependent)
  | setReferences {graph : DependencyGraph} (cell : Address) (references : List Address)
      (before : Built graph) : Built (graph.setReferences cell references)

theorem Built.mirrored {graph : DependencyGraph} (built : graph.Built) : graph.Mirrored := by
  induction built with
  | empty => exact mirrored_empty
  | addDependency referenced dependent _ ih => exact mirrored_addDependency ih referenced dependent
  | setReferences cell references _ ih => exact mirrored_setReferences ih cell references

end Worksheet.DependencyGraph
