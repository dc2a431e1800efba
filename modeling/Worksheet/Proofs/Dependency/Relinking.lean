import Worksheet.Proofs.Dependency.Unrepeated

/-!
# Links that are replaced

The references of a cell are replaced by removing its list of precedents, pruning the
lists of the cells that it no longer reads, and adding the new references one by one.
The main statement says what this comes to.  A graph that has been built by any
operations keeps both of its tables in step, without repetitions and without empty
lists.  When the references of a cell are replaced, it reads the new ones, each once.
In the lists of dependents it keeps its place where it is still a dependent, it leaves
the lists of the other cells, and it comes last where it is new.  Nothing else changes.
-/

namespace Worksheet

namespace Links

variable {links : Links}

/-- Every cell that has an entry has links. -/
def Populated (links : Links) : Prop :=
  ∀ cell, links.has cell = true → links.of cell ≠ []

theorem populated_empty : empty.Populated := by
  intro cell entered
  simp [has, empty] at entered

theorem Populated.link (populated : links.Populated) (cell target : Address) :
    (links.link cell target).Populated := by
  intro other entered
  rw [of_link]
  by_cases same : other = cell
  · rw [if_pos same]
    split
    · next present => exact List.ne_nil_of_mem (List.contains_iff_mem.1 present)
    · exact List.append_ne_nil_of_right_ne_nil _ (List.cons_ne_nil target [])
  · rw [if_neg same]
    apply populated other
    unfold Links.link at entered
    dsimp only at entered
    split at entered
    · exact entered
    · simpa [has, Std.HashMap.contains_insert, Ne.symm same] using entered

theorem Populated.unlink (populated : links.Populated) (cell target : Address) :
    (links.unlink cell target).Populated := by
  intro other entered
  by_cases same : other = cell
  · subst same
    unfold Links.unlink at entered ⊢
    split at entered
    · exact populated other entered
    · next old found =>
        dsimp only at entered ⊢
        split at entered
        · simp [has] at entered
        · next kept =>
            rw [if_neg kept, of, Std.HashMap.getD_insert_self]
            exact fun nothing => kept (List.isEmpty_iff.2 nothing)
  · rw [of_unlink, if_neg same]
    apply populated other
    unfold Links.unlink at entered
    split at entered
    · exact entered
    · dsimp only at entered
      split at entered
      · simpa [has, Ne.symm same] using entered
      · simpa [has, Std.HashMap.contains_insert, Ne.symm same] using entered

theorem Populated.removeAll (populated : links.Populated) (cell : Address) :
    (links.removeAll cell).Populated := by
  intro other entered
  rw [Links.removeAll, has, Std.HashMap.contains_erase, Bool.and_eq_true] at entered
  have apart : other ≠ cell := by
    rintro rfl
    simp at entered
  rw [of_removeAll, if_neg apart]
  exact populated other entered.2

theorem kept_populated : Kept Populated :=
  ⟨populated_empty, Populated.link, Populated.unlink, Populated.removeAll⟩

/-- A table in which every entry has links is empty if there are no links. -/
theorem Populated.isEmpty_iff (populated : links.Populated) :
    links.isEmpty = true ↔ ∀ cell, links.of cell = [] := by
  rw [isEmpty, Std.HashMap.isEmpty_iff_forall_contains]
  constructor
  · intro absent cell
    exact Std.HashMap.getD_eq_fallback_of_contains_eq_false (absent cell)
  · intro nothing cell
    rw [← Bool.not_eq_true]
    exact fun entered => populated cell entered (nothing cell)

end Links

namespace DependencyGraph

variable {graph : DependencyGraph}

/-! ## Dependents -/

theorem dependentsOf_setReferences (mirrored : graph.Mirrored) (cell : Address)
    (references : List Address) (referenced : Address) :
    (graph.setReferences cell references).dependentsOf referenced =
      if referenced ∈ references then
        if cell ∈ graph.dependentsOf referenced then graph.dependentsOf referenced
        else graph.dependentsOf referenced ++ [cell]
      else (graph.dependentsOf referenced).filter (· != cell) := by
  have dropped : referenced ∈
        (graph.precedentsOf cell).filter (fun old => !references.contains old) ↔
      cell ∈ graph.dependentsOf referenced ∧ referenced ∉ references := by
    simp [mirrored referenced cell]
  rw [setReferences, dependentsOf_foldl_addDependency]
  simp only [dependentsOf, Links.of_foldl_unlink] at dropped ⊢
  rw [if_congr dropped rfl rfl]
  by_cases read : referenced ∈ references
  · by_cases present : cell ∈ graph.dependents.of referenced
    · simp [read, present]
    · simp [read, present]
  · by_cases present : cell ∈ graph.dependents.of referenced
    · simp [read, present]
    · have unchanged : (graph.dependents.of referenced).filter (· != cell) =
          graph.dependents.of referenced := by
        rw [List.filter_eq_self]
        intro other member
        rw [bne_iff_ne]
        exact fun same => present (same ▸ member)
      simp [read, present, unchanged]

/-! ## Entries -/

/-- Every cell that has an entry in one of the tables has links there. -/
structure Populated (graph : DependencyGraph) : Prop where
  dependents : graph.dependents.Populated
  precedents : graph.precedents.Populated

theorem Built.populated (built : graph.Built) : graph.Populated :=
  ⟨(built.both Links.kept_populated).1, (built.both Links.kept_populated).2⟩

/-- A graph without empty lists is empty if there are no references. -/
theorem Populated.isEmpty_iff (populated : graph.Populated) :
    graph.isEmpty = true ↔ ∀ cell, graph.dependentsOf cell = [] ∧ graph.precedentsOf cell = [] := by
  rw [isEmpty, Bool.and_eq_true, populated.dependents.isEmpty_iff,
    populated.precedents.isEmpty_iff]
  exact forall_and.symm

/-! ## Sequences of operations -/

/-- An operation on a reference graph. -/
inductive Operation where
  | add (referenced dependent : Address)
  | set (cell : Address) (references : List Address)
  | clear

/-- The graph after an operation. -/
def operate (graph : DependencyGraph) : Operation → DependencyGraph
  | .add referenced dependent => graph.addDependency referenced dependent
  | .set cell references => graph.setReferences cell references
  | .clear => empty

/-- The graph that some operations make of the empty one. -/
def ofOperations (operations : List Operation) : DependencyGraph :=
  operations.foldl operate empty

theorem Built.operate (built : graph.Built) (operation : Operation) :
    (graph.operate operation).Built := by
  cases operation with
  | add referenced dependent => exact built.addDependency referenced dependent
  | set cell references => exact built.setReferences cell references
  | clear => exact .empty

theorem Built.foldl_operate (built : graph.Built) (operations : List Operation) :
    (operations.foldl DependencyGraph.operate graph).Built := by
  induction operations generalizing graph with
  | nil => exact built
  | cons operation operations ih => exact ih (built.operate operation)

/-- The references of a cell have been replaced, and nothing else has changed. -/
structure Relinks (cell : Address) (references : List Address)
    (before after : DependencyGraph) : Prop where
  own : after.precedentsOf cell = references.eraseDups
  others : ∀ other, other ≠ cell → after.precedentsOf other = before.precedentsOf other
  still : ∀ referenced ∈ references, cell ∈ before.dependentsOf referenced →
    after.dependentsOf referenced = before.dependentsOf referenced
  newly : ∀ referenced ∈ references, cell ∉ before.dependentsOf referenced →
    after.dependentsOf referenced = before.dependentsOf referenced ++ [cell]
  noLonger : ∀ referenced, referenced ∉ references →
    after.dependentsOf referenced = (before.dependentsOf referenced).filter (· != cell)

theorem relinks_setReferences (mirrored : graph.Mirrored) (cell : Address)
    (references : List Address) : Relinks cell references graph
      (graph.setReferences cell references) where
  own := by rw [precedentsOf_setReferences, if_pos rfl]
  others other apart := by rw [precedentsOf_setReferences, if_neg apart]
  still referenced read present := by
    rw [dependentsOf_setReferences mirrored, if_pos read, if_pos present]
  newly referenced read absent := by
    rw [dependentsOf_setReferences mirrored, if_pos read, if_neg absent]
  noLonger referenced unread := by rw [dependentsOf_setReferences mirrored, if_neg unread]

/-- Operations in any order keep both tables in step, without repetitions and without
empty lists, so the graph is empty exactly if there are no references.  Replacing the
references of a cell moves no entry that stays. -/
theorem tables_in_step_of_operations (operations : List Operation) :
    (ofOperations operations).Mirrored ∧ (ofOperations operations).Unrepeated ∧
      (ofOperations operations).Populated ∧
      ((ofOperations operations).isEmpty = true ↔
        ∀ referenced dependent, dependent ∉ (ofOperations operations).dependentsOf referenced) ∧
      ∀ cell references, Relinks cell references (ofOperations operations)
        ((ofOperations operations).setReferences cell references) := by
  have built : (ofOperations operations).Built := Built.empty.foldl_operate operations
  have mirrored := built.mirrored
  refine ⟨mirrored, built.unrepeated, built.populated, ?_, relinks_setReferences mirrored⟩
  rw [built.populated.isEmpty_iff]
  constructor
  · intro nothing referenced dependent member
    rw [(nothing referenced).1] at member
    exact List.not_mem_nil member
  · intro nothing cell
    constructor
    · exact List.eq_nil_iff_forall_not_mem.2 (nothing cell)
    · refine List.eq_nil_iff_forall_not_mem.2 fun referenced read => ?_
      exact nothing referenced cell ((mirrored referenced cell).2 read)

end DependencyGraph

end Worksheet
