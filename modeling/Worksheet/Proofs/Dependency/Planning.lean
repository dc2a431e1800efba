import Worksheet.Proofs.Dependency.Mirror
import Worksheet.Proofs.Dependency.Walking

/-!
# The planned order

A plan lists the changed cell first and then all cells that can be reached from it, each
once.  A cell comes before the cells that read it unless they also lead back to it, and a
cell is marked exactly if it is on a reference cycle.  The cells that the plan brings into
the guard are the listed ones, so releasing its scope leaves the guard as empty as it was.

All of this can be read off the state in which the walk of the plan ends.
-/

namespace Worksheet.Cascade

open Relation

/-- A cascade that serves to evaluate a changed cell and all that depends on it. -/
structure Plans (graph : DependencyGraph) (root : Address) (cascade : Cascade) : Prop where
  mem_order : ∀ cell, cell ∈ cascade.order ↔ graph.Reaches root cell
  distinct : cascade.order.Nodup
  ordered : cascade.order.Pairwise fun first later =>
    graph.Reaches later first → graph.Reaches first later
  marked : ∀ step ∈ cascade.steps, (step.2 = true ↔ OnCycle graph.Feeds step.1)

/-- The cells that a plan brings into the guard are those that can be reached. -/
structure Held (graph : DependencyGraph) (root : Address) (guard : Guard) (scope : GuardScope) :
    Prop where
  guarded : ∀ cell, guard.isEvaluating cell = true ↔ graph.Reaches root cell
  released : ∀ cell, cell ∈ scope.cells.toList ↔ graph.Reaches root cell

/-- The steps of a cascade go through its cells in order. -/
theorem steps_map_fst (cascade : Cascade) : cascade.steps.map Prod.fst = cascade.order := by
  rw [steps, order, List.map_flatMap]
  simp [List.map_map, Function.comp_def, List.flatMap_id']

variable {graph : DependencyGraph} {root : Address} {guard : Guard} {scope : GuardScope}

/-! ## The end of the walk -/

namespace Traced

variable {walk : Walk graph}

/-- At the end all components are closed, and they hold all that can be reached. -/
theorem mem_groups_iff (traced : Traced graph root walk []) (cell : Address) :
    cell ∈ walk.groups.flatten ↔ graph.Reaches root cell := by
  constructor
  · intro member
    apply traced.reached
    rw [traced.met]
    exact List.mem_append_right _ member
  · intro reaches
    exact reaches.mem_of_closed traced.closed (List.mem_of_head? (traced.first traced.path))

theorem isEvaluating_iff (traced : Traced graph root walk []) (cell : Address) :
    walk.guard.isEvaluating cell = true ↔ cell ∈ walk.groups.flatten := by
  rw [traced.held, traced.met, traced.stack, List.flatMap_nil, List.nil_append]

theorem scope_perm (traced : Traced graph root walk []) :
    walk.scope.cells.toList.Perm walk.groups.flatten := by
  have entered := traced.entered
  rw [traced.stack, List.flatMap_nil, List.nil_append] at entered
  exact entered

/-- The closed components are a cascade for the changed cell. -/
theorem plans (traced : Traced graph root walk []) : Plans graph root ⟨walk.groups⟩ := by
  constructor
  case mem_order => exact traced.mem_groups_iff
  case distinct => exact traced.grouped.distinct
  case ordered => exact traced.grouped.ordered
  case marked =>
    intro step member
    rw [steps, List.mem_flatMap] at member
    obtain ⟨group, groupMem, stepMem⟩ := member
    obtain ⟨cell, cellMem, rfl⟩ := List.mem_map.1 stepMem
    rw [decide_eq_true_iff]
    exact traced.grouped.one_lt_length_iff groupMem cellMem

end Traced

/-! ## The plan -/

/-- The walk of a plan, from a cell that is alone in the guard. -/
theorem traced_plan (only : ∀ cell, guard.isEvaluating cell = true ↔ cell = root)
    (entered : scope.cells.toList = [root]) :
    Traced graph root (Walk.start graph root guard scope).run [] :=
  (Traced.start only entered).run

theorem plan_plans (only : ∀ cell, guard.isEvaluating cell = true ↔ cell = root)
    (entered : scope.cells.toList = [root]) :
    Plans graph root (plan graph root guard scope).1 :=
  (traced_plan only entered).plans

theorem plan_held (only : ∀ cell, guard.isEvaluating cell = true ↔ cell = root)
    (entered : scope.cells.toList = [root]) :
    Held graph root (plan graph root guard scope).2.1 (plan graph root guard scope).2.2 := by
  have traced : Traced graph root (Walk.start graph root guard scope).run [] :=
    traced_plan only entered
  constructor
  case guarded =>
    intro cell
    rw [← traced.mem_groups_iff]
    exact traced.isEvaluating_iff cell
  case released =>
    intro cell
    rw [← traced.mem_groups_iff]
    exact traced.scope_perm.mem_iff

/-- The changed cell is the first one to be evaluated. -/
theorem head?_order (only : ∀ cell, guard.isEvaluating cell = true ↔ cell = root)
    (entered : scope.cells.toList = [root]) :
    (plan graph root guard scope).1.order.head? = some root := by
  have traced : Traced graph root (Walk.start graph root guard scope).run [] :=
    traced_plan only entered
  exact traced.first traced.path

namespace Plans

variable {cascade : Cascade}

/-- A cell comes before its dependents that do not lead back to it. -/
theorem sublist_of_feeds (plans : Plans graph root cascade) {source reader : Address}
    (sourceMem : source ∈ cascade.order) (readerMem : reader ∈ cascade.order)
    (feeds : graph.Feeds source reader) (oneWay : ¬ graph.Reaches reader source) :
    [source, reader].Sublist cascade.order := by
  obtain ⟨earlier, later, split⟩ := List.append_of_mem sourceMem
  have ordered := plans.ordered
  rw [split] at readerMem ordered ⊢
  rcases List.mem_append.1 readerMem with before | notBefore
  · have back := (List.pairwise_append.1 ordered).2.2 reader before source List.mem_cons_self
    exact absurd (back (ReflTransGen.single feeds)) oneWay
  · rcases List.mem_cons.1 notBefore with rfl | after
    · exact absurd ReflTransGen.refl oneWay
    · exact (List.cons_sublist_cons.2 (List.singleton_sublist.2 after)).trans
        (List.sublist_append_right earlier _)

/-- The marked cells are the listed ones on a reference cycle. -/
theorem mem_cyclic_iff (plans : Plans graph root cascade) (cell : Address) :
    cell ∈ cascade.cyclic ↔ cell ∈ cascade.order ∧ OnCycle graph.Feeds cell := by
  have marked : ∀ group ∈ cascade.groups, ∀ cell ∈ group,
      (1 < group.length ↔ OnCycle graph.Feeds cell) := by
    intro group groupMem cell cellMem
    rw [← plans.marked (cell, decide (1 < group.length)), decide_eq_true_iff]
    rw [steps, List.mem_flatMap]
    exact ⟨group, groupMem, List.mem_map.2 ⟨cell, cellMem, rfl⟩⟩
  rw [cyclic, order]
  simp only [List.mem_flatten, List.mem_filter, decide_eq_true_iff]
  constructor
  · rintro ⟨group, ⟨groupMem, several⟩, cellMem⟩
    exact ⟨⟨group, groupMem, cellMem⟩, (marked group groupMem cell cellMem).1 several⟩
  · rintro ⟨⟨group, groupMem, cellMem⟩, circular⟩
    exact ⟨group, ⟨groupMem, (marked group groupMem cell cellMem).2 circular⟩, cellMem⟩

end Plans

/-- For every graph and every cell that is alone in the guard, a plan lists the cell first
and then all that can be reached from it, each once.  A cell comes before its dependents
that do not lead back to it, the marked cells are those on a cycle of several cells, and the
scope and the guard hold what is listed. -/
theorem plan_of_alone (only : ∀ cell, guard.isEvaluating cell = true ↔ cell = root)
    (entered : scope.cells.toList = [root]) :
    ∃ cascade held filled, plan graph root guard scope = (cascade, held, filled) ∧
      (cascade.order.head? = some root ∧ cascade.order.Nodup ∧
        ∀ cell, cell ∈ cascade.order ↔ graph.Reaches root cell) ∧
      (∀ source ∈ cascade.order, ∀ reader ∈ cascade.order,
        reader ∈ graph.dependentsOf source → ¬ graph.Reaches reader source →
          [source, reader].Sublist cascade.order) ∧
      (∀ cell, cell ∈ cascade.cyclic ↔
        cell ∈ cascade.order ∧ OnCycle graph.Feeds cell) ∧
      (filled.cells.toList.Perm cascade.order ∧
        ∀ cell, held.isEvaluating cell = true ↔ cell ∈ cascade.order) := by
  have traced : Traced graph root (Walk.start graph root guard scope).run [] :=
    traced_plan only entered
  have plans := traced.plans
  refine ⟨_, _, _, rfl, ⟨head?_order only entered, plans.distinct, plans.mem_order⟩, ?_,
    plans.mem_cyclic_iff, traced.scope_perm, traced.isEvaluating_iff⟩
  intro source sourceMem reader readerMem
  exact plans.sublist_of_feeds sourceMem readerMem

/-- A cell that reads itself, with two dependents that also read each other, is an
example: only the dependents are marked. -/
theorem plan_of_two_readers :
    ∃ graph : DependencyGraph, ∃ cascade held filled,
      graph = ((DependencyGraph.empty.setReferences ⟨0, 0⟩ [⟨0, 0⟩]).setReferences ⟨0, 1⟩
        [⟨0, 0⟩, ⟨0, 2⟩]).addDependency ⟨0, 1⟩ ⟨0, 2⟩ ∧ graph.Built ∧
      (∀ cell, (Guard.empty.hold ⟨0, 0⟩).isEvaluating cell = true ↔ cell = ⟨0, 0⟩) ∧
      plan graph ⟨0, 0⟩ (Guard.empty.hold ⟨0, 0⟩) ⟨#[⟨0, 0⟩]⟩ = (cascade, held, filled) ∧
      cascade.order.head? = some ⟨0, 0⟩ ∧ ⟨0, 0⟩ ∉ cascade.cyclic ∧ ⟨0, 1⟩ ∈ cascade.cyclic := by
  have built := ((DependencyGraph.Built.empty.setReferences ⟨0, 0⟩ [⟨0, 0⟩]).setReferences ⟨0, 1⟩
    [⟨0, 0⟩, ⟨0, 2⟩]).addDependency ⟨0, 1⟩ ⟨0, 2⟩
  have only : ∀ cell, (Guard.empty.hold ⟨0, 0⟩).isEvaluating cell = true ↔ cell = ⟨0, 0⟩ := by
    intro cell
    rw [Guard.isEvaluating_hold, Guard.isEvaluating_empty, Bool.or_false, beq_iff_eq, eq_comm]
  have feeds : ∀ source reader, _ ↔ _ := built.mirrored
  simp only [DependencyGraph.precedentsOf_addDependency,
    DependencyGraph.precedentsOf_setReferences, DependencyGraph.precedentsOf_empty] at feeds
  generalize edited : ((DependencyGraph.empty.setReferences ⟨0, 0⟩ [⟨0, 0⟩]).setReferences ⟨0, 1⟩
    [⟨0, 0⟩, ⟨0, 2⟩]).addDependency ⟨0, 1⟩ ⟨0, 2⟩ = graph at built feeds
  have entered : (GuardScope.mk #[⟨0, 0⟩]).cells.toList = [⟨0, 0⟩] := rfl
  obtain ⟨cascade, held, filled, planned, ⟨first, -, listed⟩, -, marked, -⟩ :=
    plan_of_alone only entered
  have alone : ∀ cell, graph.Reaches cell ⟨0, 0⟩ → cell = ⟨0, 0⟩ := by
    intro cell reaches
    induction reaches using ReflTransGen.head_induction_on with
    | refl => rfl
    | @head source next step _ ih =>
        rw [ih] at step
        simpa using (feeds _ _).1 step
  refine ⟨graph, cascade, held, filled, rfl, built, only, planned, first, ?_, ?_⟩
  · rw [marked, not_and]
    intro _ circular
    obtain ⟨next, apart, -, back⟩ := circular.exists_step
    exact apart (alone next back)
  · rw [marked, listed]
    have there : graph.Feeds ⟨0, 1⟩ ⟨0, 2⟩ := (feeds _ _).2 (by decide)
    have back : graph.Feeds ⟨0, 2⟩ ⟨0, 1⟩ := (feeds _ _).2 (by decide)
    exact ⟨ReflTransGen.single ((feeds _ _).2 (by decide)), .of_mutual (by decide) there back⟩

end Worksheet.Cascade
