import Worksheet.Dependency.Graph
import Worksheet.Proofs.Relation.Cycle

/-!
# Groups of cells that reach each other

A cell feeds the cells whose formulas name it.  Two cells are joined if each can be
reached from the other, and the cells of a graph fall into groups of joined cells.  A
cell is on a reference cycle exactly if it is not alone in its group.

If no cell of a later group leads to a cell of an earlier one, then the groups one after
another are an order in which each cell comes after all cells that it depends on, apart
from those that depend on it as well.
-/

namespace Worksheet

open Relation

namespace DependencyGraph

/-- The formula of `reader` names `source`. -/
def Feeds (graph : DependencyGraph) (source reader : Address) : Prop :=
  reader ∈ graph.dependentsOf source

/-- A change of `source` can make a difference to `target`. -/
def Reaches (graph : DependencyGraph) (source target : Address) : Prop :=
  ReflTransGen graph.Feeds source target

/-- Two cells can be reached from each other. -/
def Joined (graph : DependencyGraph) (a b : Address) : Prop :=
  graph.Reaches a b ∧ graph.Reaches b a

variable {graph : DependencyGraph}

theorem Joined.refl (cell : Address) : graph.Joined cell cell :=
  ⟨ReflTransGen.refl, ReflTransGen.refl⟩

theorem Joined.symm {a b : Address} (joined : graph.Joined a b) : graph.Joined b a :=
  ⟨joined.2, joined.1⟩

theorem Joined.trans {a b c : Address} (first : graph.Joined a b) (second : graph.Joined b c) :
    graph.Joined a c :=
  ⟨first.1.trans second.1, second.2.trans first.2⟩

/-- Cells that feed each other only cannot be left. -/
theorem Reaches.mem_of_closed {cells : List Address}
    (closed : ∀ cell ∈ cells, ∀ next, graph.Feeds cell next → next ∈ cells)
    {source target : Address} (reaches : graph.Reaches source target) (inside : source ∈ cells) :
    target ∈ cells := by
  induction reaches with
  | refl => exact inside
  | @tail middle target _ step ih => exact closed middle ih target step

end DependencyGraph

namespace Cascade

/-- The cells of some groups, each of them with all cells that are joined to it, and in
an order in which no group leads back to one before it. -/
structure Grouped (graph : DependencyGraph) (groups : List (List Address)) : Prop where
  distinct : groups.flatten.Nodup
  joined : ∀ group ∈ groups, ∀ cell ∈ group, ∀ other, other ∈ group ↔ graph.Joined cell other
  forward : groups.Pairwise fun first later =>
    ∀ cell ∈ first, ∀ other ∈ later, ¬ graph.Reaches other cell

namespace Grouped

variable {graph : DependencyGraph} {groups : List (List Address)}

theorem nil : Grouped graph [] := by
  constructor <;> simp

/-- A group can be put in front of groups that cannot be left. -/
theorem cons {group : List Address} (grouped : Grouped graph groups)
    (distinct : (group ++ groups.flatten).Nodup)
    (joined : ∀ cell ∈ group, ∀ other, other ∈ group ↔ graph.Joined cell other)
    (closed : ∀ cell ∈ groups.flatten, ∀ next, graph.Feeds cell next → next ∈ groups.flatten) :
    Grouped graph (group :: groups) := by
  constructor
  case distinct => exact distinct
  case joined =>
    intro any member
    rcases List.mem_cons.1 member with rfl | later
    · exact joined
    · exact grouped.joined any later
  case forward =>
    refine List.pairwise_cons.2 ⟨?_, grouped.forward⟩
    intro later laterMem cell cellMem other otherMem reaches
    have behind := reaches.mem_of_closed closed (List.mem_flatten.2 ⟨later, laterMem, otherMem⟩)
    exact List.disjoint_of_nodup_append distinct cellMem behind

/-- The cells in the order of their groups come before those that they do not
depend on. -/
theorem ordered (grouped : Grouped graph groups) :
    groups.flatten.Pairwise fun first later =>
      graph.Reaches later first → graph.Reaches first later := by
  rw [List.pairwise_flatten]
  constructor
  · intro group member
    apply List.pairwise_of_forall_mem_list
    intro first firstMem later laterMem _
    exact ((grouped.joined group member first firstMem later).1 laterMem).1
  · apply grouped.forward.imp
    intro first later apart cell cellMem other otherMem reaches
    exact absurd reaches (apart cell cellMem other otherMem)

/-- A cell is on a reference cycle exactly if it is not alone in its group. -/
theorem one_lt_length_iff (grouped : Grouped graph groups) {group : List Address}
    (member : group ∈ groups) {cell : Address} (inside : cell ∈ group) :
    1 < group.length ↔ OnCycle graph.Feeds cell := by
  have distinct : group.Nodup := (List.nodup_flatten.1 grouped.distinct).1 group member
  rw [OnCycle.iff_mutual]
  constructor
  · intro several
    have notAlone : group ≠ [cell] := by
      rintro rfl
      simp at several
    rcases (List.Nodup.ne_singleton_iff distinct cell).1 notAlone with rfl | other
    · simp at inside
    · obtain ⟨other, otherMem, apart⟩ := other
      have joined := (grouped.joined group member cell inside other).1 otherMem
      exact ⟨other, apart, joined.1, joined.2⟩
  · rintro ⟨other, apart, there, back⟩
    have otherMem := (grouped.joined group member cell inside other).2 ⟨there, back⟩
    have notAlone : group ≠ [cell] :=
      (List.Nodup.ne_singleton_iff distinct cell).2 (Or.inr ⟨other, otherMem, apart⟩)
    by_contra few
    have single : group.length = 1 :=
      Nat.le_antisymm (Nat.not_lt.1 few) (List.length_pos_of_mem inside)
    obtain ⟨only, rfl⟩ := List.length_eq_one_iff.1 single
    rw [List.mem_singleton] at inside
    subst inside
    exact notAlone rfl

end Grouped

end Cascade

end Worksheet
