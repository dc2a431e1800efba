import Mathlib.Data.List.Chain
import Worksheet.Proofs.Dependency.Layers

/-!
# What a walk for components preserves

Every step of a walk keeps its state `Traced`.  A dependent that belongs to an open
component lowers the number of the cell whose dependent it is, and one that has not been
met is looked into.

When all has been tried from a cell there are two cases.  If its low number is smaller than
its index, then the cell leads to a cell of another layer and from there to the cell before
it on the path, and the two layers become one.  If it is not smaller, then no link leads out
of the layer but to closed components, and the layer is a component itself.
-/

namespace Worksheet.Cascade

open Relation

variable {graph : DependencyGraph}

namespace Accounted

variable {root : Address} {walk : Walk graph}

/-! ## Counting the cells -/

/-- It is all the same how the walk goes on. -/
theorem withPath (accounted : Accounted graph root walk) (path : List (Turn graph)) :
    Accounted graph root { walk with path } :=
  ⟨accounted.met, accounted.held, accounted.entered, accounted.distinct, accounted.bounded,
    accounted.descending, accounted.closed, accounted.grouped, accounted.reached⟩

theorem lower (accounted : Accounted graph root walk) (cell : Address) (index : Nat) :
    Accounted graph root { walk with components := walk.components.lower cell index } := by
  constructor
  case met =>
    intro other
    rw [Components.mem_visits_lower]
    exact accounted.met other
  case held =>
    intro other
    rw [Components.mem_visits_lower]
    exact accounted.held other
  case entered => exact accounted.entered
  case distinct => exact accounted.distinct
  case bounded =>
    intro other onStack
    rw [Components.indexOf_lower, Components.size_visits_lower]
    exact accounted.bounded other onStack
  case descending =>
    simp only [Components.indexOf_lower]
    exact accounted.descending
  case closed => exact accounted.closed
  case grouped => exact accounted.grouped
  case reached =>
    intro other member
    rw [Components.mem_visits_lower] at member
    exact accounted.reached other member

/-- A cell that can be reached is met. -/
theorem discover (accounted : Accounted graph root walk) {next : Address}
    (unmet : next ∉ walk.components.visits) (reaches : graph.Reaches root next)
    (path : List (Turn graph)) :
    Accounted graph root
      { guard := walk.guard.hold next
        scope := walk.scope.add next
        components := walk.components.discover next unmet
        groups := walk.groups
        path } := by
  have isNew : next ∉ walk.components.stack ++ walk.groups.flatten := by
    rw [← accounted.met]
    exact unmet
  have numbers := Components.discover_self unmet
  have indexOf : ∀ other ∈ walk.components.stack,
      (walk.components.discover next unmet).indexOf other = walk.components.indexOf other :=
    fun other member =>
      (Components.discover_of_mem unmet (walk.components.visited other member)).1
  constructor
  case met =>
    intro other
    rw [Components.mem_visits_discover, accounted.met other]
    simp
  case held =>
    intro other
    rw [Guard.isEvaluating_hold, Bool.or_eq_true, beq_iff_eq, accounted.held other,
      Components.mem_visits_discover, eq_comm]
  case entered =>
    have grown : (walk.scope.add next).cells.toList = walk.scope.cells.toList ++ [next] := by
      simp [GuardScope.add]
    rw [grown]
    exact (List.perm_append_singleton next _).trans (accounted.entered.cons next)
  case distinct => exact List.nodup_cons.2 ⟨isNew, accounted.distinct⟩
  case bounded =>
    intro other member
    rw [Components.size_visits_discover]
    rcases List.mem_cons.1 member with rfl | before
    · rw [numbers.1]
      exact Nat.lt_succ_self _
    · rw [indexOf other before]
      exact (accounted.bounded other before).trans (Nat.lt_succ_self _)
  case descending =>
    refine List.pairwise_cons.2 ⟨?_, ?_⟩
    · intro other member
      rw [numbers.1, indexOf other member]
      exact accounted.bounded other member
    · apply accounted.descending.imp_of_mem
      intro later earlier laterMem earlierMem before
      rw [indexOf later laterMem, indexOf earlier earlierMem]
      exact before
  case closed => exact accounted.closed
  case grouped => exact accounted.grouped
  case reached =>
    intro other member
    rcases (Components.mem_visits_discover unmet other).1 member with rfl | before
    · exact reaches
    · exact accounted.reached other before

/-- A component on top of the stack is closed. -/
theorem close (accounted : Accounted graph root walk) {left : Components}
    {cells component : List Address} (visits : left.visits = walk.components.visits)
    (split : walk.components.stack = cells ++ left.stack) (same : component.Perm cells)
    (joined : ∀ cell ∈ cells, ∀ other, other ∈ cells ↔ graph.Joined cell other)
    (kept : ∀ cell ∈ cells ++ walk.groups.flatten, ∀ next, graph.Feeds cell next →
      next ∈ cells ++ walk.groups.flatten) (path : List (Turn graph)) :
    Accounted graph root
      { walk with path, components := left, groups := component :: walk.groups } := by
  have numbersOf := Components.numbers_eq visits
  have moved : (walk.components.stack ++ walk.groups.flatten).Perm
      (left.stack ++ (component :: walk.groups).flatten) := by
    rw [split, List.flatten_cons, ← List.append_assoc]
    apply List.Perm.append_right
    exact List.perm_append_comm.trans (same.symm.append_left left.stack)
  constructor
  case met =>
    intro cell
    dsimp only
    rw [visits, accounted.met, moved.mem_iff]
  case held =>
    intro cell
    dsimp only
    rw [visits]
    exact accounted.held cell
  case entered => exact accounted.entered.trans moved
  case distinct => exact moved.nodup_iff.1 accounted.distinct
  case bounded =>
    intro cell member
    dsimp only
    rw [visits, (numbersOf cell).1]
    apply accounted.bounded
    rw [split]
    exact List.mem_append_right _ member
  case descending =>
    have descending := accounted.descending
    rw [split] at descending
    apply (List.pairwise_append.1 descending).2.1.imp
    intro later earlier before
    dsimp only
    rw [(numbersOf later).1, (numbersOf earlier).1]
    exact before
  case closed =>
    have flat := same.append_right walk.groups.flatten
    intro cell member next feeds
    exact flat.mem_iff.2 (kept cell (flat.mem_iff.1 member) next feeds)
  case grouped =>
    apply accounted.grouped.cons
    · exact (moved.nodup_iff.1 accounted.distinct).of_append_right
    · intro cell member other
      rw [same.mem_iff] at member ⊢
      exact joined cell member other
    · exact accounted.closed
  case reached =>
    intro cell member
    dsimp only at member
    rw [visits] at member
    exact accounted.reached cell member

end Accounted

namespace Traced

variable {root : Address} {walk : Walk graph} {layers outer : List (Layer graph)}
  {layer : Layer graph}

/-! ## Steps of the walk -/

/-- A cell of the path may be found to lead to a cell on the stack. -/
theorem lower (traced : Traced graph root walk layers) (member : layer ∈ layers)
    {target : Address} (onStack : target ∈ walk.components.stack)
    (reaches : graph.Reaches layer.turn.cell target) :
    Traced graph root
      { walk with
        components := walk.components.lower layer.turn.cell (walk.components.indexOf target) }
      layers := by
  have met := traced.mem_visits member layer.cell_mem
  constructor
  case toAccounted => exact traced.toAccounted.lower _ _
  case path => exact traced.path
  case stack => exact traced.stack
  case linked => exact traced.linked
  case lowest =>
    intro other otherMem
    rw [Components.indexOf_lower]
    exact (Components.lowOf_lower_le met _ _).trans (traced.lowest other otherMem)
  case leads =>
    intro other otherMem
    simp only [Components.indexOf_lower, Components.lowOf_lower met]
    split
    · next same =>
        rcases Nat.le_total (walk.components.lowOf layer.turn.cell)
          (walk.components.indexOf target) with before | after
        · rw [Nat.min_eq_left before, same]
          exact traced.leads layer member
        · rw [Nat.min_eq_right after, same]
          exact ⟨target, onStack, rfl, reaches⟩
    · exact traced.leads other otherMem
  case tried =>
    intro other otherMem cell inside next feeds
    apply (traced.tried other otherMem cell inside next feeds).imp_right
    apply Or.imp_right
    rintro ⟨open_, bound⟩
    rw [Components.indexOf_lower]
    exact ⟨open_, (Components.lowOf_lower_le met _ _).trans bound⟩
  case outermost => exact traced.outermost
  case first => exact traced.first

section

variable {next : Address} (unmet : next ∉ walk.components.visits)

/-- The numbers of the open cells stay as they are when a new cell is met. -/
theorem numbers_discover (traced : Traced graph root walk layers) (member : layer ∈ layers)
    {cell : Address} (inside : cell ∈ layer.cells) :
    (walk.components.discover next unmet).indexOf cell = walk.components.indexOf cell ∧
      (walk.components.discover next unmet).lowOf cell = walk.components.lowOf cell :=
  Components.discover_of_mem unmet (traced.mem_visits member inside)

theorem lowest_discover (traced : Traced graph root walk layers) :
    ∀ layer ∈ layers, (walk.components.discover next unmet).lowOf layer.turn.cell ≤
      (walk.components.discover next unmet).indexOf layer.turn.cell := by
  intro layer member
  have same := traced.numbers_discover unmet member layer.cell_mem
  rw [same.1, same.2]
  exact traced.lowest layer member

theorem leads_discover (traced : Traced graph root walk layers) :
    ∀ layer ∈ layers, ∃ target ∈ (walk.components.discover next unmet).stack,
      (walk.components.discover next unmet).indexOf target =
          (walk.components.discover next unmet).lowOf layer.turn.cell ∧
        graph.Reaches layer.turn.cell target := by
  intro layer member
  obtain ⟨target, onStack, number, reaches⟩ := traced.leads layer member
  have met := walk.components.visited target onStack
  refine ⟨target, List.mem_cons_of_mem _ onStack, ?_, reaches⟩
  rw [(Components.discover_of_mem unmet met).1, number,
    (traced.numbers_discover unmet member layer.cell_mem).2]

/-- What is settled for a layer remains so. -/
theorem settled_discover (traced : Traced graph root walk layers) :
    ∀ layer ∈ layers, ∀ cell, walk.Settled (walk.components.lowOf layer.turn.cell) cell →
      cell ∈ walk.groups.flatten ∨ (cell ∈ (walk.components.discover next unmet).stack ∧
        (walk.components.discover next unmet).lowOf layer.turn.cell ≤
          (walk.components.discover next unmet).indexOf cell) := by
  intro layer member cell settled
  apply settled.imp_right
  rintro ⟨onStack, bound⟩
  have met := walk.components.visited cell onStack
  rw [(Components.discover_of_mem unmet met).1,
    (traced.numbers_discover unmet member layer.cell_mem).2]
  exact ⟨List.mem_cons_of_mem _ onStack, bound⟩

end

section

variable {cell next : Address} {untried : List Address}
  {feeds : ∀ other ∈ next :: untried, other ∈ graph.dependentsOf cell}
  {above : List Address} {joined : ∀ other ∈ above, graph.Joined cell other}

/-- When a dependent is settled, all others of its layer are still to be tried or settled
as before. -/
theorem tried_next (traced : Traced graph root walk
      (⟨⟨cell, next :: untried, feeds⟩, above, joined⟩ :: outer)) {settled : Address → Prop}
    (keeps : ∀ other, walk.Settled (walk.components.lowOf cell) other → settled other)
    (now : settled next) :
    ∀ member ∈ above ++ [cell], ∀ other, graph.Feeds member other →
      (member = cell ∧ other ∈ untried) ∨ settled other := by
  intro member inside other fed
  rcases traced.tried _ List.mem_cons_self member inside other fed with ⟨same, left⟩ | before
  · rcases List.mem_cons.1 left with rfl | left
    · exact Or.inr now
    · exact Or.inl ⟨same, left⟩
  · exact Or.inr (keeps other before)

/-- A dependent that is settled needs not to be tried. -/
theorem pass (traced : Traced graph root walk
      (⟨⟨cell, next :: untried, feeds⟩, above, joined⟩ :: outer))
    (settled : walk.Settled (walk.components.lowOf cell) next) :
    Traced graph root { walk with path := Turn.tried feeds :: outer.map Layer.turn }
      (Layer.tried feeds above joined :: outer) := by
  constructor
  case toAccounted => exact traced.toAccounted.withPath _
  case path => rfl
  case stack => exact traced.stack
  case linked => exact traced.linked
  case lowest => exact List.forall_mem_cons.2 (List.forall_mem_cons.1 traced.lowest)
  case leads => exact List.forall_mem_cons.2 (List.forall_mem_cons.1 traced.leads)
  case tried =>
    refine List.forall_mem_cons.2 ⟨?_, (List.forall_mem_cons.1 traced.tried).2⟩
    exact traced.tried_next (fun _ before => before) settled
  case outermost => exact traced.outermost
  case first => simp

/-- A dependent that has not been met is looked into, in a layer of its own. -/
theorem enter (traced : Traced graph root walk
      (⟨⟨cell, next :: untried, feeds⟩, above, joined⟩ :: outer))
    (unmet : next ∉ walk.components.visits) :
    Traced graph root
      (Walk.enter { walk with path := Turn.tried feeds :: outer.map Layer.turn } next unmet)
      (⟨Turn.start graph next, [], by simp⟩ :: Layer.tried feeds above joined :: outer) := by
  have step : graph.Feeds cell next := feeds next List.mem_cons_self
  have outside : ¬ walk.guard.isEvaluating next = true := by
    rw [traced.held]
    exact unmet
  have reaches := traced.reached cell (traced.mem_visits List.mem_cons_self (Layer.cell_mem _))
  have numbers := Components.discover_self unmet
  have lowOf : (walk.components.discover next unmet).lowOf cell = walk.components.lowOf cell :=
    (traced.numbers_discover unmet List.mem_cons_self (Layer.cell_mem _)).2
  rw [Walk.enter_eq_extend?, Guard.extend?, if_neg outside]
  dsimp only
  constructor
  case toAccounted => exact traced.toAccounted.discover unmet (reaches.tail step) _
  case path => rfl
  case stack =>
    rw [Components.stack_discover, traced.stack]
    rfl
  case linked => exact List.isChain_cons_cons.2 ⟨step, traced.linked⟩
  case lowest =>
    have before := traced.lowest_discover unmet
    refine List.forall_mem_cons.2 ⟨?_, List.forall_mem_cons.2 (List.forall_mem_cons.1 before)⟩
    exact Nat.le_of_eq (numbers.2.trans numbers.1.symm)
  case leads =>
    have before := traced.leads_discover unmet
    refine List.forall_mem_cons.2 ⟨?_, List.forall_mem_cons.2 (List.forall_mem_cons.1 before)⟩
    exact ⟨next, List.mem_cons_self, numbers.1.trans numbers.2.symm, ReflTransGen.refl⟩
  case tried =>
    -- The new cell comes first, then the cell that it was met from, then the other layers.
    refine List.forall_mem_cons.2 ⟨?_, List.forall_mem_cons.2 ⟨?_, ?_⟩⟩
    · intro other inside further feeds
      have same : other = next := List.mem_singleton.1 inside
      rw [same] at feeds ⊢
      exact Or.inl ⟨rfl, List.mem_reverse.2 feeds⟩
    · have onStack : cell ∈ walk.components.stack :=
        traced.mem_stack List.mem_cons_self (Layer.cell_mem _)
      have bound : (walk.components.discover next unmet).lowOf cell ≤
          (walk.components.discover next unmet).indexOf next := by
        rw [numbers.1, lowOf]
        exact (traced.lowest _ List.mem_cons_self).trans (traced.bounded cell onStack).le
      exact traced.tried_next (traced.settled_discover unmet _ List.mem_cons_self)
        (Or.inr ⟨List.mem_cons_self, bound⟩)
    · intro layer member other inside further feeds
      have keeps := (List.forall_mem_cons.1 (traced.settled_discover unmet)).2
      have before := (List.forall_mem_cons.1 traced.tried).2
      exact (before layer member other inside further feeds).imp_right (keeps layer member further)
  case outermost =>
    intro last isLast
    rw [List.map_cons, List.map_cons, List.getLast?_cons_cons] at isLast
    exact traced.outermost last isLast
  case first => simp

end

section

variable {inner : Layer graph}

/-- A cell that leads to an open cell with a smaller index leads back to the cell before it
on the path. -/
theorem joined_of_low_lt (traced : Traced graph root walk (inner :: layer :: outer))
    (low : walk.components.lowOf inner.turn.cell < walk.components.indexOf inner.turn.cell) :
    graph.Joined layer.turn.cell inner.turn.cell := by
  have linked := traced.linked
  rw [List.map_cons, List.map_cons, List.isChain_cons_cons] at linked
  obtain ⟨target, onStack, number, reaches⟩ := traced.leads inner List.mem_cons_self
  rw [← number, ← Nat.not_le, ← traced.mem_cells_iff onStack] at low
  rw [traced.stack, List.flatMap_cons, List.mem_append] at onStack
  rcases onStack with within | further
  · exact absurd within low
  · rcases List.mem_flatMap.1 further with ⟨other, otherMem, inside⟩
    have listed : other.turn.cell ∈ (layer :: outer).map fun layer => layer.turn.cell :=
      List.mem_map_of_mem otherMem
    have back := reaches_of_linked linked.2 _ listed
    exact ⟨ReflTransGen.single linked.1, (reaches.trans (other.joined_of_mem inside).2).trans back⟩

/-- When all has been tried from a cell that leads to an open cell met before it, its layer
becomes a part of the next one. -/
theorem merge (traced : Traced graph root walk (inner :: layer :: outer))
    (done : inner.turn.untried = [])
    (low : walk.components.lowOf inner.turn.cell < walk.components.indexOf inner.turn.cell)
    (told : walk.components.lowOf layer.turn.cell ≤ walk.components.lowOf inner.turn.cell) :
    Traced graph root { walk with path := (layer :: outer).map Layer.turn }
      (inner.merge layer (traced.joined_of_low_lt low) :: outer) := by
  constructor
  case toAccounted => exact traced.toAccounted.withPath _
  case path => rfl
  case stack =>
    rw [List.flatMap_cons, Layer.cells_merge, List.append_assoc]
    exact traced.stack
  case linked => exact traced.linked.tail
  case lowest =>
    exact List.forall_mem_cons.2 (List.forall_mem_cons.1 (List.forall_mem_cons.1 traced.lowest).2)
  case leads =>
    exact List.forall_mem_cons.2 (List.forall_mem_cons.1 (List.forall_mem_cons.1 traced.leads).2)
  case tried =>
    obtain ⟨ofInner, ofOthers⟩ := List.forall_mem_cons.1 traced.tried
    obtain ⟨ofLayer, ofOuter⟩ := List.forall_mem_cons.1 ofOthers
    refine List.forall_mem_cons.2 ⟨?_, ofOuter⟩
    intro cell inside next feeds
    rw [Layer.cells_merge, List.mem_append] at inside
    rcases inside with within | before
    · rcases ofInner cell within next feeds with ⟨-, left⟩ | settled
      · rw [done] at left
        exact absurd left List.not_mem_nil
      · exact Or.inr (settled.mono told)
    · exact ofLayer cell before next feeds
  case outermost =>
    intro last isLast
    apply traced.outermost last
    rw [List.map_cons, List.map_cons, List.getLast?_cons_cons]
    exact isLast
  case first => simp

/-- When all has been tried from a cell that leads to no open cell met before it, no link
leads out of its layer but to closed components. -/
theorem mem_of_feeds (traced : Traced graph root walk (layer :: outer))
    (done : layer.turn.untried = [])
    (low : walk.components.lowOf layer.turn.cell = walk.components.indexOf layer.turn.cell) :
    ∀ cell ∈ layer.cells ++ walk.groups.flatten, ∀ next, graph.Feeds cell next →
      next ∈ layer.cells ++ walk.groups.flatten := by
  intro cell member next feeds
  rw [List.mem_append]
  rcases List.mem_append.1 member with inside | behind
  · rcases traced.tried layer List.mem_cons_self cell inside next feeds with
      ⟨-, left⟩ | behind | ⟨onStack, bound⟩
    · rw [done] at left
      exact absurd left List.not_mem_nil
    · exact Or.inr behind
    · rw [low, ← traced.mem_cells_iff onStack] at bound
      exact Or.inl bound
  · exact Or.inr (traced.closed cell behind next feeds)

/-- Such a layer is a component. -/
theorem mem_cells_iff_joined (traced : Traced graph root walk (layer :: outer))
    (done : layer.turn.untried = [])
    (low : walk.components.lowOf layer.turn.cell = walk.components.indexOf layer.turn.cell)
    {cell : Address} (inside : cell ∈ layer.cells) (other : Address) :
    other ∈ layer.cells ↔ graph.Joined cell other := by
  constructor
  · intro otherInside
    exact (layer.joined_of_mem inside).symm.trans (layer.joined_of_mem otherInside)
  · rintro ⟨there, back⟩
    have kept := traced.mem_of_feeds done low
    have around := there.mem_of_closed kept (List.mem_append_left _ inside)
    rcases List.mem_append.1 around with within | behind
    · exact within
    · -- A closed component is never left, so the way back would stay in it.
      have closed := back.mem_of_closed traced.closed behind
      have open_ := traced.mem_stack List.mem_cons_self inside
      exact absurd closed (List.disjoint_of_nodup_append traced.distinct open_)

/-- The low number of another layer belongs to a cell below the innermost layer. -/
theorem not_mem_cells_of_low (traced : Traced graph root walk (layer :: outer))
    {other : Layer graph} (member : other ∈ outer) {target : Address}
    (onStack : target ∈ walk.components.stack)
    (number : walk.components.indexOf target = walk.components.lowOf other.turn.cell) :
    target ∉ layer.cells := by
  have distinct := walk.components.distinct
  rw [traced.stack, List.flatMap_cons] at distinct
  have apart : other.turn.cell ∉ layer.cells := by
    intro inside
    exact List.disjoint_of_nodup_append distinct inside
      (List.mem_flatMap.2 ⟨other, member, other.cell_mem⟩)
  have listed := List.mem_cons_of_mem layer member
  rw [traced.mem_cells_iff (traced.mem_stack listed other.cell_mem), Nat.not_le] at apart
  rw [traced.mem_cells_iff onStack, Nat.not_le, number]
  exact (traced.lowest other listed).trans_lt apart

/-- The component is taken off the stack. -/
theorem close (traced : Traced graph root walk (layer :: outer))
    (done : layer.turn.untried = [])
    (low : walk.components.lowOf layer.turn.cell = walk.components.indexOf layer.turn.cell) :
    ∃ component left, walk.components.take layer.turn.cell = (component, left) ∧
      Traced graph root
        { walk with
          path := outer.map Layer.turn
          components := left
          groups := component :: walk.groups } outer := by
  obtain ⟨left, taken, visits, stack⟩ := Components.take_eq traced.stack_cons
  have numbersOf := Components.numbers_eq visits
  have reversed : (layer.turn.cell :: layer.above.reverse).Perm layer.cells := by
    rw [Layer.cells]
    exact ((List.reverse_perm layer.above).cons _).trans (List.perm_append_singleton _ _).symm
  have split : walk.components.stack = layer.cells ++ left.stack := by
    rw [stack, traced.stack, List.flatMap_cons]
  have outerStack : left.stack = outer.flatMap Layer.cells := stack
  refine ⟨_, left, taken, ?_⟩
  constructor
  case toAccounted =>
    exact traced.toAccounted.close visits split reversed
      (fun _ => traced.mem_cells_iff_joined done low) (traced.mem_of_feeds done low) _
  case path => rfl
  case stack => exact outerStack
  case linked => exact traced.linked.tail
  case lowest =>
    intro other member
    dsimp only
    rw [(numbersOf _).1, (numbersOf _).2]
    exact traced.lowest other (List.mem_cons_of_mem _ member)
  case leads =>
    intro other member
    obtain ⟨target, onStack, number, reaches⟩ := traced.leads other (List.mem_cons_of_mem _ member)
    refine ⟨target, ?_, ?_, reaches⟩
    · have before := traced.not_mem_cells_of_low member onStack number
      rw [split] at onStack
      exact (List.mem_append.1 onStack).resolve_left before
    · dsimp only
      rw [(numbersOf _).1, (numbersOf _).2, number]
  case tried =>
    intro other member cell inside next feeds
    apply (traced.tried other (List.mem_cons_of_mem _ member) cell inside next feeds).imp_right
    rintro (behind | ⟨onStack, bound⟩)
    · exact Or.inl (List.mem_append_right _ behind)
    · rw [split] at onStack
      rcases List.mem_append.1 onStack with taken | left
      · exact Or.inl (List.mem_append_left _ (reversed.mem_iff.2 taken))
      · refine Or.inr ⟨left, ?_⟩
        dsimp only
        rw [(numbersOf _).1, (numbersOf _).2]
        exact bound
  case outermost =>
    intro last isLast
    apply traced.outermost last
    cases outer with
    | nil => cases isLast
    | cons before outer =>
        rw [List.map_cons, List.map_cons, List.getLast?_cons_cons]
        exact isLast
  case first =>
    intro ended
    have alone : outer = [] := List.map_eq_nil_iff.1 ended
    have isRoot : layer.turn.cell = root := by
      apply traced.outermost
      rw [alone]
      rfl
    rw [← isRoot]
    rfl

end

/-! ## The whole walk -/

/-- A dependent that is the cell itself, or belongs to an open or a closed component, is
settled, and another one is looked into. -/
theorem attempt {cell next : Address} {untried : List Address}
    {feeds : ∀ other ∈ next :: untried, other ∈ graph.dependentsOf cell}
    {above : List Address} {joined : ∀ other ∈ above, graph.Joined cell other}
    (traced : Traced graph root walk
      (⟨⟨cell, next :: untried, feeds⟩, above, joined⟩ :: outer)) :
    ∃ layers, Traced graph root
      (Walk.attempt { walk with path := Turn.tried feeds :: outer.map Layer.turn } cell next)
      layers := by
  have onStack : cell ∈ walk.components.stack :=
    traced.mem_stack List.mem_cons_self (Layer.cell_mem _)
  have step : graph.Feeds cell next := feeds next List.mem_cons_self
  unfold Walk.attempt
  split
  · next same =>
      rw [same] at step
      refine ⟨_, traced.pass (Or.inr ?_)⟩
      rw [same]
      exact ⟨onStack, traced.lowest _ List.mem_cons_self⟩
  · split
    · next found => exact ⟨_, traced.enter (by simpa using found)⟩
    · next visit found =>
        dsimp only at found ⊢
        split
        · next nextOpen =>
            have nextOnStack := (walk.components.mem_onStack next).1 nextOpen
            have lowered := traced.lower List.mem_cons_self nextOnStack (ReflTransGen.single step)
            rw [Components.indexOf_eq found] at lowered
            refine ⟨_, lowered.pass (Or.inr ⟨nextOnStack, ?_⟩)⟩
            have met := walk.components.visited cell onStack
            rw [Components.lowOf_lower met, if_pos rfl, Components.indexOf_lower,
              Components.indexOf_eq found]
            exact Nat.min_le_right _ _
        · next notOpen =>
            have met : next ∈ walk.components.visits := by
              rw [Std.HashMap.mem_iff_isSome_getElem?, found]
              rfl
            rw [traced.met, List.mem_append, ← walk.components.mem_onStack] at met
            exact ⟨_, traced.pass (Or.inl (met.resolve_left notOpen))⟩

/-- What the innermost cell leads to, the cell before it leads to as well. -/
theorem passOn (traced : Traced graph root walk (layer :: outer)) :
    let components := Walk.passOn walk.components (walk.components.lowOf layer.turn.cell)
      (outer.map Layer.turn)
    Traced graph root { walk with components } (layer :: outer) ∧
      components.indexOf layer.turn.cell = walk.components.indexOf layer.turn.cell ∧
      components.lowOf layer.turn.cell = walk.components.lowOf layer.turn.cell ∧
      ∀ before ∈ outer.head?,
        components.lowOf before.turn.cell ≤ walk.components.lowOf layer.turn.cell := by
  cases outer with
  | nil => exact ⟨traced, rfl, rfl, by simp⟩
  | cons before outer =>
      obtain ⟨target, onStack, number, reaches⟩ := traced.leads layer List.mem_cons_self
      have beforeMem : before ∈ layer :: before :: outer := by simp
      have met := traced.mem_visits beforeMem before.cell_mem
      have linked := traced.linked
      rw [List.map_cons, List.map_cons, List.isChain_cons_cons] at linked
      have lowered := traced.lower beforeMem onStack (ReflTransGen.head linked.1 reaches)
      rw [number] at lowered
      refine ⟨lowered, Components.indexOf_lower _ _, ?_, ?_⟩
      · apply (Components.lowOf_lower met _ _).trans
        split
        · next same => rw [← same, Nat.min_self]
        · rfl
      · intro first isFirst
        obtain rfl : before = first := Option.some.inj isFirst
        apply (Components.lowOf_lower met _ _).le.trans
        rw [if_pos rfl]
        exact Nat.min_le_right _ _

/-- The first cell of the stack leads to no open cell met before it. -/
theorem lowOf_outermost (traced : Traced graph root walk [layer]) :
    walk.components.lowOf layer.turn.cell = walk.components.indexOf layer.turn.cell := by
  obtain ⟨target, onStack, number, -⟩ := traced.leads layer List.mem_cons_self
  have inside : target ∈ layer.cells := by
    rw [traced.stack] at onStack
    simpa using onStack
  rw [traced.mem_cells_iff onStack, number] at inside
  exact Nat.le_antisymm (traced.lowest layer List.mem_cons_self) inside

/-- When all has been tried from a cell its layer becomes a part of the next one, or it is
taken off the stack. -/
theorem leave (traced : Traced graph root walk (layer :: outer))
    (done : layer.turn.untried = []) :
    ∃ layers, Traced graph root
      (Walk.leave { walk with path := outer.map Layer.turn } layer.turn.cell) layers := by
  have met := traced.mem_visits List.mem_cons_self layer.cell_mem
  have found := Std.HashMap.getElem?_eq_some_getElem met
  obtain ⟨told, index, low, before⟩ := traced.passOn
  unfold Walk.leave
  dsimp only
  rw [found]
  dsimp only
  rw [← Components.indexOf_eq found, ← Components.lowOf_eq found]
  split
  · next same =>
      obtain ⟨component, left, taken, closed⟩ := told.close done (by rw [low, index, same])
      rw [taken]
      exact ⟨outer, closed⟩
  · next apart =>
      cases outer with
      | nil => exact absurd traced.lowOf_outermost apart
      | cons next outer =>
          have smaller := Nat.lt_of_le_of_ne (traced.lowest layer List.mem_cons_self) apart
          exact ⟨_, told.merge done ((low.trans_lt smaller).trans_eq index.symm)
            ((before next rfl).trans low.ge)⟩

/-- A step keeps the state of a walk, with other layers. -/
theorem step (traced : Traced graph root walk layers) :
    ∃ layers, Traced graph root walk.step layers := by
  have path := traced.path
  unfold Walk.step
  rw [path]
  rcases layers with _ | ⟨⟨⟨cell, _ | ⟨next, untried⟩, feeds⟩, above, joined⟩, outer⟩
  · exact ⟨[], traced⟩
  · exact traced.leave rfl
  · exact traced.attempt

/-- A walk that goes on to its end keeps its state, and nothing is left on the path. -/
theorem run (traced : Traced graph root walk layers) : Traced graph root walk.run [] := by
  induction walk using Walk.run.induct generalizing layers with
  | case1 walk ended =>
      rw [Walk.run, dif_pos ended]
      have nothing : layers = [] := by
        rw [List.isEmpty_iff, traced.path] at ended
        exact List.map_eq_nil_iff.1 ended
      rw [nothing] at traced
      exact traced
  | case2 walk onward ih =>
      rw [Walk.run, dif_neg onward]
      obtain ⟨after, kept⟩ := traced.step
      exact ih kept

end Traced

end Worksheet.Cascade
