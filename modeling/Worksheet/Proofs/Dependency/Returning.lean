import Mathlib.Data.List.Chain
import Mathlib.Data.List.Nodup
import Mathlib.Data.Set.Finite.Basic
import Mathlib.Logic.Relation
import Worksheet.Dependency.Cycle

/-!
# Paths that lead back to their start

The search for a cycle through a cell can be told without the list of cells that bounds it.  It
walks along precedents and remembers the cells that it has looked into.  Such a walk is given
here step by step, so that it may go on forever, and it comes to an end if only finitely many
cells can be reached.

A cell that the walk has looked into and left again is done with: each of its precedents has
been looked into as well, and none of them is the start.  When nothing is left to try, this holds
of all cells that can be reached, so the start cannot be reached from itself.
-/

namespace Worksheet.Cycle

open Relation

/-- One cell has another one among its precedents. -/
def Names (precedents : Address → List Address) (cell next : Address) : Prop :=
  next ∈ precedents cell

instance (precedents : Address → List Address) (cell next : Address) :
    Decidable (Names precedents cell next) :=
  inferInstanceAs (Decidable (next ∈ precedents cell))

/-- The cells that can be reached from the start and have precedents are in a list. -/
def Covers (start : Address) (precedents : Address → List Address)
    (support : List Address) : Prop :=
  ∀ cell, ReflTransGen (Names precedents) start cell → precedents cell ≠ [] → cell ∈ support

/-- A path along precedents from the start through other cells, none of them met twice, back to
the start. -/
def Returns (precedents : Address → List Address) (start : Address)
    (path : List Address) : Prop :=
  ∃ inner, path = start :: (inner ++ [start]) ∧ List.IsChain (Names precedents) path ∧
    inner.Nodup ∧ start ∉ inner

/-! ## Walking along precedents -/

/-- Where a walk stands: the cells that it has looked into, and the path from the start to the
cell where it is, both with the latest first.  To each cell of the path belong the precedents
that are still to be tried. -/
structure Walk where
  looked : List Address
  path : List (Address × List Address)

/-- What one step of a walk brings: it goes on, or it is over with an answer. -/
inductive Move where
  | onward (walk : Walk)
  | answered (answer : Option (List Address))

namespace Walk

/-- A walk that has looked into its start only. -/
def begun (start : Address) (precedents : Address → List Address) : Walk :=
  ⟨[start], [(start, precedents start)]⟩

/-- One step of a walk.  The precedents of a cell are asked for when the walk looks into it. -/
def move (start : Address) (precedents : Address → List Address) : Walk → Move
  | ⟨_, []⟩ => .answered none
  | ⟨looked, (_, []) :: path⟩ => .onward ⟨looked, path⟩
  | ⟨looked, (cell, next :: pending) :: path⟩ =>
      if next = start then .answered (some ((start :: cell :: path.map Prod.fst).reverse))
      else if next ∈ looked then .onward ⟨looked, (cell, pending) :: path⟩
      else .onward ⟨next :: looked, (next, precedents next) :: (cell, pending) :: path⟩

section

variable (start : Address) (precedents : Address → List Address)

/-- One step leads from a walk to another one. -/
def Onward (walk after : Walk) : Prop :=
  walk.move start precedents = .onward after

/-- A walk goes on to a last one, where it is over with an answer. -/
structure Ends (walk last : Walk) (answer : Option (List Address)) : Prop where
  steps : ReflTransGen (Onward start precedents) walk last
  answered : last.move start precedents = .answered answer

/-- What holds of a walk from its start at all times. -/
structure Tidy (walk : Walk) : Prop where
  begins : start ∈ walk.looked
  reached : ∀ cell ∈ walk.looked, ReflTransGen (Names precedents) start cell
  distinct : walk.looked.Nodup
  onPath : ∀ cell ∈ walk.path.map Prod.fst, cell ∈ walk.looked
  simple : (walk.path.map Prod.fst).Nodup
  chain : List.IsChain (fun inner outer => Names precedents outer inner) (walk.path.map Prod.fst)
  outermost : ∀ cell, (walk.path.map Prod.fst).getLast? = some cell → cell = start
  pending : ∀ entry ∈ walk.path, ∀ next ∈ entry.2, Names precedents entry.1 next
  /-- A precedent that has been tried is not the start and has been looked into. -/
  tried : ∀ cell ∈ walk.looked, ∀ next, Names precedents cell next →
    (next ≠ start ∧ next ∈ walk.looked) ∨
      ∃ pending, (cell, pending) ∈ walk.path ∧ next ∈ pending

end

variable {start : Address} {precedents : Address → List Address}

theorem Ends.cons {walk after last : Walk} {answer : Option (List Address)}
    (step : Onward start precedents walk after) (ends : Ends start precedents after last answer) :
    Ends start precedents walk last answer :=
  ⟨.head step ends.steps, ends.answered⟩

/-- A walk has only one end. -/
theorem Ends.unique {walk last last' : Walk} {answer answer' : Option (List Address)}
    (first : Ends start precedents walk last answer)
    (second : Ends start precedents walk last' answer') : answer = answer' := by
  obtain ⟨steps, answered⟩ := first
  induction steps using ReflTransGen.head_induction_on with
  | refl =>
      rcases second.steps.cases_head with rfl | ⟨after, step, _⟩
      · exact Move.answered.inj (answered.symm.trans second.answered)
      · cases answered.symm.trans step
  | head step _ ih =>
      apply ih
      rcases second.steps.cases_head with rfl | ⟨after, step', later⟩
      · cases step.symm.trans second.answered
      · cases step.symm.trans step'
        exact ⟨later, second.answered⟩

theorem onward_leave (looked : List Address) (cell : Address)
    (path : List (Address × List Address)) :
    Onward start precedents ⟨looked, (cell, []) :: path⟩ ⟨looked, path⟩ :=
  rfl

/-- A precedent that is to be tried is the start, has been looked into, or is new. -/
theorem move_next (looked : List Address) (cell next : Address) (pending : List Address)
    (path : List (Address × List Address)) :
    move start precedents ⟨looked, (cell, next :: pending) :: path⟩ =
      if next = start then .answered (some ((start :: cell :: path.map Prod.fst).reverse))
      else if next ∈ looked then .onward ⟨looked, (cell, pending) :: path⟩
      else .onward ⟨next :: looked, (next, precedents next) :: (cell, pending) :: path⟩ :=
  rfl

/-! ## What a step preserves -/

theorem tidy_begun : Tidy start precedents (begun start precedents) where
  begins := List.mem_cons_self
  reached cell member := by
    rw [List.mem_singleton.1 member]
  distinct := List.nodup_singleton start
  onPath cell member := member
  simple := List.nodup_singleton start
  chain := List.isChain_singleton start
  outermost cell last := (Option.some.inj last).symm
  pending entry member next inside := by
    rw [List.mem_singleton.1 member] at inside ⊢
    exact inside
  tried cell member next names := by
    rw [List.mem_singleton.1 member] at names ⊢
    exact .inr ⟨precedents start, List.mem_cons_self, names⟩

variable {looked : List Address} {cell next : Address} {pending : List Address}
  {path : List (Address × List Address)}

/-- The walk leaves a cell when all of its precedents have been tried. -/
theorem Tidy.leave (tidy : Tidy start precedents ⟨looked, (cell, []) :: path⟩) :
    Tidy start precedents ⟨looked, path⟩ := by
  constructor
  case begins => exact tidy.begins
  case reached => exact tidy.reached
  case distinct => exact tidy.distinct
  case onPath => exact fun other member => tidy.onPath other (List.mem_cons_of_mem _ member)
  case simple => exact (List.nodup_cons.1 tidy.simple).2
  case chain => exact tidy.chain.tail
  case outermost =>
    intro other last
    apply tidy.outermost
    rw [List.map_cons, List.getLast?_cons, last]
    rfl
  case pending => exact fun entry member => tidy.pending entry (List.mem_cons_of_mem _ member)
  case tried =>
    intro other member next names
    rcases tidy.tried other member next names with done | ⟨left, among, inside⟩
    · exact .inl done
    · rcases List.mem_cons.1 among with same | deeper
      · cases same
        exact absurd inside List.not_mem_nil
      · exact .inr ⟨left, deeper, inside⟩

/-- When a precedent has been tried, the others of its cell are left. -/
theorem tried_of_next (tidy : Tidy start precedents ⟨looked, (cell, next :: pending) :: path⟩)
    {now : List Address} (sub : ∀ other ∈ looked, other ∈ now) (apart : next ≠ start)
    (done : next ∈ now) : ∀ other ∈ looked, ∀ further, Names precedents other further →
      (further ≠ start ∧ further ∈ now) ∨
        ∃ left, (other, left) ∈ (cell, pending) :: path ∧ further ∈ left := by
  intro other member further names
  rcases tidy.tried other member further names with ⟨differs, inside⟩ | ⟨left, among, inside⟩
  · exact .inl ⟨differs, sub further inside⟩
  · rcases List.mem_cons.1 among with same | deeper
    · cases same
      rcases List.mem_cons.1 inside with rfl | later
      · exact .inl ⟨apart, done⟩
      · exact .inr ⟨pending, List.mem_cons_self, later⟩
    · exact .inr ⟨left, List.mem_cons_of_mem _ deeper, inside⟩

/-- The walk passes over a precedent that has been looked into. -/
theorem Tidy.pass (tidy : Tidy start precedents ⟨looked, (cell, next :: pending) :: path⟩)
    (apart : next ≠ start) (seen : next ∈ looked) :
    Tidy start precedents ⟨looked, (cell, pending) :: path⟩ := by
  constructor
  case begins => exact tidy.begins
  case reached => exact tidy.reached
  case distinct => exact tidy.distinct
  case onPath => exact tidy.onPath
  case simple => exact tidy.simple
  case chain => exact tidy.chain
  case outermost => exact tidy.outermost
  case pending =>
    intro entry member further inside
    rcases List.mem_cons.1 member with rfl | deeper
    · exact tidy.pending _ List.mem_cons_self further (List.mem_cons_of_mem next inside)
    · exact tidy.pending entry (List.mem_cons_of_mem _ deeper) further inside
  case tried => exact tried_of_next tidy (fun _ member => member) apart seen

/-- The walk looks into a precedent that is new. -/
theorem Tidy.enter (tidy : Tidy start precedents ⟨looked, (cell, next :: pending) :: path⟩)
    (apart : next ≠ start) (new : next ∉ looked) :
    Tidy start precedents
      ⟨next :: looked, (next, precedents next) :: (cell, pending) :: path⟩ := by
  have names : Names precedents cell next :=
    tidy.pending _ List.mem_cons_self next List.mem_cons_self
  have present : cell ∈ looked := tidy.onPath cell List.mem_cons_self
  constructor
  case begins => exact List.mem_cons_of_mem next tidy.begins
  case reached =>
    intro other member
    rcases List.mem_cons.1 member with rfl | earlier
    · exact (tidy.reached cell present).tail names
    · exact tidy.reached other earlier
  case distinct => exact List.nodup_cons.2 ⟨new, tidy.distinct⟩
  case onPath =>
    intro other member
    rcases List.mem_cons.1 member with rfl | deeper
    · exact List.mem_cons_self
    · exact List.mem_cons_of_mem next (tidy.onPath other deeper)
  case simple => exact List.nodup_cons.2 ⟨fun inside => new (tidy.onPath next inside), tidy.simple⟩
  case chain => exact List.isChain_cons_cons.2 ⟨names, tidy.chain⟩
  case outermost =>
    intro other last
    apply tidy.outermost
    rw [List.map_cons, List.map_cons, List.getLast?_cons_cons] at last
    exact last
  case pending =>
    intro entry member further inside
    rcases List.mem_cons.1 member with rfl | outer
    · exact inside
    · rcases List.mem_cons.1 outer with rfl | deeper
      · exact tidy.pending _ List.mem_cons_self further (List.mem_cons_of_mem next inside)
      · exact tidy.pending entry (List.mem_cons_of_mem _ deeper) further inside
  case tried =>
    intro other member further inside
    rcases List.mem_cons.1 member with rfl | earlier
    · exact .inr ⟨precedents other, List.mem_cons_self, inside⟩
    · have others := tried_of_next tidy (fun _ member => List.mem_cons_of_mem next member) apart
        List.mem_cons_self other earlier further inside
      exact others.imp_right fun ⟨left, among, later⟩ =>
        ⟨left, List.mem_cons_of_mem _ among, later⟩

theorem Tidy.onward {walk after : Walk} (tidy : Tidy start precedents walk)
    (step : Onward start precedents walk after) : Tidy start precedents after := by
  rcases walk with ⟨looked, _ | ⟨⟨cell, _ | ⟨next, pending⟩⟩, path⟩⟩
  · cases step
  · cases step
    exact tidy.leave
  · rw [Onward, move_next] at step
    split at step
    · cases step
    · next apart =>
        split at step
        · next seen =>
            cases step
            exact tidy.pass apart seen
        · next new =>
            cases step
            exact tidy.enter apart new

theorem Tidy.steps {walk last : Walk} (tidy : Tidy start precedents walk)
    (steps : ReflTransGen (Onward start precedents) walk last) : Tidy start precedents last := by
  induction steps with
  | refl => exact tidy
  | tail _ step ih => exact ih.onward step

/-! ## Answers -/

/-- A walk that is over without a path has looked into everything that can be reached, and the
start is not among the precedents. -/
theorem Tidy.not_transGen {last : Walk} (tidy : Tidy start precedents last)
    (answered : last.move start precedents = .answered none) :
    ¬ TransGen (Names precedents) start start := by
  obtain ⟨looked, path⟩ := last
  obtain rfl : path = [] := by
    rcases path with _ | ⟨⟨cell, _ | ⟨next, pending⟩⟩, path⟩
    · rfl
    · cases answered
    · rw [move_next] at answered
      split at answered
      · cases answered
      · split at answered <;> cases answered
  have closed : ∀ cell ∈ looked, ∀ next, Names precedents cell next →
      next ≠ start ∧ next ∈ looked := by
    intro cell member next names
    rcases tidy.tried cell member next names with done | ⟨_, among, _⟩
    · exact done
    · exact absurd among List.not_mem_nil
  have behind : ∀ cell, TransGen (Names precedents) start cell → cell ≠ start ∧ cell ∈ looked := by
    intro cell leads
    induction leads with
    | single names => exact closed start tidy.begins _ names
    | tail _ names ih => exact closed _ ih.2 _ names
  intro circular
  exact (behind start circular).1 rfl

/-- A path that a walk is over with leads back to the start. -/
theorem Tidy.returns {last : Walk} {answer : List Address} (tidy : Tidy start precedents last)
    (answered : last.move start precedents = .answered (some answer)) :
    Returns precedents start answer := by
  rcases last with ⟨looked, _ | ⟨⟨cell, _ | ⟨next, pending⟩⟩, path⟩⟩
  · cases answered
  · cases answered
  · rw [move_next] at answered
    split at answered
    · next back =>
        subst back
        cases answered
        have names : Names precedents cell next :=
          tidy.pending _ List.mem_cons_self next List.mem_cons_self
        have simple : (cell :: path.map Prod.fst).Nodup := tidy.simple
        have chain : List.IsChain (fun inner outer => Names precedents outer inner)
            (next :: cell :: path.map Prod.fst) := List.isChain_cons_cons.2 ⟨names, tidy.chain⟩
        -- The outermost cell of the path is the start.
        obtain ⟨inner, found⟩ : ∃ inner, cell :: path.map Prod.fst = inner ++ [next] := by
          have last := List.dropLast_append_getLast (List.cons_ne_nil cell (path.map Prod.fst))
          have outermost := tidy.outermost _ (List.getLast?_eq_some_getLast (List.cons_ne_nil _ _))
          exact ⟨_, (outermost ▸ last).symm⟩
        rw [found] at simple chain ⊢
        refine ⟨inner.reverse, ?_, ?_, ?_, ?_⟩
        · simp
        · rw [List.isChain_reverse]
          exact chain
        · exact List.nodup_reverse.2 simple.of_append_left
        · rw [List.mem_reverse]
          intro inside
          exact (List.nodup_append.1 simple).2.2 next inside next List.mem_cons_self rfl
    · split at answered <;> cases answered

/-- There is a path exactly if the start can be reached from itself. -/
theorem Tidy.isSome_iff {last : Walk} {answer : Option (List Address)}
    (tidy : Tidy start precedents last) (answered : last.move start precedents = .answered answer) :
    answer.isSome = true ↔ TransGen (Names precedents) start start := by
  cases answer with
  | none => exact iff_of_false Bool.false_ne_true (tidy.not_transGen answered)
  | some path =>
      refine iff_of_true rfl ?_
      obtain ⟨inner, rfl, chain, -, -⟩ := tidy.returns answered
      cases inner with
      | nil => exact .single (List.isChain_cons_cons.1 chain).1
      | cons first inner =>
          have steps := List.isChain_cons_cons.1 chain
          refine .head' steps.1 ?_
          exact List.relationReflTransGen_of_exists_isChain_cons _ steps.2 (by simp)

end Walk

/-! ## Searching -/

section

variable {start : Address} {precedents : Address → List Address}

open Walk

/-- The cells that a search may still enter are new, and the others that are new have no
precedents. -/
structure Bounds (start : Address) (precedents : Address → List Address)
    (unvisited : Std.HashSet Address) (looked : List Address) : Prop where
  fresh : ∀ cell ∈ unvisited, cell ∉ looked
  covered : ∀ cell, ReflTransGen (Names precedents) start cell → cell ∉ looked →
    cell ∉ unvisited → precedents cell = []

variable {unvisited : Std.HashSet Address} {looked : List Address}

theorem Bounds.enter (bounds : Bounds start precedents unvisited looked) (next : Address) :
    Bounds start precedents (unvisited.erase next) (next :: looked) := by
  constructor
  case fresh =>
    intro cell inside
    rw [Std.HashSet.mem_erase] at inside
    rw [List.mem_cons, not_or]
    exact ⟨fun same => by simp [same] at inside, bounds.fresh cell inside.2⟩
  case covered =>
    intro cell leads new outside
    rw [List.mem_cons, not_or] at new
    apply bounds.covered cell leads new.2
    intro inside
    exact outside (Std.HashSet.mem_erase.2 ⟨by simpa using Ne.symm new.1, inside⟩)

theorem Bounds.look (bounds : Bounds start precedents unvisited looked) {next : Address}
    (outside : next ∉ unvisited) : Bounds start precedents unvisited (next :: looked) := by
  constructor
  case fresh =>
    intro cell inside
    rw [List.mem_cons, not_or]
    exact ⟨fun same => outside (same ▸ inside), bounds.fresh cell inside⟩
  case covered =>
    intro cell leads new
    exact bounds.covered cell leads fun seen => new (List.mem_cons_of_mem next seen)

/-- A search walks to an end, and the answer is the one that it gives. -/
theorem exists_ends_search {unvisited : Std.HashSet Address}
    {path : List (Address × List Address)} {looked : List Address}
    (tidy : Tidy start precedents ⟨looked, path⟩)
    (bounds : Bounds start precedents unvisited looked) :
    ∃ last, Ends start precedents ⟨looked, path⟩ last
      (search start precedents unvisited path) := by
  induction unvisited, path using search.induct start precedents generalizing looked with
  | case1 unvisited =>
      rw [search]
      exact ⟨_, .refl, rfl⟩
  | case2 unvisited cell path ih =>
      rw [search]
      obtain ⟨last, ends⟩ := ih tidy.leave bounds
      exact ⟨last, ends.cons rfl⟩
  | case3 unvisited cell path pending =>
      rw [search, if_pos rfl]
      refine ⟨_, .refl, ?_⟩
      rw [move_next, if_pos rfl]
  | case4 unvisited cell next pending path apart inside ih =>
      have new := bounds.fresh next inside
      rw [search, if_neg apart, if_pos inside]
      obtain ⟨last, ends⟩ := ih (tidy.enter apart new) (bounds.enter next)
      refine ⟨last, ends.cons ?_⟩
      rw [Onward, move_next, if_neg apart, if_neg new]
  | case5 unvisited cell next pending path apart outside ih =>
      rw [search, if_neg apart, if_neg outside]
      by_cases seen : next ∈ looked
      · obtain ⟨last, ends⟩ := ih (tidy.pass apart seen) bounds
        refine ⟨last, ends.cons ?_⟩
        rw [Onward, move_next, if_neg apart, if_pos seen]
      · -- The walk looks into this cell and leaves it at once.
        have entered := tidy.enter apart seen
        have nothing := bounds.covered next (entered.reached next List.mem_cons_self) seen outside
        rw [nothing] at entered
        obtain ⟨last, ends⟩ := ih entered.leave (bounds.look outside)
        refine ⟨last, Ends.cons ?_ (ends.cons (onward_leave _ next _))⟩
        rw [Onward, move_next, if_neg apart, if_neg seen, nothing]

/-- The cells that a search through a cell may enter are those of its list. -/
theorem bounds_begun {support : List Address} (covers : Covers start precedents support) :
    Bounds start precedents ((Std.HashSet.ofList support).erase start) [start] := by
  constructor
  case fresh =>
    intro cell inside
    rw [Std.HashSet.mem_erase] at inside
    rw [List.mem_singleton]
    exact fun same => by simp [same] at inside
  case covered =>
    intro cell leads new outside
    by_contra some
    apply outside
    rw [List.mem_singleton] at new
    rw [Std.HashSet.mem_erase, Std.HashSet.mem_ofList, List.contains_iff_mem]
    exact ⟨by simpa using Ne.symm new, covers cell leads some⟩

/-- If the start can be reached from itself, a path back to it is found. -/
theorem exists_returns {support : List Address} (covers : Covers start precedents support)
    (around : TransGen (Names precedents) start start) :
    ∃ path, through start precedents support = some path ∧ Returns precedents start path := by
  obtain ⟨last, ends⟩ := exists_ends_search Walk.tidy_begun (bounds_begun covers)
  have tidy := Walk.tidy_begun.steps ends.steps
  obtain ⟨path, found⟩ := Option.isSome_iff_exists.1 ((tidy.isSome_iff ends.answered).2 around)
  have answered := ends.answered
  rw [found] at answered
  exact ⟨path, found, tidy.returns answered⟩

/-- A finite number of cells can be listed. -/
theorem exists_covers
    (finite : {cell | ReflTransGen (Names precedents) start cell}.Finite) :
    ∃ support, Covers start precedents support := by
  refine ⟨finite.toFinset.toList, ?_⟩
  intro cell leads _
  rw [Finset.mem_toList, Set.Finite.mem_toFinset]
  exact leads

end

/-- If only finitely many cells can be reached from the start, the walk along precedents comes to
an end.  It has looked into cells that can be reached and into none of them twice, and the search
with any list of the cells in question gives its answer.  The answer is a path exactly if the
start can be reached from itself, and a path leads from the start through other cells, each
different, back to the start. -/
theorem through_of_finite {start : Address} {precedents : Address → List Address}
    (finite : {cell | ReflTransGen (Names precedents) start cell}.Finite) :
    ∃ last answer,
      Walk.Ends start precedents (Walk.begun start precedents) last answer ∧
      last.looked.Nodup ∧
      (∀ cell ∈ last.looked, ReflTransGen (Names precedents) start cell) ∧
      (∃ support, Covers start precedents support) ∧
      (∀ support, Covers start precedents support →
        through start precedents support = answer) ∧
      (answer.isSome = true ↔ TransGen (Names precedents) start start) ∧
      ∀ path, answer = some path → Returns precedents start path := by
  obtain ⟨support, covers⟩ := exists_covers finite
  obtain ⟨last, ends⟩ := exists_ends_search Walk.tidy_begun (bounds_begun covers)
  have tidy := Walk.tidy_begun.steps ends.steps
  refine ⟨last, _, ends, tidy.distinct, tidy.reached, ⟨support, covers⟩, ?_,
    tidy.isSome_iff ends.answered, ?_⟩
  · intro other otherCovers
    obtain ⟨last', ends'⟩ := exists_ends_search Walk.tidy_begun (bounds_begun otherCovers)
    exact ends'.unique ends
  · intro path found
    have answered := ends.answered
    rw [found] at answered
    exact tidy.returns answered

/-- `A1` names `B1` twice and then `A2`, which names `A1`, and `B1` names only itself. -/
def loopBesideCycle (cell : Address) : List Address :=
  if cell = ⟨0, 0⟩ then [⟨0, 1⟩, ⟨0, 1⟩, ⟨1, 0⟩]
  else if cell = ⟨0, 1⟩ then [⟨0, 1⟩]
  else if cell = ⟨1, 0⟩ then [⟨0, 0⟩] else []

/-- A cycle that is found behind a loop is an example. -/
theorem through_of_loop_beside_cycle :
    {cell | ReflTransGen (Names loopBesideCycle) ⟨0, 0⟩ cell}.Finite ∧
      ∃ path, through ⟨0, 0⟩ loopBesideCycle [⟨0, 0⟩, ⟨0, 1⟩, ⟨1, 0⟩] = some path ∧
        Returns loopBesideCycle ⟨0, 0⟩ path := by
  have closed : ∀ cell ∈ [⟨0, 0⟩, ⟨0, 1⟩, ⟨1, 0⟩], ∀ next ∈ loopBesideCycle cell,
      next ∈ ([⟨0, 0⟩, ⟨0, 1⟩, ⟨1, 0⟩] : List Address) := by decide
  have listed : ∀ cell, ReflTransGen (Names loopBesideCycle) ⟨0, 0⟩ cell →
      cell ∈ ([⟨0, 0⟩, ⟨0, 1⟩, ⟨1, 0⟩] : List Address) := by
    intro cell leads
    induction leads with
    | refl => exact List.mem_cons_self
    | tail _ names ih => exact closed _ ih _ names
  have finite : {cell | ReflTransGen (Names loopBesideCycle) ⟨0, 0⟩ cell}.Finite :=
    (List.finite_toSet _).subset listed
  obtain ⟨last, answer, -, -, -, -, answers, found, returns⟩ := through_of_finite finite
  have there : Names loopBesideCycle ⟨0, 0⟩ ⟨1, 0⟩ := by decide
  have back : Names loopBesideCycle ⟨1, 0⟩ ⟨0, 0⟩ := by decide
  obtain ⟨path, some⟩ := Option.isSome_iff_exists.1 (found.2 (.tail (.single there) back))
  refine ⟨finite, path, ?_, returns path some⟩
  rw [answers _ fun cell leads _ => listed cell leads, some]

end Worksheet.Cycle
