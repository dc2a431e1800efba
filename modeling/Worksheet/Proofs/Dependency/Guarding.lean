import Mathlib.Algebra.Ring.Nat
import Mathlib.Data.List.Nodup
import Worksheet.Dependency.Guard

/-!
# Scopes that share a guard

Any number of scopes can be alive at once, and all of them put their cells into one
guard.  They are started, extended and dropped by calls in any order, and each call
keeps that the guard lists the cells of all scopes that are alive, where no cell is in
two of them or twice in one.

The main statement draws the conclusions.  A cell can enter, or be added to a scope,
exactly if no scope holds it.  A dropped scope takes its own cells out of the guard and
no cell of another scope.  The guard is as large as the scopes are together, and it is
empty exactly if no scope is alive.
-/

namespace Worksheet

namespace Guard

/-- The cells in the guard are the listed ones, each listed once. -/
structure Lists (guard : Guard) (cells : List Address) : Prop where
  nodup : cells.Nodup
  isEvaluating_iff : ∀ cell, guard.isEvaluating cell = true ↔ cell ∈ cells

variable {guard : Guard} {cells others : List Address}

theorem lists_empty : empty.Lists [] :=
  ⟨List.nodup_nil, fun cell => by simp⟩

theorem Lists.perm (lists : guard.Lists cells) (same : cells.Perm others) :
    guard.Lists others :=
  ⟨same.nodup lists.nodup, fun cell => (lists.isEvaluating_iff cell).trans same.mem_iff⟩

/-- A cell from outside comes in addition. -/
theorem Lists.hold (lists : guard.Lists cells) {cell : Address}
    (outside : guard.isEvaluating cell = false) : (guard.hold cell).Lists (cell :: cells) := by
  have absent : cell ∉ cells := by
    rw [← lists.isEvaluating_iff, outside]
    exact Bool.false_ne_true
  constructor
  · exact List.nodup_cons.2 ⟨absent, lists.nodup⟩
  · intro other
    rw [isEvaluating_hold, Bool.or_eq_true, beq_iff_eq, lists.isEvaluating_iff, List.mem_cons,
      eq_comm]

/-- Once a scope is released, the cells that are not in it are left.  They stay because
none of them is in the scope too. -/
theorem Lists.release {scope : GuardScope} (lists : guard.Lists (scope.cells.toList ++ others)) :
    (guard.release scope).Lists others := by
  have distinct := List.nodup_append.1 lists.nodup
  constructor
  · exact distinct.2.1
  · intro cell
    rw [isEvaluating_release, Bool.and_eq_true, Bool.not_eq_true', lists.isEvaluating_iff,
      List.mem_append, ← Bool.not_eq_true, List.contains_iff_mem]
    constructor
    · rintro ⟨free, own | other⟩
      · exact absurd own free
      · exact other
    · intro other
      exact ⟨fun own => distinct.2.2 cell own cell other rfl, Or.inr other⟩

theorem Lists.size_eq (lists : guard.Lists cells) : guard.size = cells.length := by
  have distinct : guard.active.toList.Nodup :=
    Std.HashSet.distinct_toList.imp fun apart => ne_of_beq_false apart
  have same : guard.active.toList.Perm cells := by
    rw [List.perm_ext_iff_of_nodup distinct lists.nodup]
    intro cell
    rw [Std.HashSet.mem_toList, ← lists.isEvaluating_iff]
    exact Std.HashSet.mem_iff_contains
  rw [size, ← Std.HashSet.length_toList, same.length_eq]

theorem Lists.isEmpty_iff (lists : guard.Lists cells) : guard.isEmpty = true ↔ cells = [] := by
  have whole : guard.isEmpty = true ↔ guard.size = 0 := by
    rw [isEmpty, size, Std.HashSet.isEmpty_eq_size_eq_zero, beq_iff_eq]
  rw [whole, lists.size_eq, List.length_eq_zero_iff]

end Guard

namespace GuardedScopes

variable {scopes : GuardedScopes} {name : String} {scope : GuardScope} {cell : Address}

/-! ## Scopes by name -/

/-- The cells of some scopes, one scope after the other. -/
def cellsOf (entries : List (String × GuardScope)) : List Address :=
  entries.flatMap fun entry => entry.2.cells.toList

/-- The scopes that are alive, apart from the one with a name. -/
def others (scopes : GuardedScopes) (name : String) : List (String × GuardScope) :=
  scopes.alive.filter fun entry => entry.1 != name

/-- Each name is that of one scope, each scope has a cell, and the guard lists the cells
of the scopes. -/
structure Sound (scopes : GuardedScopes) : Prop where
  names : (scopes.alive.map Prod.fst).Nodup
  inhabited : ∀ entry ∈ scopes.alive, entry.2.cells.toList ≠ []
  lists : scopes.guard.Lists (cellsOf scopes.alive)

theorem name_ne_of_mem_others {entry : String × GuardScope} (member : entry ∈ scopes.others name) :
    entry.1 ≠ name :=
  bne_iff_ne.1 (List.mem_filter.1 member).2

theorem name_notMem_others (scopes : GuardedScopes) (name : String) :
    name ∉ (scopes.others name).map Prod.fst := by
  intro member
  rcases List.mem_map.1 member with ⟨entry, kept, same⟩
  exact name_ne_of_mem_others kept same

theorem others_of_absent (absent : scopes.find? name = none) :
    scopes.others name = scopes.alive := by
  rw [find?, Option.map_eq_none_iff, List.find?_eq_none] at absent
  rw [others, List.filter_eq_self]
  intro entry member
  simpa using absent entry member

/-- A scope that is found by its name stands between scopes with other names. -/
theorem exists_split (names : (scopes.alive.map Prod.fst).Nodup)
    (found : scopes.find? name = some scope) :
    ∃ before after, scopes.alive = before ++ (name, scope) :: after ∧
      ∀ entry ∈ before ++ after, entry.1 ≠ name := by
  rcases Option.map_eq_some_iff.1 found with ⟨⟨key, own⟩, located, rfl⟩
  rcases List.find?_eq_some_iff_append.1 located with ⟨named, before, after, split, first⟩
  rcases eq_of_beq named with rfl
  refine ⟨before, after, split, ?_⟩
  rw [split, List.map_append, List.map_cons, List.nodup_middle, List.nodup_cons,
    ← List.map_append] at names
  intro entry member same
  exact names.1 (List.mem_map.2 ⟨entry, member, same⟩)

theorem others_of_split {before after : List (String × GuardScope)}
    (split : scopes.alive = before ++ (name, scope) :: after)
    (apart : ∀ entry ∈ before ++ after, entry.1 ≠ name) : scopes.others name = before ++ after := by
  have kept : (before ++ after).filter (fun entry => entry.1 != name) = before ++ after := by
    rw [List.filter_eq_self]
    intro entry member
    exact bne_iff_ne.2 (apart entry member)
  rw [List.filter_append] at kept
  rw [others, split, List.filter_append, List.filter_cons_of_neg (by simp), kept]

theorem cellsOf_middle (before after : List (String × GuardScope)) (entry : String × GuardScope) :
    (cellsOf (before ++ entry :: after)).Perm
      (entry.2.cells.toList ++ cellsOf (before ++ after)) :=
  List.perm_middle.flatMap_right _

/-- The cells of a scope and those of the other scopes are the cells of all scopes. -/
theorem cellsOf_perm (names : (scopes.alive.map Prod.fst).Nodup)
    (found : scopes.find? name = some scope) :
    (cellsOf scopes.alive).Perm (scope.cells.toList ++ cellsOf (scopes.others name)) := by
  rcases exists_split names found with ⟨before, after, split, apart⟩
  rw [others_of_split split apart, split]
  exact cellsOf_middle before after (name, scope)

theorem Sound.others_names (sound : scopes.Sound) (name : String) :
    ((scopes.others name).map Prod.fst).Nodup :=
  (List.filter_sublist.map Prod.fst).nodup sound.names

/-- A cell is in the guard exactly if a scope that is alive holds it. -/
theorem Sound.isEvaluating_iff (sound : scopes.Sound) (cell : Address) :
    scopes.guard.isEvaluating cell = true ↔ ∃ entry ∈ scopes.alive, cell ∈ entry.2.cells := by
  rw [sound.lists.isEvaluating_iff, cellsOf, List.mem_flatMap]
  simp only [Array.mem_toList_iff]

/-- No scope has a cell twice, and no two scopes have one in common. -/
theorem Sound.apart (sound : scopes.Sound) :
    (∀ entry ∈ scopes.alive, entry.2.cells.toList.Nodup) ∧
      scopes.alive.Pairwise fun entry other => ∀ cell ∈ entry.2.cells, cell ∉ other.2.cells := by
  have distinct := List.nodup_flatMap.1 sound.lists.nodup
  refine ⟨distinct.1, distinct.2.imp ?_⟩
  intro entry other disjoint cell own shared
  exact disjoint (Array.mem_toList_iff.2 own) (Array.mem_toList_iff.2 shared)

theorem Sound.size_eq (sound : scopes.Sound) :
    scopes.guard.size = (scopes.alive.map fun entry => entry.2.cells.size).sum := by
  rw [sound.lists.size_eq, cellsOf, List.length_flatMap]
  simp only [Array.length_toList]

theorem Sound.isEmpty_iff (sound : scopes.Sound) :
    scopes.guard.isEmpty = true ↔ scopes.alive = [] := by
  rw [sound.lists.isEmpty_iff, cellsOf, List.flatMap_eq_nil_iff]
  constructor
  · intro nothing
    apply List.eq_nil_iff_forall_not_mem.2
    intro entry member
    exact sound.inhabited entry member (nothing entry member)
  · intro none entry member
    rw [none] at member
    exact absurd member List.not_mem_nil

/-- No scope that is alive holds the cell. -/
def Free (scopes : GuardedScopes) (cell : Address) : Prop :=
  ∀ entry ∈ scopes.alive, cell ∉ entry.2.cells

theorem Sound.free_iff (sound : scopes.Sound) (cell : Address) :
    scopes.Free cell ↔ scopes.guard.isEvaluating cell = false := by
  rw [← Bool.not_eq_true, sound.isEvaluating_iff]
  simp only [Free, not_exists, not_and]

/-- The scope with a name is now this one, or there is none.  The other scopes are as
before. -/
structure Changes (name : String) (scope : Option GuardScope)
    (before after : GuardedScopes) : Prop where
  own : after.find? name = scope
  rest : after.others name = before.others name

/-- A scope that stands between scopes with other names is the one with its name. -/
theorem changes_of_split {after : GuardedScopes} (front back : List (String × GuardScope))
    (kept : scopes.others name = front ++ back)
    (split : after.alive = front ++ (name, scope) :: back) :
    Changes name (some scope) scopes after := by
  have apart : ∀ entry ∈ front ++ back, entry.1 ≠ name := by
    rw [← kept]
    intro entry member
    exact name_ne_of_mem_others member
  constructor
  · have first : ∀ entry ∈ front, (!entry.1 == name) = true := by
      intro entry member
      exact bne_iff_ne.2 (apart entry (List.mem_append_left back member))
    have located : after.alive.find? (fun entry => entry.1 == name) = some (name, scope) :=
      List.find?_eq_some_iff_append.2 ⟨beq_self_eq_true name, front, back, split, first⟩
    rw [find?, located]
    rfl
  · rw [others_of_split split apart, kept]

/-! ## Dropping a scope -/

theorem drop_of_absent (absent : scopes.find? name = none) :
    scopes.drop name = (false, scopes) := by
  rw [drop, absent]

theorem drop_of_found (found : scopes.find? name = some scope) :
    scopes.drop name = (true, ⟨scopes.guard.release scope, scopes.others name⟩) := by
  rw [drop, found]
  rfl

/-- Whether or not there is a scope with the name, the others are left. -/
theorem alive_drop (scopes : GuardedScopes) (name : String) :
    (scopes.drop name).2.alive = scopes.others name := by
  cases found : scopes.find? name with
  | none => rw [drop_of_absent found, others_of_absent found]
  | some scope => rw [drop_of_found found]

/-- Taking the cells of the scope with a name out of the guard leaves those of the other
scopes, and any cells that no scope lists. -/
theorem lists_drop (scopes : GuardedScopes) (name : String) (extra : List Address)
    (names : (scopes.alive.map Prod.fst).Nodup)
    (lists : scopes.guard.Lists (extra ++ cellsOf scopes.alive)) :
    (scopes.drop name).2.guard.Lists (extra ++ cellsOf (scopes.others name)) := by
  cases found : scopes.find? name with
  | none =>
      rw [drop_of_absent found, others_of_absent found]
      exact lists
  | some scope =>
      rw [drop_of_found found]
      have apart := (cellsOf_perm names found).append_left extra
      have front := List.perm_append_comm_assoc extra scope.cells.toList
        (cellsOf (scopes.others name))
      exact (lists.perm (apart.trans front)).release

theorem Sound.drop (sound : scopes.Sound) (name : String) : (scopes.drop name).2.Sound := by
  constructor
  · rw [alive_drop]
    exact sound.others_names name
  · rw [alive_drop]
    intro entry member
    exact sound.inhabited entry (List.mem_of_mem_filter member)
  · rw [alive_drop]
    exact lists_drop scopes name [] sound.names sound.lists

/-- The scope with a name is dropped.  It takes its own cells out of the guard, and those
of the other scopes stay. -/
structure Drops (scopes : GuardedScopes) (name : String) (scope : GuardScope) : Prop where
  answer : (scopes.drop name).1 = true
  changes : Changes name none scopes (scopes.drop name).2
  releases : ∀ cell, (scopes.drop name).2.guard.isEvaluating cell = true ↔
    scopes.guard.isEvaluating cell = true ∧ cell ∉ scope.cells
  keeps : ∀ entry ∈ scopes.others name, ∀ cell ∈ entry.2.cells,
    (scopes.drop name).2.guard.isEvaluating cell = true

theorem Sound.drops (sound : scopes.Sound) (found : scopes.find? name = some scope) :
    scopes.Drops name scope := by
  constructor
  · rw [drop_of_found found]
  · constructor
    · rw [find?, alive_drop, Option.map_eq_none_iff, List.find?_eq_none]
      intro entry member same
      exact name_ne_of_mem_others member (eq_of_beq same)
    · rw [others, alive_drop, others, List.filter_filter]
      simp only [Bool.and_self]
  · intro cell
    rw [drop_of_found found, Guard.isEvaluating_release, Bool.and_eq_true, Bool.not_eq_true',
      ← Bool.not_eq_true, List.contains_iff_mem, Array.mem_toList_iff, and_comm]
  · intro entry member cell own
    rw [(sound.drop name).isEvaluating_iff, alive_drop]
    exact ⟨entry, member, own⟩

/-! ## Starting a scope -/

theorem enter_of_held (held : scopes.guard.isEvaluating cell = true) :
    scopes.enter name cell = (false, scopes) := by
  rw [enter, Guard.enter?, if_pos held]

/-- Once the cell has entered, the older scope with the name is dropped. -/
theorem enter_of_free (free : scopes.guard.isEvaluating cell = false) :
    scopes.enter name cell =
      (true, ⟨(drop ⟨scopes.guard.hold cell, scopes.alive⟩ name).2.guard,
        (name, ⟨#[cell]⟩) :: scopes.others name⟩) := by
  rw [enter, Guard.enter?, if_neg (Bool.eq_false_iff.1 free)]
  dsimp only
  rw [alive_drop]
  rfl

theorem Sound.enter (sound : scopes.Sound) (name : String) (cell : Address) :
    (scopes.enter name cell).2.Sound := by
  cases entered : scopes.guard.isEvaluating cell with
  | true =>
      rw [enter_of_held entered]
      exact sound
  | false =>
      rw [enter_of_free entered]
      constructor
      · exact List.nodup_cons.2 ⟨name_notMem_others scopes name, sound.others_names name⟩
      · intro entry member
        rcases List.mem_cons.1 member with rfl | older
        · exact List.cons_ne_nil cell []
        · exact sound.inhabited entry (List.mem_of_mem_filter older)
      · have grown := sound.lists.hold entered
        exact lists_drop ⟨scopes.guard.hold cell, scopes.alive⟩ name [cell] sound.names grown

/-- A scope is started with a cell if no scope holds it, and nothing happens otherwise. -/
structure Enters (scopes : GuardedScopes) (name : String) (cell : Address) : Prop where
  free : scopes.Free cell → (scopes.enter name cell).1 = true ∧
    Changes name (some ⟨#[cell]⟩) scopes (scopes.enter name cell).2
  held : ¬ scopes.Free cell → scopes.enter name cell = (false, scopes)

theorem Sound.enters (sound : scopes.Sound) (name : String) (cell : Address) :
    scopes.Enters name cell := by
  constructor
  · intro free
    rw [enter_of_free ((sound.free_iff cell).1 free)]
    exact ⟨rfl, changes_of_split [] (scopes.others name) rfl rfl⟩
  · intro held
    rw [sound.free_iff, Bool.not_eq_false] at held
    exact enter_of_held held

/-! ## Extending a scope -/

theorem extend_of_absent (absent : scopes.find? name = none) :
    scopes.extend name cell = (none, scopes) := by
  rw [extend, absent]

theorem extend_of_held (found : scopes.find? name = some scope)
    (held : scopes.guard.isEvaluating cell = true) :
    scopes.extend name cell = (some false, scopes) := by
  rw [extend, found]
  dsimp only
  rw [Guard.extend?, if_pos held]

/-- The longer scope takes the place of the shorter one. -/
theorem extend_of_free (found : scopes.find? name = some scope)
    {before after : List (String × GuardScope)}
    (split : scopes.alive = before ++ (name, scope) :: after)
    (apart : ∀ entry ∈ before ++ after, entry.1 ≠ name)
    (free : scopes.guard.isEvaluating cell = false) :
    scopes.extend name cell =
      (some true, ⟨scopes.guard.hold cell, before ++ (name, scope.add cell) :: after⟩) := by
  have kept : ∀ entries ⊆ before ++ after, entries.map (fun entry =>
      if entry.1 == name then (name, scope.add cell) else entry) = entries := by
    intro entries within
    rw [List.map_congr_left (g := id), List.map_id]
    intro entry member
    exact if_neg fun same => apart entry (within member) (eq_of_beq same)
  rw [extend, found]
  dsimp only
  rw [Guard.extend?, if_neg (Bool.eq_false_iff.1 free)]
  dsimp only
  rw [split, List.map_append, List.map_cons, kept before (List.subset_append_left before after),
    kept after (List.subset_append_right before after), if_pos (beq_self_eq_true name)]

theorem Sound.extend (sound : scopes.Sound) (name : String) (cell : Address) :
    (scopes.extend name cell).2.Sound := by
  cases found : scopes.find? name with
  | none =>
      rw [extend_of_absent found]
      exact sound
  | some scope =>
      cases entered : scopes.guard.isEvaluating cell with
      | true =>
          rw [extend_of_held found entered]
          exact sound
      | false =>
          rcases exists_split sound.names found with ⟨before, after, split, apart⟩
          rw [extend_of_free found split apart entered]
          constructor
          · have names := sound.names
            rw [split, List.map_append, List.map_cons] at names
            rw [List.map_append, List.map_cons]
            exact names
          · intro entry member
            have inhabited := sound.inhabited entry
            rw [split] at inhabited
            rw [List.mem_append, List.mem_cons] at member inhabited
            rcases member with earlier | rfl | later
            · exact inhabited (Or.inl earlier)
            · simp [GuardScope.add]
            · exact inhabited (Or.inr (Or.inr later))
          · apply (sound.lists.hold entered).perm
            have shorter := cellsOf_middle before after (name, scope)
            have longer := cellsOf_middle before after (name, scope.add cell)
            rw [← split] at shorter
            rw [GuardScope.add, Array.toList_push, List.append_assoc] at longer
            exact ((shorter.cons cell).trans List.perm_middle.symm).trans longer.symm

/-- A cell is added to a scope if no scope holds it, and nothing happens otherwise. -/
structure Extends (scopes : GuardedScopes) (name : String) (scope : GuardScope)
    (cell : Address) : Prop where
  free : scopes.Free cell → (scopes.extend name cell).1 = some true ∧
    Changes name (some (scope.add cell)) scopes (scopes.extend name cell).2
  held : ¬ scopes.Free cell → scopes.extend name cell = (some false, scopes)

theorem Sound.extends (sound : scopes.Sound) (found : scopes.find? name = some scope)
    (cell : Address) : scopes.Extends name scope cell := by
  constructor
  · intro free
    rcases exists_split sound.names found with ⟨before, after, split, apart⟩
    rw [extend_of_free found split apart ((sound.free_iff cell).1 free)]
    exact ⟨rfl, changes_of_split before after (others_of_split split apart) rfl⟩
  · intro held
    rw [sound.free_iff, Bool.not_eq_false] at held
    exact extend_of_held found held

/-! ## Sequences of calls -/

/-- A call that starts, extends or drops the scope with a name. -/
inductive Call where
  | enter (name : String) (cell : Address)
  | extend (name : String) (cell : Address)
  | drop (name : String)

/-- The scopes after a call. -/
def call (scopes : GuardedScopes) : Call → GuardedScopes
  | .enter name cell => (scopes.enter name cell).2
  | .extend name cell => (scopes.extend name cell).2
  | .drop name => (scopes.drop name).2

/-- The scopes that are alive after some calls on a new guard. -/
def ofCalls (calls : List Call) : GuardedScopes :=
  calls.foldl call empty

theorem sound_empty : empty.Sound :=
  ⟨List.nodup_nil, nofun, Guard.lists_empty⟩

theorem Sound.call (sound : scopes.Sound) (call : Call) : (scopes.call call).Sound := by
  cases call with
  | enter name cell => exact sound.enter name cell
  | extend name cell => exact sound.extend name cell
  | drop name => exact sound.drop name

theorem Sound.foldl_call (sound : scopes.Sound) (calls : List Call) :
    (calls.foldl GuardedScopes.call scopes).Sound := by
  induction calls generalizing scopes with
  | nil => exact sound
  | cons call calls ih => exact ih (sound.call call)

/-- When scopes are dropped one after the other, those with other names are left. -/
theorem alive_foldl_drop (names : List String) (scopes : GuardedScopes) :
    ((names.map Call.drop).foldl call scopes).alive =
      scopes.alive.filter fun entry => !names.contains entry.1 := by
  induction names generalizing scopes with
  | nil => simp
  | cons name names ih =>
      rw [List.map_cons, List.foldl_cons, ih, call, alive_drop, others, List.filter_filter]
      congr 1
      funext entry
      rw [List.contains_cons, Bool.not_or, Bool.and_comm]
      rfl

/-- After calls in any order the guard is shared out among the scopes that are alive: it
holds their cells and no others, and no two scopes share a cell.  So a cell can be brought
in exactly if no scope holds it, a scope takes only its own cells out, and nothing is left
in the guard once all scopes have been dropped. -/
theorem guard_shared_out_of_calls (calls : List Call) :
    ((ofCalls calls).alive.map Prod.fst).Nodup ∧
      (∀ cell, (ofCalls calls).guard.isEvaluating cell = true ↔
        ∃ entry ∈ (ofCalls calls).alive, cell ∈ entry.2.cells) ∧
      (∀ entry ∈ (ofCalls calls).alive, entry.2.cells.toList.Nodup) ∧
      (ofCalls calls).alive.Pairwise
        (fun entry other => ∀ cell ∈ entry.2.cells, cell ∉ other.2.cells) ∧
      (ofCalls calls).guard.size =
        ((ofCalls calls).alive.map fun entry => entry.2.cells.size).sum ∧
      ((ofCalls calls).guard.isEmpty = true ↔ (ofCalls calls).alive = []) ∧
      (∀ name cell, (ofCalls calls).Enters name cell) ∧
      (∀ name scope, (ofCalls calls).find? name = some scope →
        (∀ cell, (ofCalls calls).Extends name scope cell) ∧
          (ofCalls calls).Drops name scope) ∧
      ∀ names : List String, (∀ entry ∈ (ofCalls calls).alive, entry.1 ∈ names) →
        (ofCalls (calls ++ names.map Call.drop)).guard.isEmpty = true := by
  have sound : (ofCalls calls).Sound := sound_empty.foldl_call calls
  refine ⟨sound.names, sound.isEvaluating_iff, sound.apart.1, sound.apart.2, sound.size_eq,
    sound.isEmpty_iff, sound.enters, ?_, ?_⟩
  · intro name scope found
    exact ⟨sound.extends found, sound.drops found⟩
  · intro names all
    have later : (ofCalls (calls ++ names.map Call.drop)).Sound := sound_empty.foldl_call _
    rw [later.isEmpty_iff, ofCalls, List.foldl_append, alive_foldl_drop, List.filter_eq_nil_iff]
    intro entry member
    simpa using all entry member

/-- Two scopes are alive, the second of which has not been able to take over a cell of the
first one. -/
theorem guard_shared_out_of_two_scopes :
    ∃ scopes, scopes = ofCalls [.enter "first" ⟨0, 0⟩, .extend "first" ⟨0, 1⟩,
        .enter "second" ⟨0, 2⟩, .extend "second" ⟨0, 1⟩] ∧
      scopes.guard.size = 3 ∧ scopes.find? "first" = some ⟨#[⟨0, 0⟩, ⟨0, 1⟩]⟩ ∧
      scopes.Drops "first" ⟨#[⟨0, 0⟩, ⟨0, 1⟩]⟩ ∧
      ((scopes.call (.drop "second")).call (.drop "first")).guard.isEmpty = true := by
  have alive : (ofCalls [.enter "first" ⟨0, 0⟩, .extend "first" ⟨0, 1⟩,
      .enter "second" ⟨0, 2⟩, .extend "second" ⟨0, 1⟩]).alive =
      [("second", ⟨#[⟨0, 2⟩]⟩), ("first", ⟨#[⟨0, 0⟩, ⟨0, 1⟩]⟩)] := by
    simp [ofCalls, call, enter, extend, drop, find?, Guard.enter?, Guard.extend?, empty,
      Guard.isEvaluating_hold, GuardScope.add]
  have shared := guard_shared_out_of_calls [.enter "first" ⟨0, 0⟩, .extend "first" ⟨0, 1⟩,
    .enter "second" ⟨0, 2⟩, .extend "second" ⟨0, 1⟩]
  rcases shared with ⟨-, -, -, -, size, -, -, scopes, empties⟩
  refine ⟨_, rfl, ?_, ?_, ?_, ?_⟩
  · rw [size, alive]
    rfl
  · rw [find?, alive]
    rfl
  · apply (scopes "first" _ _).2
    rw [find?, alive]
    rfl
  · apply empties ["second", "first"]
    rw [alive]
    simp

end GuardedScopes

end Worksheet
