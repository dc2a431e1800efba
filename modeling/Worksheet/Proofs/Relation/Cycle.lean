import Mathlib.Data.Fintype.Card
import Mathlib.Data.List.Chain
import Mathlib.Data.List.Nodup
import Mathlib.Data.Set.Finite.Basic
import Mathlib.Logic.Relation

/-!
# Cycles of a relation

An item is on a cycle if a path of related items leads from it through at least
one other item back to it, and no item is met twice on the way.  A loop from an
item to itself is not a cycle in this sense.

Searches find out which items can be reached from which others, not paths.  The
main statement says that this is enough: an item is on a cycle exactly if it and
some other item can be reached from each other.  It follows that a change of the
relations into one item leaves the cycles alone that cannot be reached from it.

A cycle through two given items may meet others twice, and it may have to: two loops that
share an item make one cycle through all of their items.
-/

namespace Worksheet

open Relation

universe u

/-- A path without repetition leads from an item through others back to it. -/
def OnCycle {α : Type u} (related : α → α → Prop) (item : α) : Prop :=
  ∃ others : List α, others ≠ [] ∧ (item :: others).Nodup ∧
    List.IsChain related (item :: others ++ [item])

namespace OnCycle

variable {α : Type u} {related : α → α → Prop}

/-! ## Simple paths -/

/-- Whatever can be reached can be reached without meeting an item twice. -/
theorem exists_simplePath {first last : α} (reaches : ReflTransGen related first last) :
    ∃ path : List α, (first :: path).Nodup ∧ List.IsChain related (first :: path) ∧
      (first :: path).getLast (List.cons_ne_nil _ _) = last := by
  induction reaches using ReflTransGen.head_induction_on with
  | refl => exact ⟨[], by simp, by simp, rfl⟩
  | @head first next step _ ih =>
      obtain ⟨path, distinct, chain, ends⟩ := ih
      by_cases met : first ∈ next :: path
      · -- The path comes back to `first`, so the way up to there is left out.
        obtain ⟨before, after, split⟩ := List.append_of_mem met
        refine ⟨after, ?_, ?_, ?_⟩
        · rw [split] at distinct
          exact distinct.of_append_right
        · rw [split] at chain
          exact chain.right_of_append
        · rw [← ends]
          simp only [split]
          rw [List.getLast_append_of_ne_nil]
      · refine ⟨next :: path, List.nodup_cons.2 ⟨met, distinct⟩, ?_, ?_⟩
        · exact List.isChain_cons_cons.2 ⟨step, chain⟩
        · rw [List.getLast_cons (List.cons_ne_nil _ _)]
          exact ends

/-! ## Cycles and mutual reachability -/

/-- A cycle leads from an item to another one and from there back. -/
theorem exists_step {item : α} (cycle : OnCycle related item) :
    ∃ next, next ≠ item ∧ related item next ∧ ReflTransGen related next item := by
  obtain ⟨others, nonempty, distinct, chain⟩ := cycle
  cases others with
  | nil => exact absurd rfl nonempty
  | cons next others =>
      rw [List.cons_append, List.cons_append, List.isChain_cons_cons] at chain
      refine ⟨next, ?_, chain.1, ?_⟩
      · rintro rfl
        simp at distinct
      · exact List.relationReflTransGen_of_exists_isChain_cons _ chain.2 (by simp)

/-- An item is on a cycle exactly if it and another item can be reached from each
other. -/
theorem iff_mutual {item : α} :
    OnCycle related item ↔
      ∃ other, other ≠ item ∧ ReflTransGen related item other ∧
        ReflTransGen related other item := by
  constructor
  · intro cycle
    obtain ⟨next, apart, step, back⟩ := cycle.exists_step
    exact ⟨next, apart, ReflTransGen.single step, back⟩
  · rintro ⟨other, apart, there, back⟩
    obtain ⟨path, distinct, chain, ends⟩ := exists_simplePath there
    cases path with
    | nil => exact absurd ends.symm apart
    | cons next path =>
        have leaves := List.isChain_cons_cons.1 chain
        have returns : ReflTransGen related next item := by
          refine ReflTransGen.trans ?_ back
          apply List.relationReflTransGen_of_exists_isChain_cons _ leaves.2
          rw [← ends, List.getLast_cons (List.cons_ne_nil _ _)]
        obtain ⟨home, homeDistinct, homeChain, homeEnds⟩ := exists_simplePath returns
        have ending := List.dropLast_append_getLast (List.cons_ne_nil next home)
        rw [homeEnds] at ending
        refine ⟨(next :: home).dropLast, ?_, ?_, ?_⟩
        · intro empty
          rw [empty, List.nil_append] at ending
          have same : item = next := (List.cons.inj ending).1
          simp [same] at distinct
        · rw [← ending, List.nodup_append] at homeDistinct
          refine List.nodup_cons.2 ⟨?_, homeDistinct.1⟩
          intro inside
          exact homeDistinct.2.2 item inside item (by simp) rfl
        · rw [List.cons_append, ending]
          exact List.isChain_cons_cons.2 ⟨leaves.1, homeChain⟩

/-- An item on a cycle is related to another item on a cycle. -/
theorem exists_next {item : α} (cycle : OnCycle related item) :
    ∃ next, next ≠ item ∧ related item next ∧ OnCycle related next := by
  obtain ⟨next, apart, step, back⟩ := cycle.exists_step
  exact ⟨next, apart, step, iff_mutual.2 ⟨item, apart.symm, back, ReflTransGen.single step⟩⟩

/-- Two items that are related to each other are on a cycle. -/
theorem of_mutual {item other : α} (apart : item ≠ other) (there : related item other)
    (back : related other item) : OnCycle related item :=
  iff_mutual.2 ⟨other, apart.symm, ReflTransGen.single there, ReflTransGen.single back⟩

/-- Every path to a cycle, and be it an item of the cycle itself, has a first step. -/
theorem exists_step_of_reaches {first last : α} (reaches : ReflTransGen related first last)
    (cycle : OnCycle related last) :
    ∃ next, related first next ∧ ReflTransGen related next last := by
  rcases reaches.cases_head with rfl | step
  · obtain ⟨next, _, step, back⟩ := cycle.exists_step
    exact ⟨next, step, back⟩
  · exact step

/-- If every step leads down, no item is on a cycle. -/
theorem not_of_descends (height : α → Nat)
    (descends : ∀ first next, related first next → height next < height first) (item : α) :
    ¬ OnCycle related item := by
  intro cycle
  rcases cycle.exists_step with ⟨next, _, step, back⟩
  have below : ∀ last, ReflTransGen related next last → height last ≤ height next := by
    intro last reaches
    induction reaches with
    | refl => exact le_refl _
    | tail _ step ih => exact (descends _ _ step).le.trans ih
  exact absurd (below item back) (not_le.2 (descends item next step))

/-- The cycles of a relation are those of its converse. -/
theorem swap_iff {item : α} : OnCycle (Function.swap related) item ↔ OnCycle related item := by
  simp only [iff_mutual, reflTransGen_swap]
  constructor
  · rintro ⟨other, apart, there, back⟩
    exact ⟨other, apart, back, there⟩
  · rintro ⟨other, apart, there, back⟩
    exact ⟨other, apart, back, there⟩

/-! ## Changing the relations into one item -/

/-- If two relations differ only into `root`, the same items lead to an item that
cannot be reached from `root`. -/
theorem reaches_iff_of_unreached {other : α → α → Prop} {root first last : α}
    (same : ∀ before after, after ≠ root → (related before after ↔ other before after))
    (unreached : ¬ ReflTransGen other root last) :
    ReflTransGen related first last ↔ ReflTransGen other first last := by
  constructor
  · intro reaches
    induction reaches using ReflTransGen.head_induction_on with
    | refl => exact ReflTransGen.refl
    | @head first next step _ ih =>
        have apart : next ≠ root := by
          rintro rfl
          exact unreached ih
        exact ReflTransGen.head ((same _ _ apart).1 step) ih
  · intro reaches
    induction reaches using ReflTransGen.head_induction_on with
    | refl => exact ReflTransGen.refl
    | @head first next step rest ih =>
        have apart : next ≠ root := by
          rintro rfl
          exact unreached rest
        exact ReflTransGen.head ((same _ _ apart).2 step) ih

/-- If two relations differ only into `root`, an item that cannot be reached from
`root` is on a cycle of both or of neither. -/
theorem iff_of_unreached {other : α → α → Prop} {root item : α}
    (same : ∀ before after, after ≠ root → (related before after ↔ other before after))
    (unreached : ¬ ReflTransGen other root item) :
    OnCycle related item ↔ OnCycle other item := by
  simp only [iff_mutual]
  constructor
  · rintro ⟨partner, apart, there, back⟩
    have backOther := (reaches_iff_of_unreached same unreached).1 back
    have partnerUnreached : ¬ ReflTransGen other root partner :=
      fun reaches => unreached (reaches.trans backOther)
    exact ⟨partner, apart, (reaches_iff_of_unreached same partnerUnreached).1 there, backOther⟩
  · rintro ⟨partner, apart, there, back⟩
    have partnerUnreached : ¬ ReflTransGen other root partner :=
      fun reaches => unreached (reaches.trans back)
    exact ⟨partner, apart, (reaches_iff_of_unreached same partnerUnreached).2 there,
      (reaches_iff_of_unreached same unreached).2 back⟩

/-! ## Descending outside of the cycles -/

/-- If only finitely many items are above others, and none is above itself, every
descent ends. -/
theorem wellFounded_of_finite {below : α → α → Prop} {inside : Set α} (finite : inside.Finite)
    (within : ∀ next first, below next first → first ∈ inside)
    (irreflexive : ∀ item, ¬ TransGen below item item) : WellFounded below := by
  have ends : WellFounded fun next first : inside => TransGen below next.1 first.1 := by
    have finite' : Finite inside := finite.to_subtype
    have transitive : IsTrans inside fun next first => TransGen below next.1 first.1 :=
      ⟨fun _ _ _ => TransGen.trans⟩
    have irreflexive' : Std.Irrefl fun next first : inside => TransGen below next.1 first.1 :=
      ⟨fun item => irreflexive item.1⟩
    exact Finite.wellFounded_of_trans_of_irrefl _
  have outside : ∀ item, item ∉ inside → Acc below item := by
    intro item absent
    apply Acc.intro item
    intro next lower
    exact absurd (within next item lower) absent
  have accessible : ∀ item : inside, Acc below item.1 := by
    intro item
    induction item using ends.induction with
    | _ item ih =>
        apply Acc.intro item.1
        intro next lower
        by_cases present : next ∈ inside
        · exact ih ⟨next, present⟩ (TransGen.single lower)
        · exact outside next present
  constructor
  intro item
  by_cases present : item ∈ inside
  · exact accessible ⟨item, present⟩
  · exact outside item present

/-- If only finitely many items are related to others, a path from item to item ends
unless it stays at an item or comes to a cycle. -/
theorem wellFounded (related : α → α → Prop) {inside : Set α} (finite : inside.Finite)
    (within : ∀ first next, related first next → first ∈ inside) :
    WellFounded fun next first =>
      related first next ∧ next ≠ first ∧ ¬ OnCycle related first := by
  apply wellFounded_of_finite finite fun next first lower => within first next lower.1
  intro item around
  obtain ⟨first, step, rest⟩ := TransGen.head'_iff.1 around
  have back : ReflTransGen related item first := by
    rw [← reflTransGen_swap] at rest
    exact ReflTransGen.mono (fun _ _ lower => lower.1) _ _ rest
  exact step.2.2 (iff_mutual.2 ⟨item, step.2.1, ReflTransGen.single step.1, back⟩)

end OnCycle

/-! ## Cycles through two items -/

/-- A path leads from an item through another one back to it.  It may meet an item more than
once on the way. -/
def OnCommonCycle {α : Type u} (related : α → α → Prop) (first second : α) : Prop :=
  ∃ path : List α, second ∈ path ∧ List.IsChain related (first :: path ++ [first])

/-- Two different items are on a common cycle exactly if they can be reached from each
other. -/
theorem onCommonCycle_iff_mutual {α : Type u} {related : α → α → Prop} {first second : α}
    (apart : second ≠ first) :
    OnCommonCycle related first second ↔
      ReflTransGen related first second ∧ ReflTransGen related second first := by
  constructor
  · rintro ⟨path, member, chain⟩
    obtain ⟨before, after, rfl⟩ := List.append_of_mem member
    have leaves : List.IsChain related ((first :: before ++ [second]) ++ (after ++ [first])) := by
      simpa using chain
    have returns : List.IsChain related ((first :: before) ++ (second :: after ++ [first])) := by
      simpa using chain
    exact ⟨List.relationReflTransGen_of_exists_isChain_cons _ leaves.left_of_append (by simp),
      List.relationReflTransGen_of_exists_isChain_cons _ returns.right_of_append (by simp)⟩
  · rintro ⟨there, back⟩
    obtain ⟨away, chainAway, endsAway⟩ := List.exists_isChain_cons_of_relationReflTransGen there
    obtain ⟨home, chainHome, endsHome⟩ := List.exists_isChain_cons_of_relationReflTransGen back
    cases away with
    | nil => exact absurd endsAway.symm apart
    | cons next away =>
        cases home with
        | nil => exact absurd endsHome apart
        | cons last home =>
            rw [List.getLast_cons (List.cons_ne_nil _ _)] at endsAway endsHome
            have splitAway := List.dropLast_append_getLast (List.cons_ne_nil next away)
            have splitHome := List.dropLast_append_getLast (List.cons_ne_nil last home)
            rw [endsAway] at splitAway
            rw [endsHome] at splitHome
            refine ⟨next :: away ++ (last :: home).dropLast, ?_, ?_⟩
            · rw [← endsAway]
              exact List.mem_append_left _ (List.getLast_mem _)
            · -- The way home starts where the way there ends.
              have around : List.IsChain related
                  (first :: (next :: away).dropLast ++ [second] ++ last :: home) := by
                apply List.IsChain.append_overlap _ chainHome (List.cons_ne_nil _ _)
                rw [List.cons_append, splitAway]
                exact chainAway
              rw [List.cons_append, List.append_assoc, splitHome]
              rw [List.cons_append, splitAway] at around
              exact around

end Worksheet
