import Worksheet.Proofs.Sheet.Effect

/-!
# Announcing what changes

A cell that waits to be announced is in the queue once, so announcing cells adds those that
do not wait yet, each once, behind the others.

What is to be seen of a cell is its value and its color.  An evaluation announces its cell
exactly if it gives another value, and a cascade evaluates each cell once.  So a commit
announces exactly the cells that are seen to differ afterwards.  Two commits that belong
to one edit cannot take each other back, because one of them changes the color and the other
one does not.
-/

namespace Worksheet

namespace Changes

/-! ## The queue -/

theorem toList_announce (changes : Changes) (cell : Address) :
    (changes.announce cell).toList =
      if cell ∈ changes.toList then changes.toList else changes.toList ++ [cell] := by
  have waits : cell ∈ changes.pending ↔ cell ∈ changes.toList := changes.mem_pending cell
  rw [announce]
  split
  · next waiting => rw [if_pos (waits.1 waiting)]
  · next absent =>
      rw [if_neg fun waiting => absent (waits.2 waiting)]
      exact Array.toList_push

theorem announceAll_concat (changes : Changes) (cells : List Address) (cell : Address) :
    changes.announceAll (cells ++ [cell]) = (changes.announceAll cells).announce cell :=
  List.foldl_concat _ _ _ _

theorem announceAll_append (changes : Changes) (first second : List Address) :
    changes.announceAll (first ++ second) = (changes.announceAll first).announceAll second :=
  List.foldl_append

/-- The cells are added behind those that wait, unless they wait already. -/
theorem toList_announceAll (changes : Changes) (cells : List Address) :
    (changes.announceAll cells).toList = (changes.toList ++ cells).eraseDups := by
  induction cells using List.reverseRecOn with
  | nil =>
      rw [List.append_nil]
      exact (Distinct.eraseDups_eq_self changes.distinct).symm
  | append_singleton cells cell ih =>
      rw [announceAll_concat, toList_announce, ← List.append_assoc, Distinct.eraseDups_concat, ih]
      simp only [List.mem_eraseDups, List.contains_iff_mem]

theorem mem_announceAll {changes : Changes} {cells : List Address} {cell : Address} :
    cell ∈ (changes.announceAll cells).toList ↔ cell ∈ changes.toList ∨ cell ∈ cells := by
  rw [toList_announceAll, List.mem_eraseDups, List.mem_append]

/-- Behind the cells that wait come those that have not waited. -/
theorem eraseDups_toList_append (changes : Changes) (cells : List Address) :
    (changes.toList ++ cells).eraseDups =
      changes.toList ++ (cells.removeAll changes.toList).eraseDups := by
  rw [List.eraseDups_append]
  exact congrArg (· ++ _) (Distinct.eraseDups_eq_self changes.distinct)

/-- What waits stays in its place, and behind it there are the cells that have not waited. -/
theorem exists_added (changes : Changes) (cells : List Address) :
    ∃ added, (changes.announceAll cells).toList = changes.toList ++ added ∧
      ∀ cell, cell ∈ added ↔ cell ∈ cells ∧ cell ∉ changes.toList := by
  refine ⟨(cells.removeAll changes.toList).eraseDups, ?_, ?_⟩
  · rw [toList_announceAll, eraseDups_toList_append]
  · intro cell
    rw [List.mem_eraseDups]
    simp [List.removeAll]

end Changes

namespace Sheet

variable {sheet before middle after : Sheet} {address other root : Address} {cell : Cell}

/-! ## What is to be seen -/

/-- What is to be seen of a cell: its value and its color. -/
def shown? (sheet : Sheet) (address : Address) : Option (String × Color) :=
  (sheet.cell? address).map fun cell => (cell.value, cell.color)

/-- Exactly the cells that are seen to differ have been announced. -/
def Announces (before after : Sheet) : Prop :=
  ∃ cells, after.changes = before.changes.announceAll cells ∧
    ∀ cell, cell ∈ cells ↔ after.shown? cell ≠ before.shown? cell

theorem Announces.of_shown?_eq (changes : after.changes = before.changes)
    (shown : after.shown? = before.shown?) : Announces before after := by
  refine ⟨[], changes, ?_⟩
  simp [shown]

/-- A step after another one goes on announcing, if no cell gets back what was to be seen. -/
theorem Announces.trans (first : Announces before middle) (second : Announces middle after)
    (onward : ∀ cell, middle.shown? cell ≠ before.shown? cell →
      after.shown? cell ≠ middle.shown? cell → after.shown? cell ≠ before.shown? cell) :
    Announces before after := by
  obtain ⟨early, announcedEarly, earlyDiffer⟩ := first
  obtain ⟨late, announcedLate, lateDiffer⟩ := second
  refine ⟨early ++ late, ?_, ?_⟩
  · rw [announcedLate, announcedEarly, Changes.announceAll_append]
  · intro cell
    rw [List.mem_append, earlyDiffer, lateDiffer]
    constructor
    · rintro (changed | changed)
      · by_cases same : after.shown? cell = middle.shown? cell
        · rw [same]
          exact changed
        · exact onward cell changed same
      · by_cases same : middle.shown? cell = before.shown? cell
        · rw [← same]
          exact changed
        · exact onward cell same changed
    · intro changed
      by_contra neither
      rw [not_or, not_not, not_not] at neither
      exact changed (neither.2.trans neither.1)

/-- It is enough to look at the only cell that may be seen to differ. -/
theorem Announces.of_one
    (others : ∀ other, other ≠ address → after.shown? other = before.shown? other)
    (announced : after.changes =
      if after.shown? address = before.shown? address then before.changes
      else before.changes.announce address) : Announces before after := by
  split at announced
  · next same =>
      apply Announces.of_shown?_eq announced
      funext other
      by_cases here : other = address
      · rw [here, same]
      · exact others other here
  · next differs =>
      refine ⟨[address], announced, ?_⟩
      intro other
      rw [List.mem_singleton]
      constructor
      · rintro rfl
        exact differs
      · intro changed
        by_contra apart
        exact changed (others other apart)

/-- Only cells of the sheet are seen to differ. -/
theorem contains_of_shown?_ne (size : after.dimensions = before.dimensions)
    (differs : after.shown? address ≠ before.shown? address) :
    before.contains address = true := by
  by_contra outside
  apply differs
  have nothing : ∀ {sheet : Sheet}, sheet.contains address ≠ true →
      sheet.shown? address = none := by
    intro sheet outside
    cases present : sheet.cell? address with
    | none => rw [shown?, present, Option.map_none]
    | some cell => exact absurd (contains_of_cell? present) outside
  rw [nothing outside, nothing]
  rw [contains_congr size]
  exact outside

/-! ## Evaluating -/

theorem shown?_evaluateCell_of_ne (apart : other ≠ address) (onCycle : Bool) :
    (sheet.evaluateCell address onCycle).1.shown? other = sheet.shown? other := by
  cases inside : sheet.cell? address with
  | none => rw [evaluateCell_outside inside]
  | some cell => rw [shown?, shown?, cell?_evaluateCell inside, if_neg apart]

/-- An evaluation announces its cell exactly if it gives another value. -/
theorem announces_evaluateCell (sheet : Sheet) (address : Address) (onCycle : Bool) :
    Announces sheet (sheet.evaluateCell address onCycle).1 := by
  cases inside : sheet.cell? address with
  | none =>
      rw [evaluateCell_outside inside]
      exact Announces.of_shown?_eq rfl rfl
  | some cell =>
      apply Announces.of_one fun other apart => shown?_evaluateCell_of_ne apart onCycle
      have now := (cell?_evaluateCell inside onCycle address).trans (if_pos rfl)
      rw [shown?, shown?, now, inside, Option.map_some, Option.map_some, Cell.finish_color,
        evaluateCell_inside inside]
      simp only [Option.some.injEq, Prod.mk.injEq, and_true]

theorem shown?_evaluateAll_of_notMem {steps : List (Address × Bool)}
    (absent : other ∉ steps.map Prod.fst) :
    (sheet.evaluateAll steps).shown? other = sheet.shown? other := by
  rw [shown?, shown?, cell?_evaluateAll_of_notMem absent]

/-- If every cell has only one turn, those are announced that have another value in the end. -/
theorem announces_evaluateAll {steps : List (Address × Bool)}
    (distinct : (steps.map Prod.fst).Nodup) : Announces sheet (sheet.evaluateAll steps) := by
  induction steps generalizing sheet with
  | nil => exact Announces.of_shown?_eq rfl rfl
  | cons step steps ih =>
      rw [List.map_cons, List.nodup_cons] at distinct
      apply (announces_evaluateCell sheet step.1 step.2).trans (ih distinct.2)
      intro cell changed changedLater
      -- The cell of the first step has no later turn.
      exfalso
      by_cases first : cell = step.1
      · subst first
        exact changedLater (shown?_evaluateAll_of_notMem distinct.1)
      · exact changed (shown?_evaluateCell_of_ne first step.2)

theorem announces_recalculate (linked : sheet.Linked) (inside : sheet.contains root = true) :
    Announces sheet (sheet.recalculate root).sheet := by
  rw [recalculate_sheet inside (linked.idle root)]
  exact @announces_evaluateAll (sheet.guardedFrom root) _ (linked.nodup_steps_planFrom root)

/-! ## Committing -/

theorem shown?_withTextLinked (inside : sheet.cell? address = some cell) (text : String) :
    (sheet.withTextLinked address cell text).shown? = sheet.shown? := by
  funext other
  rw [shown?, shown?, cell?_withTextLinked inside]
  split
  · next same =>
      subst same
      rw [inside]
      rfl
  · rfl

theorem announces_commitText (linked : sheet.Linked) (inside : sheet.cell? address = some cell)
    (text : String) : Announces sheet (sheet.commitText address text).sheet := by
  rw [commitText_sheet inside]
  obtain ⟨cells, announced, differ⟩ := announces_recalculate
    (linked_withTextLinked linked inside text) (contains_withTextLinked inside text)
  rw [shown?_withTextLinked inside] at differ
  exact ⟨cells, announced, differ⟩

theorem shown?_commitColor (inside : sheet.cell? address = some cell) (color : Color)
    (other : Address) :
    (sheet.commitColor address color).sheet.shown? other =
      if other = address then some (cell.value, color) else sheet.shown? other := by
  rw [commitColor_sheet inside, shown?]
  have now := cell?_setCell inside { cell with color } other
  refine (congrArg (Option.map fun cell : Cell => (cell.value, cell.color)) now).trans ?_
  rw [apply_ite (Option.map _)]
  rfl

/-- Committing a color announces its cell, which is exact if the color is another one. -/
theorem announces_commitColor (inside : sheet.cell? address = some cell) {color : Color}
    (differs : cell.color ≠ color) : Announces sheet (sheet.commitColor address color).sheet := by
  apply @Announces.of_one _ _ address
  · intro other apart
    rw [shown?_commitColor inside, if_neg apart]
  · rw [shown?_commitColor inside, if_pos rfl, shown?, inside, commitColor_sheet inside]
    rw [if_neg]
    · rfl
    · rw [Option.map_some, Option.some.injEq, Prod.mk.injEq]
      exact fun same => differs same.2.symm

/-- Committing a text leaves all colors as they are. -/
theorem color_commitText (sheet : Sheet) (address : Address) (text : String) (other : Address) :
    ((sheet.commitText address text).sheet.shown? other).map Prod.snd =
      (sheet.shown? other).map Prod.snd := by
  have colors : ∀ sheet : Sheet, (sheet.shown? other).map Prod.snd =
      (sheet.entered? other).map Prod.snd := by
    intro sheet
    rw [shown?, entered?, Option.map_map, Option.map_map]
    rfl
  rw [colors, colors, entered?_commitText, Snapshot.change]
  split
  · next same => rw [same, Option.map_map]; rfl
  · rfl

/-! ## Making edits -/

/-- A cell that has got another color is seen to differ. -/
theorem shown?_ne_of_color {first second : Option (String × Color)} {color color' : Color}
    (here : first.map Prod.snd = some color) (there : second.map Prod.snd = some color')
    (differs : color' ≠ color) : first ≠ second := by
  rintro rfl
  rw [here] at there
  exact differs (Option.some.inj there).symm

/-- Edits that fit into a cell announce exactly the cells that are seen to differ. -/
theorem announces_applyAll (consistent : sheet.Consistent)
    (inside : sheet.cell? address = some cell) {edits : List Edit}
    (fitting : Edit.Fitting address cell.color edits) :
    Announces sheet (sheet.applyAll edits).sheet := by
  have linked := consistent.toLinked
  have before : (sheet.shown? address).map Prod.snd = some cell.color := by
    rw [shown?, inside]
    rfl
  cases fitting with
  | text old new =>
      rw [applyAll_text]
      exact announces_commitText linked inside new
  | @color new differs =>
      rw [applyAll_color]
      exact announces_commitColor inside differs
  | @colorFirst new differs old text =>
      rw [applyAll_sheet]
      change Announces sheet ((sheet.commitColor address new).sheet.commitText address text).sheet
      have colored := shown?_commitColor inside new
      have now : (sheet.commitColor address new).sheet.cell? address =
          some { cell with color := new } := by
        rw [commitColor_sheet inside]
        exact (cell?_setCell inside _ address).trans (if_pos rfl)
      have stored := (consistent.commitColor address new).toLinked
      apply (announces_commitColor inside differs).trans (announces_commitText stored now text)
      intro other changed _
      by_cases here : other = address
      · subst here
        refine shown?_ne_of_color ?_ before differs
        rw [color_commitText, colored, if_pos rfl]
        rfl
      · rw [colored, if_neg here] at changed
        exact absurd rfl changed
  | @textFirst new differs old text =>
      rw [applyAll_sheet]
      change Announces sheet ((sheet.commitText address text).sheet.commitColor address new).sheet
      have kept := color_commitText sheet address text address
      rw [before] at kept
      obtain ⟨shown, present, color⟩ := Option.map_eq_some_iff.1 kept
      obtain ⟨now, there, rfl⟩ := Option.map_eq_some_iff.1 present
      have colored := shown?_commitColor there new
      have differsNow : now.color ≠ new := by
        rw [show now.color = cell.color from color]
        exact differs
      apply (announces_commitText linked inside text).trans (announces_commitColor there differsNow)
      intro other _ changed
      by_cases here : other = address
      · subst here
        refine shown?_ne_of_color ?_ before differs
        rw [colored, if_pos rfl]
        rfl
      · rw [colored, if_neg here] at changed
        exact absurd rfl changed

/-- An operation that does not replace all cells announces exactly the cells that are seen to
differ. -/
theorem Effect.announces {action : Action} (effect : Effect sheet action)
    (consistent : sheet.Consistent) : Announces sheet (sheet.act action).sheet := by
  cases effect with
  | refused fault named done =>
      rw [done]
      exact Announces.of_shown?_eq rfl rfl
  | needless done =>
      rw [done]
      exact Announces.of_shown?_eq rfl rfl
  | recalculated inside done =>
      rw [done]
      exact announces_recalculate consistent.toLinked inside
  | @edited address cell edits inside fitting noted history changed modified done =>
      rw [done]
      have start : (sheet.noting noted changed).Consistent :=
        keptBySteps_consistent.noted noted changed consistent
      exact @announces_applyAll (sheet.noting noted changed) address cell start inside edits fitting

end Sheet

end Worksheet
