import Worksheet.Proofs.Sheet.Cascading
import Worksheet.Proofs.Sheet.Recording

/-!
# What an operation can do

An operation on a sheet in use that does not replace all cells at once has one of four
effects.  It is refused, or there is nothing to be done, or a cell of the sheet is
recalculated, or edits are made that fit into a cell of the sheet.  What is noted in the
history comes before or after the edits and makes no difference to them.

So the cascades of all operations meet only cells of the sheet, and an operation fails
because of a cell outside of it only if the operation itself names that cell.
-/

namespace Worksheet

/-- The operation is about a cell, or it loads a record for it. -/
def Action.Names (cell : Address) : Action → Prop
  | .setText address _ => address = cell
  | .setColor address _ => address = cell
  | .clearCell address => address = cell
  | .recalculate address => address = cell
  | .undo => False
  | .redo => False
  | .reset => False
  | .loadRecords records => ∃ record ∈ records, record.address = .ok cell

/-- The sheet with another history. -/
def Sheet.noting (sheet : Sheet) (history : History) (modified : Bool) : Sheet :=
  { sheet with history, modified }

/-- The outcome with another history of the sheet. -/
def Outcome.noting (outcome : Outcome) (history : History) (modified : Bool) : Outcome :=
  { outcome with sheet := outcome.sheet.noting history modified }

namespace Sheet.ListsCellsOf

variable {sheet after : Sheet} {log later : Array LogEvent}

theorem empty (sheet : Sheet) : sheet.ListsCellsOf #[] := by
  intro root order logged
  exact absurd logged (Array.not_mem_empty _)

theorem append (before : sheet.ListsCellsOf log) (after : sheet.ListsCellsOf later) :
    sheet.ListsCellsOf (log ++ later) := by
  intro root order logged
  rcases Array.mem_append.1 logged with early | late
  · exact before root order early
  · exact after root order late

theorem push (before : sheet.ListsCellsOf log) {event : LogEvent}
    (other : ∀ root order, event ≠ .cascade root order) : sheet.ListsCellsOf (log.push event) := by
  intro root order logged
  rcases Array.mem_push.1 logged with early | same
  · exact before root order early
  · exact absurd same.symm (other root order)

/-- Sheets of the same size have the same cells. -/
theorem congr (lists : sheet.ListsCellsOf log) (size : after.dimensions = sheet.dimensions) :
    after.ListsCellsOf log := by
  intro root order logged cell listed
  rw [contains_congr size]
  exact lists root order logged cell listed

end Sheet.ListsCellsOf

namespace Outcome

variable {first : Outcome} {next : Sheet → Outcome}

theorem success_andAlso (sheet : Sheet) (next : Sheet → Outcome) :
    (success sheet).andAlso next = next sheet := by
  rw [andAlso, success]
  dsimp only
  rw [Array.empty_append]

theorem StaysInside.success (sheet : Sheet) : (Outcome.success sheet).StaysInside where
  cascades := Sheet.ListsCellsOf.empty sheet
  fault := by
    rintro cell _ ⟨⟩

/-- Two operations one after the other stay inside if both do. -/
theorem StaysInside.andAlso (before : first.StaysInside) (after : (next first.sheet).StaysInside)
    (size : (next first.sheet).sheet.dimensions = first.sheet.dimensions) :
    (first.andAlso next).StaysInside where
  cascades := (before.cascades.congr size).append after.cascades
  fault := by
    intro cell outside
    rw [Outcome.andAlso] at outside ⊢
    dsimp only at outside ⊢
    split
    · next fault failed =>
        rw [← failed]
        exact before.fault cell ((Sheet.contains_congr size cell).symm.trans outside)
    · exact after.fault cell outside

end Outcome

namespace Edit

variable {address : Address} {present : Color} {edits : List Edit}

theorem Fitting.cell_eq (fitting : Fitting address present edits) :
    ∀ edit ∈ edits, edit.cell = address := by
  cases fitting <;> simp [cell]

end Edit

namespace Sheet

variable {sheet : Sheet} {address root : Address} {cell : Cell}

/-! ## Making edits -/

theorem applyAll_singleton (sheet : Sheet) (edit : Edit) :
    sheet.applyAll [edit] = sheet.apply edit := by
  rw [applyAll, List.foldl_cons, Outcome.success_andAlso]
  rfl

theorem applyAll_text (sheet : Sheet) (address : Address) (old new : String) :
    sheet.applyAll [.text address old new] = sheet.commitText address new :=
  sheet.applyAll_singleton (.text address old new)

theorem applyAll_color (sheet : Sheet) (address : Address) (old new : Color) :
    sheet.applyAll [.color address old new] = sheet.commitColor address new :=
  sheet.applyAll_singleton (.color address old new)

theorem applyAll_pair (sheet : Sheet) (first second : Edit) :
    sheet.applyAll [first, second] =
      (sheet.apply first).andAlso fun sheet => sheet.apply second := by
  rw [applyAll, List.foldl_cons, Outcome.success_andAlso]
  rfl

/-- A further edit is made whatever became of the others. -/
theorem applyAll_concat (sheet : Sheet) (edits : List Edit) (edit : Edit) :
    sheet.applyAll (edits ++ [edit]) =
      (sheet.applyAll edits).andAlso fun sheet => sheet.apply edit :=
  List.foldl_concat _ _ _ _

/-! ## The effects of an operation -/

/-- What can become of an operation that does not replace all cells. -/
inductive Effect (sheet : Sheet) (action : Action) : Prop
  | refused (fault : SheetError) (named : ∀ cell, fault = .outsideGrid cell → action.Names cell)
      (done : sheet.act action = .failure sheet fault)
  | needless (done : sheet.act action = .success sheet)
  | recalculated {root : Address} (inside : sheet.contains root = true)
      (done : sheet.act action = sheet.recalculate root)
  | edited {address : Address} {cell : Cell} {edits : List Edit}
      (inside : sheet.cell? address = some cell)
      (fitting : Edit.Fitting address cell.color edits)
      (noted history : History) (changed modified : Bool)
      (done : sheet.act action =
        ((sheet.noting noted changed).applyAll edits).noting history modified)

/-- An error about a cell outside of the grid tells which cell that is. -/
theorem outsideGrid_inj {cell other : Address}
    (same : SheetError.outsideGrid cell = .outsideGrid other) : cell = other :=
  (SheetError.formula.inj same).1

theorem effect_setText (sheet : Sheet) (address : Address) (text : String) :
    Effect sheet (.setText address text) := by
  cases inside : sheet.cell? address with
  | none => exact Effect.refused _ (fun _ => outsideGrid_inj) (setText_outside inside text)
  | some cell =>
      have done := setText_inside inside text
      rw [← applyAll_text _ address cell.text text] at done
      have fitting : Edit.Fitting address cell.color [.text address cell.text text] :=
        Edit.Fitting.text _ _
      split at done
      · exact Effect.edited inside fitting sheet.history _ sheet.modified _ done
      · exact Effect.edited inside fitting _ _ true _ done

theorem effect_setColor (sheet : Sheet) (address : Address) (color : Color) :
    Effect sheet (.setColor address color) := by
  cases inside : sheet.cell? address with
  | none => exact Effect.refused _ (fun _ => outsideGrid_inj) (setColor_outside inside color)
  | some cell =>
      have done := setColor_inside inside color
      split at done
      · exact Effect.needless done
      · next differs =>
          rw [← applyAll_color _ address cell.color color] at done
          exact Effect.edited inside (Edit.Fitting.color differs) _ _ true _ done

theorem effect_clearCell (sheet : Sheet) (address : Address) :
    Effect sheet (.clearCell address) := by
  cases inside : sheet.cell? address with
  | none => exact Effect.refused _ (fun _ => outsideGrid_inj) (clearCell_outside inside)
  | some cell =>
      have done := clearCell_inside inside
      split at done
      · exact Effect.needless done
      · next some =>
          exact Effect.edited inside (fitting_clearingEdits inside some) _ _ true _ done

theorem effect_recalculate (sheet : Sheet) (address : Address) :
    Effect sheet (.recalculate address) := by
  cases inside : sheet.contains address with
  | true => exact Effect.recalculated inside rfl
  | false =>
      refine Effect.refused _ (fun _ => outsideGrid_inj) ?_
      rw [act, recalculate, inside]
      rfl

theorem InUse.effect_undo (used : sheet.InUse) : Effect sheet .undo := by
  cases moved : sheet.history.undo? with
  | none =>
      refine Effect.refused .nothingToUndo (fun _ => nofun) ?_
      rw [act, undo, moved]
  | some next =>
      obtain ⟨entry, remaining⟩ := next
      obtain ⟨address, cell, inside, fitting⟩ := used.fitting_undo moved
      refine Effect.edited inside fitting sheet.history remaining sheet.modified true ?_
      rw [act, undo, moved]
      rfl

theorem InUse.effect_redo (used : sheet.InUse) : Effect sheet .redo := by
  cases moved : sheet.history.redo? with
  | none =>
      refine Effect.refused .nothingToRedo (fun _ => nofun) ?_
      rw [act, redo, moved]
  | some next =>
      obtain ⟨entry, remaining⟩ := next
      obtain ⟨address, cell, inside, fitting⟩ := used.fitting_redo moved
      refine Effect.edited inside fitting sheet.history remaining sheet.modified true ?_
      rw [act, redo, moved]
      rfl

/-- An operation on a sheet in use has one of the effects, unless it replaces all cells. -/
theorem InUse.effect (used : sheet.InUse) {action : Action} (single : action.replacesAll = false) :
    Effect sheet action := by
  cases action with
  | setText address text => exact sheet.effect_setText address text
  | setColor address color => exact sheet.effect_setColor address color
  | clearCell address => exact sheet.effect_clearCell address
  | recalculate address => exact sheet.effect_recalculate address
  | undo => exact used.effect_undo
  | redo => exact used.effect_redo
  | reset => cases single
  | loadRecords records => cases single

/-! ## Cascades -/

theorem commitText_staysInside (linked : sheet.Linked) (inside : sheet.cell? address = some cell)
    (text : String) : (sheet.commitText address text).StaysInside := by
  have recalculated := recalculate_staysInside (linked_withTextLinked linked inside text)
    (contains_withTextLinked inside text)
  rw [commitText, inside]
  refine ⟨ListsCellsOf.append ?_ recalculated.cascades, recalculated.fault⟩
  exact (ListsCellsOf.empty _).push fun _ _ => LogEvent.noConfusion

theorem commitColor_staysInside (inside : sheet.cell? address = some cell) (color : Color) :
    (sheet.commitColor address color).StaysInside := by
  rw [commitColor, inside]
  exact Outcome.StaysInside.success _

theorem apply_staysInside (linked : sheet.Linked) (edit : Edit)
    (inside : sheet.contains edit.cell = true) : (sheet.apply edit).StaysInside := by
  obtain ⟨cell, present⟩ := exists_cell?_of_contains inside
  cases edit with
  | text address old new => exact commitText_staysInside linked present new
  | color address old new => exact commitColor_staysInside present new

/-- Edits of cells of the sheet meet only cells of the sheet. -/
theorem applyAll_staysInside (consistent : sheet.Consistent) {edits : List Edit}
    (inside : ∀ edit ∈ edits, sheet.contains edit.cell = true) :
    (sheet.applyAll edits).StaysInside := by
  induction edits using List.reverseRecOn with
  | nil => exact Outcome.StaysInside.success sheet
  | append_singleton edits edit ih =>
      rw [applyAll_concat]
      have now := keptBySteps_consistent.applyAll edits consistent
      have size := (Untouched.applyAll sheet edits).dimensions
      have before := ih fun other member => inside other (List.mem_append_left _ member)
      have there := inside edit (List.mem_append_right _ List.mem_cons_self)
      rw [← contains_congr size] at there
      exact before.andAlso (apply_staysInside now.toLinked edit there)
        (Untouched.apply _ edit).dimensions

/-- The cascades of an effect meet only cells of the sheet, and it fails because of a cell
outside only if the operation names it. -/
theorem Effect.inside {action : Action} (effect : Effect sheet action)
    (consistent : sheet.Consistent) :
    sheet.ListsCellsOf (sheet.act action).log ∧
    ∀ cell, sheet.contains cell = false →
      (sheet.act action).result = .error (.outsideGrid cell) → action.Names cell := by
  cases effect with
  | refused fault named done =>
      rw [done]
      exact ⟨ListsCellsOf.empty sheet, fun cell _ failed => named cell (Except.error.inj failed)⟩
  | needless done =>
      rw [done]
      exact ⟨ListsCellsOf.empty sheet, fun _ _ => nofun⟩
  | @recalculated root inside done =>
      have size := (recalculate_sameInputs sheet root).dimensions
      have stays := recalculate_staysInside consistent.toLinked inside
      rw [done]
      refine ⟨stays.cascades.congr size.symm, ?_⟩
      intro cell outside failed
      rw [← contains_congr size] at outside
      exact absurd failed (stays.fault cell outside)
  | @edited address cell edits inside fitting noted history changed modified done =>
      have start : (sheet.noting noted changed).Consistent :=
        keptBySteps_consistent.noted noted changed consistent
      have within : ∀ edit ∈ edits, (sheet.noting noted changed).contains edit.cell = true := by
        intro edit member
        rw [fitting.cell_eq edit member]
        exact contains_of_cell? inside
      have stays := applyAll_staysInside start within
      have size : ((sheet.noting noted changed).applyAll edits).sheet.dimensions =
          sheet.dimensions := (Untouched.applyAll _ edits).dimensions
      rw [done]
      refine ⟨stays.cascades.congr size.symm, ?_⟩
      intro cell outside failed
      rw [← contains_congr size] at outside
      exact absurd failed (stays.fault cell outside)

end Sheet

end Worksheet
