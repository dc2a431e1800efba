import Worksheet.Proofs.Sheet.Mirroring
import Worksheet.Proofs.Sheet.Showing

/-!
# Operations that fail

An operation that fails either does nothing or everything.  It does nothing if it is about a
cell outside of the sheet, if there is nothing to undo or to redo, if a file cannot be read or
written, or if some records cannot be loaded.  All of this is found out before anything is
changed, or in a sheet that is thrown away.

A fault of a formula is found when the edit has been made already, and the cascade goes on
after it.  So the texts, the colors, the references and the history are in the end what they
would be without the fault, every cell of the cascade has been evaluated, and none is being
evaluated any more.
-/

namespace Worksheet

/-- The references after an edit: a text replaces those of its cell. -/
def Edit.link (graph : DependencyGraph) : Edit → DependencyGraph
  | .text cell _ new => graph.setReferences cell (Cell.referencesOf new)
  | .color _ _ _ => graph

namespace Outcome

variable {first : Outcome} {next : Sheet → Outcome} {address : Address}

/-- The edits have been made in full, whatever the result is. -/
structure Completes (outcome : Outcome) (before : Sheet) (edits : List Edit)
    (history : History) : Prop where
  entered : outcome.sheet.entered? = Edit.enterAll before.entered? edits
  graph : outcome.sheet.graph = edits.foldl Edit.link before.graph
  history : outcome.sheet.history = history
  evaluated : ∀ address old new, Edit.text address old new ∈ edits →
    ∀ cell, outcome.sheet.graph.Reaches address cell → outcome.Evaluated cell
  idle : outcome.sheet.guard.isEmpty = true

/-- What the second operation has evaluated last is evaluated in the end. -/
theorem Evaluated.andAlso_right (evaluated : (next first.sheet).Evaluated address) :
    (first.andAlso next).Evaluated address := by
  obtain ⟨cell, present, finished, logged⟩ := evaluated
  exact ⟨cell, present, finished, Array.mem_append_right _ logged⟩

/-- A color that is committed afterwards makes no difference to what has been evaluated. -/
theorem Evaluated.commitColor (evaluated : first.Evaluated address) (colored : Address)
    (color : Color) :
    (first.andAlso fun sheet => sheet.commitColor colored color).Evaluated address := by
  obtain ⟨cell, present, finished, logged⟩ := evaluated
  have kept : LogEvent.evaluated address cell.value ∈
      (first.andAlso fun sheet => sheet.commitColor colored color).log :=
    Array.mem_append_left _ logged
  cases inside : first.sheet.cell? colored with
  | none =>
      have same : (first.andAlso fun sheet => sheet.commitColor colored color).sheet =
          first.sheet := Sheet.commitColor_outside inside color
      exact ⟨cell, by rw [same]; exact present, finished, kept⟩
  | some old =>
      have stored : (first.andAlso fun sheet => sheet.commitColor colored color).sheet =
          (first.sheet.setCell colored { old with color }).announce colored :=
        Sheet.commitColor_sheet inside color
      have cells := Sheet.cell?_setCell inside { old with color } address
      by_cases here : address = colored
      · subst here
        rw [if_pos rfl] at cells
        rw [present] at inside
        cases inside
        exact ⟨{ cell with color }, by rw [stored]; exact cells, finished, kept⟩
      · rw [if_neg here, present] at cells
        exact ⟨cell, by rw [stored]; exact cells, finished, kept⟩

end Outcome

namespace Sheet

variable {sheet : Sheet} {address : Address} {cell : Cell} {edits : List Edit}

/-! ## Edits that are made in full -/

theorem graph_apply {edit : Edit} (inside : sheet.contains edit.cell = true) :
    (sheet.apply edit).sheet.graph = edit.link sheet.graph := by
  cases edit with
  | text address old new =>
      obtain ⟨cell, present⟩ := exists_cell?_of_contains inside
      exact graph_commitText present new
  | color address old new => exact graph_commitColor sheet address new

theorem graph_applyAll (inside : ∀ edit ∈ edits, sheet.contains edit.cell = true) :
    (sheet.applyAll edits).sheet.graph = edits.foldl Edit.link sheet.graph := by
  rw [applyAll_sheet]
  induction edits generalizing sheet with
  | nil => rfl
  | cons edit edits ih =>
      rw [List.forall_mem_cons] at inside
      rw [List.foldl_cons, List.foldl_cons, ih, graph_apply inside.1]
      intro other member
      rw [contains_congr (Untouched.apply sheet edit).dimensions]
      exact inside.2 other member

/-- The cells that can be reached from the cell of a committed text are evaluated. -/
theorem commitText_evaluated (linked : sheet.Linked) (inside : sheet.cell? address = some cell)
    (text : String) {other : Address}
    (reaches : (sheet.commitText address text).sheet.graph.Reaches address other) :
    (sheet.commitText address text).Evaluated other := by
  have graph := (recalculate_sameInputs (sheet.withTextLinked address cell text) address).graph
  rw [commitText_sheet inside, graph] at reaches
  obtain ⟨seen, present, finished, logged⟩ := evaluated_of_reaches
    (linked_withTextLinked linked inside text) (contains_withTextLinked inside text) reaches
  refine ⟨seen, ?_, finished, ?_⟩
  · rw [commitText_sheet inside]
    exact present
  · rw [commitText, inside]
    exact Array.mem_append_right _ logged

/-- Edits that fit into a cell leave no cell behind that can be reached from it, if they bring
a text. -/
theorem applyAll_evaluated (consistent : sheet.Consistent)
    (inside : sheet.cell? address = some cell)
    (fitting : Edit.Fitting address cell.color edits) {edited other : Address}
    {old new : String} (member : Edit.text edited old new ∈ edits)
    (reaches : (sheet.applyAll edits).sheet.graph.Reaches edited other) :
    (sheet.applyAll edits).Evaluated other := by
  obtain rfl : edited = address := fitting.cell_eq _ member
  cases fitting with
  | text before after =>
      rw [applyAll_text] at reaches ⊢
      exact commitText_evaluated consistent.toLinked inside after reaches
  | color differs => simp at member
  | @colorFirst color differs before after =>
      have colored := (consistent.commitColor edited color).toLinked
      have contained := (contains_congr (dimensions_commitColor sheet edited color) edited).trans
        (contains_of_cell? inside)
      obtain ⟨now, there⟩ := exists_cell?_of_contains contained
      rw [applyAll_pair] at reaches ⊢
      exact Outcome.Evaluated.andAlso_right (commitText_evaluated colored there after reaches)
  | @textFirst color differs before after =>
      rw [applyAll_pair] at reaches ⊢
      change ((sheet.commitText edited after).sheet.commitColor edited color).sheet.graph.Reaches
        edited other at reaches
      rw [graph_commitColor] at reaches
      exact (commitText_evaluated consistent.toLinked inside after reaches).commitColor edited color

/-- Edits that fit into a cell are made in full. -/
theorem applyAll_completes (consistent : sheet.Consistent)
    (inside : sheet.cell? address = some cell)
    (fitting : Edit.Fitting address cell.color edits) :
    (sheet.applyAll edits).Completes sheet edits sheet.history := by
  have now := keptBySteps_consistent.applyAll edits consistent
  constructor
  case entered => exact entered?_applyAll sheet edits
  case graph =>
    apply graph_applyAll
    intro edit member
    rw [fitting.cell_eq edit member]
    exact contains_of_cell? inside
  case history => exact (Untouched.applyAll sheet edits).history
  case evaluated =>
    intro edited old new member other reaches
    exact applyAll_evaluated consistent inside fitting member reaches
  case idle => exact Std.HashSet.isEmpty_iff_forall_contains.2 now.idle

/-- An entry that is recorded first makes no difference to the edits. -/
theorem record_completes (consistent : sheet.Consistent)
    (inside : sheet.cell? address = some cell)
    (fitting : Edit.Fitting address cell.color edits) (entry : HistoryEntry) :
    ((sheet.record entry).applyAll edits).Completes sheet edits (sheet.history.record entry) := by
  have recorded : (sheet.record entry).Consistent := keptBySteps_consistent.record entry consistent
  have made := @applyAll_completes (sheet.record entry) address cell edits recorded inside fitting
  exact ⟨made.entered, made.graph, made.history, made.evaluated, made.idle⟩

/-- Nor does moving an entry in the history. -/
theorem replay_completes (consistent : sheet.Consistent)
    (inside : sheet.cell? address = some cell)
    (fitting : Edit.Fitting address cell.color edits) (history : History) :
    (sheet.replay history edits).Completes sheet edits history := by
  have made := applyAll_completes consistent inside fitting
  exact ⟨made.entered, made.graph, rfl, made.evaluated, made.idle⟩

/-! ## Editing, undoing and redoing -/

theorem setText_completes (consistent : sheet.Consistent)
    (inside : sheet.cell? address = some cell) (text : String) :
    (sheet.setText address text).Completes sheet [.text address cell.text text]
      (if cell.text = text then sheet.history
        else sheet.history.record (.single (.text address cell.text text))) := by
  have fitting : Edit.Fitting address cell.color [.text address cell.text text] :=
    Edit.Fitting.text _ _
  rw [setText_inside inside, ← applyAll_text _ address cell.text text]
  split
  · exact applyAll_completes consistent inside fitting
  · exact record_completes consistent inside fitting _

theorem clearCell_completes (consistent : sheet.Consistent)
    (inside : sheet.cell? address = some cell) :
    (sheet.clearCell address).Completes sheet (clearingEdits address cell)
      (if clearingEdits address cell = [] then sheet.history
        else sheet.history.record (.batch (clearingEdits address cell))) := by
  rw [clearCell_inside inside]
  split
  · next nothing =>
      rw [nothing]
      exact ⟨rfl, rfl, rfl, fun _ _ _ member => absurd member List.not_mem_nil,
        Std.HashSet.isEmpty_iff_forall_contains.2 consistent.idle⟩
  · next some => exact record_completes consistent inside (fitting_clearingEdits inside some) _

theorem InUse.undo_completes (used : sheet.InUse) {entry : HistoryEntry} {remaining : History}
    (moved : sheet.history.undo? = some (entry, remaining)) :
    sheet.undo.Completes sheet (entry.edits.reverse.map Edit.inverse) remaining := by
  obtain ⟨address, cell, inside, fitting⟩ := used.fitting_undo moved
  rw [undo, moved]
  exact replay_completes used.consistent inside fitting remaining

theorem InUse.redo_completes (used : sheet.InUse) {entry : HistoryEntry} {remaining : History}
    (moved : sheet.history.redo? = some (entry, remaining)) :
    sheet.redo.Completes sheet entry.edits remaining := by
  obtain ⟨address, cell, inside, fitting⟩ := used.fitting_redo moved
  rw [redo, moved]
  exact replay_completes used.consistent inside fitting remaining

/-! ## Refused operations -/

/-- The operations that cannot be carried out: those on a cell outside of the sheet, undoing
and redoing without an entry, saving without a file or to one that cannot be written, and
loads that fail. -/
inductive Refused (sheet : Sheet) : Operation → Prop
  | setText {address : Address} (outside : sheet.contains address = false) (text : String) :
      Refused sheet (.action (.setText address text))
  | setColor {address : Address} (outside : sheet.contains address = false) (color : Color) :
      Refused sheet (.action (.setColor address color))
  | clearCell {address : Address} (outside : sheet.contains address = false) :
      Refused sheet (.action (.clearCell address))
  | recalculate {address : Address} (outside : sheet.contains address = false) :
      Refused sheet (.action (.recalculate address))
  | undo (nothing : sheet.history.undoable = []) : Refused sheet (.action .undo)
  | redo (nothing : sheet.history.redoable = []) : Refused sheet (.action .redo)
  | save (files : FileStore) (nowhere : sheet.filePath = none) : Refused sheet (.save files)
  | saveAs {files : FileStore} {path : String} {fault : FileError}
      (unwritable : files.write path (SheetFile.write (SheetFile.records sheet)) = .error fault) :
      Refused sheet (.saveAs files path)
  | unreadable {files : FileStore} {path : String} {fault : FileError}
      (unreadable : files.read path = .error fault) : Refused sheet (.loadFile files path)
  | unparsable {files : FileStore} {path content : String} {fault : SheetError}
      (read : files.read path = .ok content) (unparsable : SheetFile.read content = .error fault) :
      Refused sheet (.loadFile files path)
  | unloadable {files : FileStore} {path content : String} {records : List Record}
      {fault : SheetError} (read : files.read path = .ok content)
      (parsed : SheetFile.read content = .ok records)
      (failed : (sheet.loadRecords records).result = .error fault) :
      Refused sheet (.loadFile files path)
  | loadRecords {records : List Record} {fault : SheetError}
      (failed : (sheet.loadRecords records).result = .error fault) :
      Refused sheet (.action (.loadRecords records))

theorem cell?_eq_none_of_outside (outside : sheet.contains address = false) :
    sheet.cell? address = none := by
  cases present : sheet.cell? address with
  | none => rfl
  | some cell =>
      rw [contains_of_cell? present] at outside
      cases outside

/-- An operation that is refused fails and leaves the sheet as it is. -/
theorem Refused.failure {operation : Operation} (refused : Refused sheet operation) :
    ∃ fault, (sheet.operate operation).result = .error fault ∧
      (sheet.operate operation).sheet = sheet := by
  cases refused with
  | setText outside text =>
      rw [operate, act, setText_outside (cell?_eq_none_of_outside outside)]
      exact ⟨_, rfl, rfl⟩
  | setColor outside color =>
      rw [operate, act, setColor_outside (cell?_eq_none_of_outside outside)]
      exact ⟨_, rfl, rfl⟩
  | clearCell outside =>
      rw [operate, act, clearCell_outside (cell?_eq_none_of_outside outside)]
      exact ⟨_, rfl, rfl⟩
  | recalculate outside =>
      rw [operate, act, Sheet.recalculate, outside]
      exact ⟨_, rfl, rfl⟩
  | undo nothing =>
      rw [operate, act, Sheet.undo, History.undo?, nothing]
      exact ⟨_, rfl, rfl⟩
  | redo nothing =>
      rw [operate, act, Sheet.redo, History.redo?, nothing]
      exact ⟨_, rfl, rfl⟩
  | save files nowhere =>
      rw [operate, Sheet.save, nowhere]
      exact ⟨_, rfl, rfl⟩
  | saveAs unwritable =>
      rw [operate, Sheet.saveAs, unwritable]
      exact ⟨_, rfl, rfl⟩
  | unreadable unreadable =>
      rw [operate, loadFile, unreadable]
      exact ⟨_, rfl, rfl⟩
  | unparsable read unparsable =>
      rw [operate, loadFile, read]
      dsimp only
      rw [loadText, unparsable]
      exact ⟨_, rfl, rfl⟩
  | unloadable read parsed failed =>
      rw [operate, loadFile, read]
      dsimp only
      rw [loadText, parsed]
      dsimp only
      rw [failed]
      exact ⟨_, failed, loadRecords_sheet_of_error failed⟩
  | loadRecords failed => exact ⟨_, failed, loadRecords_sheet_of_error failed⟩

/-! ## All or nothing -/

/-- A commit fails exactly if a cell that can be reached ends with an error. -/
theorem commitText_result_eq_ok_iff (linked : sheet.Linked)
    (inside : sheet.cell? address = some cell) (text : String) :
    (sheet.commitText address text).result = .ok () ↔
      ∀ other seen, (sheet.commitText address text).sheet.graph.Reaches address other →
        (sheet.commitText address text).sheet.cell? other = some seen → seen.error = none := by
  have graph := (recalculate_sameInputs (sheet.withTextLinked address cell text) address).graph
  rw [commitText_result inside, commitText_sheet inside, graph]
  exact recalculate_result_eq_ok_iff (linked_withTextLinked linked inside text)
    (contains_withTextLinked inside text)

/-- An operation on a sheet in use that is refused fails and leaves the sheet as it is.  Giving
a cell of the sheet a text, taking away what a cell has, undoing and redoing are done in full,
even if they fail because of a formula: what is entered, the references and the history are
what the edits make of them, every cell of the cascade has been evaluated, and none is being
evaluated any more. -/
theorem all_or_nothing_of_inUse (used : sheet.InUse) :
    (∀ operation, Refused sheet operation → ∃ fault,
      (sheet.operate operation).result = .error fault ∧
        (sheet.operate operation).sheet = sheet) ∧
    (∀ address cell, sheet.cell? address = some cell →
      (∀ text, (sheet.setText address text).Completes sheet [.text address cell.text text]
        (if cell.text = text then sheet.history
          else sheet.history.record (.single (.text address cell.text text)))) ∧
      (sheet.clearCell address).Completes sheet (clearingEdits address cell)
        (if clearingEdits address cell = [] then sheet.history
          else sheet.history.record (.batch (clearingEdits address cell)))) ∧
    (∀ entry remaining, sheet.history.undo? = some (entry, remaining) →
      sheet.undo.Completes sheet (entry.edits.reverse.map Edit.inverse) remaining) ∧
    ∀ entry remaining, sheet.history.redo? = some (entry, remaining) →
      sheet.redo.Completes sheet entry.edits remaining := by
  refine ⟨fun operation => Refused.failure, ?_, ?_, ?_⟩
  · intro address cell inside
    exact ⟨setText_completes used.consistent inside, clearCell_completes used.consistent inside⟩
  · exact fun entry remaining => used.undo_completes
  · exact fun entry remaining => used.redo_completes

/-- A formula that reads its own cell is an example of an edit that fails and is complete. -/
theorem all_or_nothing_of_selfReference :
    ∃ outcome, outcome = (blank 1 1).setText ⟨0, 0⟩ "=A1" ∧ InUse (blank 1 1) ∧
      (∃ fault, outcome.result = .error fault) ∧ outcome.Evaluated ⟨0, 0⟩ ∧
      outcome.sheet.entered? ⟨0, 0⟩ = some ("=A1", defaultColor) ∧
      outcome.sheet.history.undoable ≠ [] ∧ outcome.sheet.guard.isEmpty = true := by
  have start : (blank 1 1).Reached := reached_blank (by decide)
  have inside : (blank 1 1).cell? ⟨0, 0⟩ = some Cell.blank := rfl
  have completes := ((all_or_nothing_of_inUse start.inUse).2.1 _ _ inside).1 "=A1"
  have evaluated := completes.evaluated ⟨0, 0⟩ _ _ List.mem_cons_self _ .refl
  have entered : ((blank 1 1).setText ⟨0, 0⟩ "=A1").sheet.entered? ⟨0, 0⟩ =
      some ("=A1", defaultColor) := by
    rw [completes.entered]
    decide +kernel
  refine ⟨_, rfl, start.inUse, ?_, evaluated, entered, ?_, completes.idle⟩
  · have consistent := (start.performed (.setText ⟨0, 0⟩ "=A1")).consistent
    obtain ⟨cell, present, _⟩ := evaluated
    rw [entered?_of_cell? present] at entered
    have formula : cell.formula? = some "A1".toList := by
      rw [Cell.formula?, (Prod.mk.inj (Option.some.inj entered)).1]
      decide
    have marked := consistent.shows_selfReference present formula (by decide +kernel)
    cases result : ((blank 1 1).setText ⟨0, 0⟩ "=A1").result with
    | error fault => exact ⟨fault, rfl⟩
    | ok _ =>
        have recorded := start.consistent.toLinked.record
          (.single (.text ⟨0, 0⟩ Cell.blank.text "=A1"))
        have done : (blank 1 1).setText ⟨0, 0⟩ "=A1" = _ := setText_inside inside "=A1"
        rw [if_neg (by decide)] at done
        rw [done] at result present
        have faultless := (commitText_result_eq_ok_iff recorded inside "=A1").1 result
        rw [faultless _ _ .refl present] at marked
        cases marked.2
  · rw [completes.history]
    decide +kernel

end Sheet

end Worksheet
