import Worksheet.CommandLine.Run
import Worksheet.Proofs.Sheet.Blaming

/-!
# Constant formulas

A formula without letters names no cell and no variable.  So nothing but its own text decides
about its value, and the value is the same whether the formula is given on the command line or
entered into a cell.

A cell with such a formula reads nothing, so it is on no cycle, and it is the first one of its
own cascade.  Its fault is the one that the edit reports, whatever becomes of the cells that
depend on it.
-/

namespace Worksheet

/-! ## Formulas without letters -/

namespace Lexeme

/-- The characters of a lexeme are characters of the text. -/
theorem mem_of_mem_inText {behindWord : Bool} {text : List Char} {lexeme : Lexeme}
    (member : lexeme ∈ inText behindWord text) : ∀ c ∈ lexeme.text, c ∈ text := by
  induction behindWord, text using inText.induct with
  | case1 behindWord =>
      rw [inText_nil] at member
      exact absurd member List.not_mem_nil
  | case2 behindWord c rest blank ih =>
      rw [inText_blank blank] at member
      intro d inside
      exact List.mem_cons_of_mem c (ih member d inside)
  | case3 behindWord c rest visible nothing =>
      rw [inText.eq_def] at member
      simp only [if_neg visible, nothing] at member
      exact absurd member List.not_mem_nil
  | case4 behindWord c rest visible d more found ih =>
      rw [inText_lexeme visible found, List.mem_cons] at member
      rcases member with rfl | later
      · intro e inside
        dsimp only at inside
        rw [← found] at inside
        exact (Token.lexemeAtStart_isPrefix (c :: rest)).subset inside
      · intro e inside
        exact List.mem_cons_of_mem c (List.mem_of_mem_drop (ih later e inside))

end Lexeme

namespace References

/-- A text without letters has no references. -/
theorem inText_of_noLetter {text : List Char} (plain : ∀ c ∈ text, c.isAlpha = false) :
    inText text = [] := by
  cases text with
  | nil =>
      rw [inText, candidates_nil]
      rfl
  | cons c rest =>
      have nothing := candidates_append_of_noLetter plain false []
      rw [List.append_nil, candidates_nil] at nothing
      rw [inText, nothing]
      rfl

end References

namespace Formula

variable {table : OperatorTable} {text : List Char} {formula : Formula}

/-- The value of the formula in a text, where no variable is given a value. -/
def valueOf (table : OperatorTable) (text : List Char) : Except FormulaError String :=
  match parse table text with
  | .error fault => .error fault
  | .ok formula => formula.evaluate.map Decimal.writeValue

/-- A formula without letters has no variables. -/
theorem names_of_noLetter (plain : ∀ c ∈ text, c.isAlpha = false)
    (parsed : parse table text = .ok formula) : formula.names = [] := by
  obtain ⟨tokens, read, names⟩ := names_of_parse parsed
  have nameless : namesOf tokens = [] := by
    rw [namesOf, List.filterMap_eq_nil_iff]
    intro token member
    rw [← Lexeme.map_ofLexeme_inText read false, List.mem_map] at member
    obtain ⟨lexeme, among, rfl⟩ := member
    obtain ⟨c, more, start, -⟩ := Lexeme.shape_of_mem_inText among
    have first : c ∈ lexeme.text := by
      rw [start]
      exact List.mem_cons_self
    have noLetter := plain c (Lexeme.mem_of_mem_inText among c first)
    rw [start]
    cases token : Token.ofLexeme (c :: more) with
    | name text => exact absurd token (Token.ofLexeme_ne_name noLetter text)
    | _ => rfl
  rw [names, nameless]
  rfl

end Formula

/-- In a cell a formula without letters has the value that its text has. -/
theorem Sheet.computeFormula_of_noLetter (sheet : Sheet) (address : Address) {body : List Char}
    (plain : ∀ c ∈ body, c.isAlpha = false) :
    sheet.computeFormula address body =
      (Formula.valueOf sheet.operators body).mapError (SheetError.formula address) := by
  rw [computeFormula, Formula.valueOf]
  cases parsed : Formula.parse sheet.operators body with
  | error fault => rfl
  | ok formula =>
      dsimp only
      rw [Formula.names_of_noLetter plain parsed, bind]
      dsimp only
      cases formula.evaluate <;> rfl

/-- On the command line too. -/
theorem CommandLine.evaluateConstant_of_noLetter {body : String}
    (plain : ∀ c ∈ body.toList, c.isAlpha = false) :
    evaluateConstant ("=" ++ body) =
      (Formula.valueOf .arithmetic body.toList).mapError fun fault => [fault.message] := by
  have formula : Cell.formulaOf? ("=" ++ body).toList = some body.toList := by
    rw [String.toList_append]
    rfl
  rw [evaluateConstant, formula, Formula.valueOf, Option.getD_some]
  cases parsed : Formula.parse .arithmetic body.toList with
  | error fault => rfl
  | ok formula =>
      dsimp only
      rw [Formula.names_of_noLetter plain parsed]
      cases formula.evaluate <;> rfl

/-! ## Messages -/

namespace FormulaError

/-- The first characters of the message, which differ from fault to fault. -/
def opening : FormulaError → List Char
  | .unrecognizedToken _ => ['U', 'n', 'r']
  | .mismatchedParentheses => ['M', 'i', 's']
  | .malformedExpression => ['M', 'a', 'l']
  | .unboundVariable _ => ['V', 'a', 'r']
  | .unknownVariable _ => ['U', 'n', 'k']
  | .unsupportedOperator _ => ['U', 'n', 's']
  | .divideByZero => ['D', 'i', 'v']
  | .invalidCellReference _ => ['I', 'n', 'v']

theorem take_message (fault : FormulaError) : fault.message.toList.take 3 = fault.opening := by
  cases fault with
  | unrecognizedToken text =>
      exact (by simp : ("Unrecognized token: " ++ text).toList.take 3 = ['U', 'n', 'r'])
  | mismatchedParentheses => decide
  | malformedExpression => decide
  | unboundVariable name =>
      exact (by simp : ("Variable " ++ name ++ " has no value").toList.take 3 = ['V', 'a', 'r'])
  | unknownVariable name =>
      exact (by simp : ("Unknown variable: " ++ name).toList.take 3 = ['U', 'n', 'k'])
  | unsupportedOperator symbol =>
      exact (by simp :
        ("Unsupported operator: " ++ symbol.toString).toList.take 3 = ['U', 'n', 's'])
  | divideByZero => decide
  | invalidCellReference name =>
      exact (by simp : ("Invalid cell reference: " ++ name).toList.take 3 = ['I', 'n', 'v'])

/-- A message tells which fault it is about. -/
theorem message_injective {first second : FormulaError} (same : first.message = second.message) :
    first = second := by
  have openings : first.opening = second.opening := by
    rw [← take_message, ← take_message, same]
  cases first <;> cases second <;>
    simp only [opening, List.cons.injEq, Char.reduceEq, false_and, and_false] at openings
  case mismatchedParentheses.mismatchedParentheses => rfl
  case malformedExpression.malformedExpression => rfl
  case divideByZero.divideByZero => rfl
  case unrecognizedToken.unrecognizedToken => rw [(String.append_right_inj _).1 same]
  case unknownVariable.unknownVariable => rw [(String.append_right_inj _).1 same]
  case invalidCellReference.invalidCellReference => rw [(String.append_right_inj _).1 same]
  case unboundVariable.unboundVariable =>
    rw [(String.append_right_inj _).1 ((String.append_left_inj _).1 same)]
  case unsupportedOperator.unsupportedOperator =>
    rw [String.singleton_inj.1 ((String.append_right_inj _).1 same)]

end FormulaError

/-! ## The cell of a cascade that comes first -/

namespace Sheet

variable {sheet : Sheet} {root address : Address} {cell : Cell}

/-- The plan of a recalculation starts with its own cell, which is not taken to be on a cycle if
it is not. -/
theorem Linked.exists_steps_planFrom (linked : sheet.Linked)
    (alone : ¬ OnCycle sheet.graph.Feeds root) :
    ∃ later, (sheet.planFrom root).1.steps = (root, false) :: later := by
  have starts := linked.head?_planFrom root
  have marked := (linked.plans root).marked
  rw [← Cascade.steps_map_fst] at starts
  cases steps : (sheet.planFrom root).1.steps with
  | nil =>
      rw [steps] at starts
      cases starts
  | cons step later =>
      rw [steps] at starts marked
      obtain rfl : step.1 = root := Option.some.inj starts
      have unmarked : step.2 = false := by
        rw [← Bool.not_eq_true, marked step List.mem_cons_self]
        exact alone
      exact ⟨later, by rw [← unmarked]⟩

/-- A cell that is on no cycle is computed before anything else of its cascade has changed.  What
comes out stays, and a fault is the one of the whole recalculation. -/
theorem recalculate_root (linked : sheet.Linked) (inside : sheet.cell? root = some cell)
    (alone : ¬ OnCycle sheet.graph.Feeds root) :
    ∃ working : Sheet, working.cell? root = some cell.evaluating ∧
      working.operators = sheet.operators ∧ working.graph = sheet.graph ∧
      (sheet.recalculate root).sheet.cell? root =
        some (cell.finish (working.compute root false)) ∧
      ∀ fault, working.compute root false = .error fault →
        (sheet.recalculate root).result = .error fault := by
  obtain ⟨later, steps⟩ := linked.exists_steps_planFrom alone
  have contained := contains_of_cell? inside
  have distinct := linked.nodup_steps_planFrom root
  rw [steps, List.map_cons, List.nodup_cons] at distinct
  have present : (sheet.guardedFrom root).cell? root = some cell := inside
  have working : ((sheet.guardedFrom root).setCell root cell.evaluating).cell? root =
      some cell.evaluating := by
    rw [cell?_setCell present, if_pos rfl]
  refine ⟨(sheet.guardedFrom root).setCell root cell.evaluating, working, rfl, rfl, ?_, ?_⟩
  · rw [recalculate_sheet contained (linked.idle root)]
    dsimp only
    rw [steps]
    apply (cell?_evaluateAll_of_notMem distinct.1 _).trans
    exact (cell?_evaluateCell present false root).trans (if_pos rfl)
  · intro fault failed
    rw [recalculate_result linked contained, steps, evaluations, evaluateCell_snd present, failed]
    rfl

/-! ## Constants in cells -/

/-- A cell that reads nothing is on no cycle. -/
theorem Linked.not_onCycle_of_unread (linked : sheet.Linked)
    (unread : sheet.references address = []) : ¬ OnCycle sheet.graph.Feeds address := by
  rw [linked.onCycle_iff]
  intro circular
  obtain ⟨next, -, reads, -⟩ := circular.exists_next
  rw [Reads, unread] at reads
  exact List.not_mem_nil reads

/-- A cell that is given a formula without letters has the value of this text, or it has failed
with the fault of this text, which is the one that is reported. -/
theorem commitText_of_noLetter (linked : sheet.Linked) (inside : sheet.cell? address = some cell)
    {body : String} (plain : ∀ c ∈ body.toList, c.isAlpha = false) :
    ∃ now : Cell, (sheet.commitText address ("=" ++ body)).sheet.cell? address =
        some (now.finish ((Formula.valueOf .arithmetic body.toList).mapError
          (SheetError.formula address))) ∧
      ∀ fault, Formula.valueOf .arithmetic body.toList = .error fault →
        (sheet.commitText address ("=" ++ body)).result = .error (.formula address fault) := by
  have formula : Cell.formulaOf? ("=" ++ body).toList = some body.toList := by
    rw [String.toList_append]
    rfl
  have unread : Cell.referencesOf ("=" ++ body) = [] := by
    rw [Cell.referencesOf, formula]
    exact References.inText_of_noLetter plain
  have linkedNow := linked_withTextLinked linked inside ("=" ++ body)
  have present := cell?_withTextLinked inside ("=" ++ body) address
  have references := references_withTextLinked inside ("=" ++ body) address
  rw [if_pos rfl] at present references
  rw [unread] at references
  obtain ⟨working, there, operators, graph, left, reported⟩ :=
    recalculate_root linkedNow present (linkedNow.not_onCycle_of_unread references)
  have computed : working.compute address false =
      (Formula.valueOf .arithmetic body.toList).mapError (SheetError.formula address) := by
    have evaluated := computeFormula_of_noLetter working address plain
    rw [compute_formula there formula, evaluated, operators, linkedNow.operators]
    rw [graph, linkedNow.precedents, references]
    exact List.not_mem_nil
  rw [computed] at left reported
  rw [commitText_sheet inside, commitText_result inside]
  refine ⟨_, left, ?_⟩
  intro fault failed
  apply reported
  rw [failed]
  rfl

end Sheet

namespace CommandLine

open Sheet

variable {sheet : Sheet} {address : Address} {body : String}

/-- A formula without letters comes to the same on the command line and in a cell of any sheet
in use, whatever the cell held before and whatever depends on it.  Either both give the same
value, or both fail with the same fault of the formula, and the cell shows a marker. -/
theorem evaluateConstant_agrees_of_inUse (used : sheet.InUse)
    (inside : sheet.contains address = true) (plain : ∀ c ∈ body.toList, c.isAlpha = false) :
    let outcome := sheet.setText address ("=" ++ body)
    ∃ cell, outcome.sheet.cell? address = some cell ∧
      ((∃ value, evaluateConstant ("=" ++ body) = .ok value ∧
        cell.state = .settled ∧ cell.value = value ∧ cell.error = none) ∨
      ∃ fault : FormulaError, evaluateConstant ("=" ++ body) = .error [fault.message] ∧
        (∀ other : FormulaError, evaluateConstant ("=" ++ body) = .error [other.message] →
          other = fault) ∧
        outcome.result = .error (.formula address fault) ∧
        cell.state = .errored ∧ cell.value = "#ERR!" ∧ cell.error = some .formula) := by
  intro outcome
  obtain ⟨cell, present⟩ := exists_cell?_of_contains inside
  obtain ⟨start, linked, there, same⟩ :=
    used.consistent.toLinked.exists_commitText present ("=" ++ body)
  have committed : outcome = start.commitText address ("=" ++ body) := same
  obtain ⟨old, left, reported⟩ := commitText_of_noLetter linked there plain
  rw [committed, evaluateConstant_of_noLetter plain]
  refine ⟨_, left, ?_⟩
  cases computed : Formula.valueOf .arithmetic body.toList with
  | ok value => exact .inl ⟨value, rfl, rfl, rfl, rfl⟩
  | error fault =>
      refine .inr ⟨fault, rfl, ?_, reported fault computed, rfl, rfl, rfl⟩
      intro other failed
      have messages := List.cons.inj (Except.error.inj failed)
      exact FormulaError.message_injective messages.1.symm

/-- A cell on a reference cycle that is given a product with a missing factor is an example. -/
theorem evaluateConstant_agrees_on_cycle :
    ∃ sheet, sheet = ((blank 1 2).perform (.setText ⟨0, 0⟩ "=B1")).perform
        (.setText ⟨0, 1⟩ "=A1") ∧ InUse sheet ∧ sheet.contains ⟨0, 0⟩ = true ∧
      (∀ c ∈ "2*".toList, c.isAlpha = false) ∧
      evaluateConstant "=2*" = .error [FormulaError.malformedExpression.message] ∧
      (sheet.setText ⟨0, 0⟩ "=2*").result = .error (.formula ⟨0, 0⟩ .malformedExpression) := by
  have start : (blank 1 2).Reached := reached_blank (by decide)
  have first := start.performed (.setText ⟨0, 0⟩ "=B1")
  have reached := first.performed (.setText ⟨0, 1⟩ "=A1")
  have inside : (((blank 1 2).perform (.setText ⟨0, 0⟩ "=B1")).perform
      (.setText ⟨0, 1⟩ "=A1")).contains ⟨0, 0⟩ = true :=
    (contains_congr (first.dimensions_perform _) ⟨0, 0⟩).trans
      ((contains_congr (start.dimensions_perform _) ⟨0, 0⟩).trans rfl)
  have plain : ∀ c ∈ "2*".toList, c.isAlpha = false := by simp
  have refused : evaluateConstant "=2*" = .error [FormulaError.malformedExpression.message] := by
    decide +kernel
  obtain ⟨cell, present, agree⟩ := evaluateConstant_agrees_of_inUse reached.inUse inside plain
  have whole : "=" ++ "2*" = "=2*" := by decide
  rw [whole] at agree
  refine ⟨_, rfl, reached.inUse, inside, plain, refused, ?_⟩
  rcases agree with ⟨value, given, -⟩ | ⟨fault, -, unique, result, -⟩
  · rw [refused] at given
    cases given
  · rw [unique .malformedExpression refused]
    exact result

end CommandLine

end Worksheet
