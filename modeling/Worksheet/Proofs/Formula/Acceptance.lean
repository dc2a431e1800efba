import Worksheet.Proofs.Formula.Derivable
import Worksheet.Proofs.Formula.Naming
import Worksheet.Proofs.Formula.Rendering

/-!
# Accepted formulas

The pass that brings tokens into postfix order does not look at which tokens stand
next to each other.  It only notices a parenthesis that closes nothing or is not
closed, and the tree is built if no operator lacks an operand and one expression is
left.

The main statement says which token lists are accepted although the grammar does not
derive them.  They are those in which an operand stands directly behind another, with
the operators that join them elsewhere.  In all other lists that are accepted,
operands and operators take turns.  Every derivable list is accepted.
-/

namespace Worksheet

open Token

/-! ## Surplus of operands -/

/-- What an item adds to the expressions that are left over. -/
def PostfixItem.surplus : PostfixItem → Int
  | number _ | name _ => 1
  | operator _ => -1

namespace Expression

/-- The stack grows by the surplus of the items. -/
theorem length_pushAll {stack result : List Expression} {items : List PostfixItem}
    (pushed : pushAll stack items = .ok result) :
    (result.length : Int) = stack.length + (items.map PostfixItem.surplus).sum := by
  induction items generalizing stack with
  | nil =>
      cases pushed
      simp
  | cons item items ih =>
      rw [pushAll] at pushed
      split at pushed
      · cases pushed
      · next placed first =>
          have behind := ih pushed
          rw [List.map_cons, List.sum_cons]
          have step : (placed.length : Int) = stack.length + item.surplus := by
            cases item with
            | number value | name text =>
                cases first
                rfl
            | operator op =>
                simp only [push] at first
                split at first
                · cases first
                  simp only [PostfixItem.surplus, List.length_cons]
                  omega
                · cases first
          omega

/-- Operators find their operands on a stack with more expressions than operators. -/
theorem exists_pushAll_operators {stack : List Expression} {pending : List Operator}
    (enough : pending.length < stack.length) :
    ∃ joined, pushAll stack (pending.map PostfixItem.operator) = .ok joined := by
  induction pending generalizing stack with
  | nil => exact ⟨stack, rfl⟩
  | cons op pending ih =>
      match stack, enough with
      | right :: left :: rest, enough =>
          have fewer : pending.length < (binary op left right :: rest).length := by
            simpa using enough
          exact ih fewer

theorem pushAll_append {stack middle : List Expression} {first : List PostfixItem}
    (pushed : pushAll stack first = .ok middle) (second : List PostfixItem) :
    pushAll stack (first ++ second) = pushAll middle second := by
  induction first generalizing stack with
  | nil =>
      cases pushed
      rfl
  | cons item first ih =>
      rw [pushAll] at pushed
      rw [List.cons_append, pushAll]
      split at pushed
      · cases pushed
      · exact ih pushed

theorem ofPostfix_eq_some_iff {items : List PostfixItem} {expression : Expression} :
    ofPostfix items = .ok (some expression) ↔ pushAll [] items = .ok [expression] := by
  unfold ofPostfix
  split <;> simp_all

end Expression

namespace Postfix

variable {table : OperatorTable} {bindings : Bindings}

namespace Waiting

/-- What an entry that waits takes from the expressions that are left over. -/
def surplus : Waiting → Int
  | operator _ => -1
  | openParen => 0

/-- The parentheses that an entry opens. -/
def depth : Waiting → Nat
  | operator _ => 0
  | openParen => 1

end Waiting

namespace Conversion

/-- The expressions that are left over once everything that waits is finished. -/
def surplus (state : Conversion) : Int :=
  (state.output.map PostfixItem.surplus).sum + (state.waiting.map Waiting.surplus).sum

/-- The parentheses that are open. -/
def depth (state : Conversion) : Nat :=
  (state.waiting.map Waiting.depth).sum

end Conversion

/-! ## What waits -/

theorem sum_surplus_pending (pending : List Operator) (waiting : List Waiting) :
    ((pending.map Waiting.operator ++ waiting).map Waiting.surplus).sum =
      (waiting.map Waiting.surplus).sum - pending.length := by
  induction pending with
  | nil => simp
  | cons op pending ih =>
      simp only [List.map_cons, List.cons_append, List.sum_cons, Waiting.surplus, ih,
        List.length_cons]
      omega

theorem sum_surplus_nonpos (waiting : List Waiting) :
    (waiting.map Waiting.surplus).sum ≤ 0 := by
  induction waiting with
  | nil => simp
  | cons entry waiting ih =>
      cases entry <;> simp only [List.map_cons, List.sum_cons, Waiting.surplus] <;> omega

theorem sum_depth_pending (pending : List Operator) (waiting : List Waiting) :
    ((pending.map Waiting.operator ++ waiting).map Waiting.depth).sum =
      (waiting.map Waiting.depth).sum := by
  induction pending with
  | nil => rfl
  | cons op pending ih => simpa [Waiting.depth] using ih

theorem sum_surplus_emit (output : List PostfixItem) (pending : List Operator) :
    ((emit output pending).map PostfixItem.surplus).sum =
      (output.map PostfixItem.surplus).sum - pending.length := by
  induction pending generalizing output with
  | nil => simp [emit]
  | cons op pending ih =>
      rw [emit_cons, ih]
      simp only [List.map_cons, List.sum_cons, PostfixItem.surplus, List.length_cons]
      omega

/-- The operators on top of the innermost open parenthesis. -/
theorem exists_pending (waiting : List Waiting) :
    ∃ pending : List Operator, waiting = pending.map Waiting.operator ∨
      ∃ outer, waiting = pending.map Waiting.operator ++ .openParen :: outer := by
  induction waiting with
  | nil => exact ⟨[], .inl rfl⟩
  | cons entry waiting ih =>
      cases entry with
      | openParen => exact ⟨[], .inr ⟨waiting, rfl⟩⟩
      | operator op =>
          obtain ⟨pending, rfl | ⟨outer, rfl⟩⟩ := ih
          · exact ⟨op :: pending, .inl rfl⟩
          · exact ⟨op :: pending, .inr ⟨outer, rfl⟩⟩

/-- The operators on top that an incoming one finishes. -/
theorem exists_popped (incoming : Operator) (waiting : List Waiting) :
    ∃ (popped : List Operator) (rest : List Waiting),
      waiting = popped.map Waiting.operator ++ rest ∧
      (∀ op ∈ popped, op.popsBefore incoming = true) ∧ Admits rest incoming := by
  induction waiting with
  | nil => exact ⟨[], [], rfl, by simp, by simp [Admits]⟩
  | cons entry waiting ih =>
      cases entry with
      | openParen => exact ⟨[], _, rfl, by simp, by simp [Admits]⟩
      | operator op =>
          cases pops : op.popsBefore incoming with
          | false =>
              refine ⟨[], _, rfl, by simp, ?_⟩
              rintro top rest ⟨⟩
              exact pops
          | true =>
              obtain ⟨popped, rest, rfl, all, admits⟩ := ih
              exact ⟨op :: popped, rest, rfl, List.forall_mem_cons.2 ⟨pops, all⟩, admits⟩

theorem closeParen?_of_unopened (output : List PostfixItem) (pending : List Operator) :
    closeParen? output (pending.map Waiting.operator) = none := by
  induction pending generalizing output with
  | nil => rfl
  | cons op pending ih => exact ih _

theorem finish?_of_unclosed (output : List PostfixItem) (pending : List Operator)
    (outer : List Waiting) :
    finish? output (pending.map Waiting.operator ++ .openParen :: outer) = none := by
  induction pending generalizing output with
  | nil => rfl
  | cons op pending ih => exact ih _

/-! ## Counting -/

namespace Conversion

variable {state placed final : Conversion}

/-- A step adds the surplus of its token and opens or closes its parenthesis. -/
theorem counts_of_step {token : Token} (step : state.step table bindings token = .ok placed) :
    placed.surplus = state.surplus + token.surplus ∧
      ∀ rest, Closes placed.depth rest ↔ Closes state.depth (token :: rest) := by
  obtain ⟨output, waiting⟩ := state
  cases token with
  | number value =>
      cases step
      simp only [surplus, depth, List.map_cons, List.sum_cons, Token.surplus,
        PostfixItem.surplus, Closes]
      exact ⟨by omega, fun _ => trivial⟩
  | name text =>
      simp only [Conversion.step] at step
      split at step
      · cases step
        simp only [surplus, depth, List.map_cons, List.sum_cons, Token.surplus,
          PostfixItem.surplus, Closes]
        exact ⟨by omega, fun _ => trivial⟩
      · cases step
  | operator symbol =>
      simp only [Conversion.step] at step
      split at step
      · cases step
      · next incoming _ =>
          obtain ⟨popped, rest, rfl, pops, admits⟩ := exists_popped incoming waiting
          rw [finishBefore_pending pops admits] at step
          cases step
          simp only [surplus, depth, sum_surplus_emit, sum_surplus_pending, sum_depth_pending,
            List.map_cons, List.sum_cons, Token.surplus, Waiting.surplus, Waiting.depth, Closes,
            Nat.zero_add]
          exact ⟨by omega, fun _ => trivial⟩
  | openParen =>
      cases step
      simp only [surplus, depth, List.map_cons, List.sum_cons, Token.surplus, Waiting.surplus,
        Waiting.depth, Closes, Nat.add_comm 1]
      exact ⟨by omega, fun _ => trivial⟩
  | closeParen =>
      simp only [Conversion.step] at step
      obtain ⟨pending, rfl | ⟨outer, rfl⟩⟩ := exists_pending waiting
      · rw [closeParen?_of_unopened] at step
        cases step
      · rw [closeParen?_pending] at step
        cases step
        simp only [surplus, depth, sum_surplus_emit, sum_surplus_pending, sum_depth_pending,
          List.map_cons, List.sum_cons, Token.surplus, Waiting.surplus, Waiting.depth,
          Nat.add_comm 1, Closes]
        exact ⟨by omega, fun _ => trivial⟩

/-- A run adds the surplus of its tokens and ends with the parentheses closed if the
tokens close them. -/
theorem counts_of_run {tokens : List Token} (run : state.run table bindings tokens = .ok final) :
    final.surplus = state.surplus + (tokens.map Token.surplus).sum ∧
      (final.depth = 0 ↔ Closes state.depth tokens) := by
  induction tokens generalizing state with
  | nil =>
      cases run
      simp [Closes]
  | cons token tokens ih =>
      rw [Conversion.run] at run
      split at run
      · cases run
      · next placed step =>
          obtain ⟨surplus, depth⟩ := counts_of_step step
          obtain ⟨total, closed⟩ := ih run
          rw [List.map_cons, List.sum_cons, total, surplus, closed, depth]
          exact ⟨by omega, Iff.rfl⟩

end Conversion

/-! ## Placing tokens that take turns -/

/-- No operator of an output, which has the newest item first, lacks an operand. -/
def Folds (output : List PostfixItem) : Prop :=
  ∃ stack, Expression.pushAll [] output.reverse = .ok stack

namespace Folds

variable {output : List PostfixItem}

theorem number (folds : Folds output) (value : Float) : Folds (.number value :: output) := by
  obtain ⟨stack, pushed⟩ := folds
  rw [Folds, List.reverse_cons, Expression.pushAll_append pushed]
  exact ⟨_, rfl⟩

theorem name (folds : Folds output) (text : String) : Folds (.name text :: output) := by
  obtain ⟨stack, pushed⟩ := folds
  rw [Folds, List.reverse_cons, Expression.pushAll_append pushed]
  exact ⟨_, rfl⟩

theorem emit (folds : Folds output) {pending : List Operator}
    (enough : (pending.length : Int) < (output.map PostfixItem.surplus).sum) :
    Folds (Postfix.emit output pending) := by
  obtain ⟨stack, pushed⟩ := folds
  have length := Expression.length_pushAll pushed
  rw [List.map_reverse, List.sum_reverse, List.length_nil] at length
  rw [Folds, Postfix.emit, List.reverse_append, List.reverse_reverse,
    Expression.pushAll_append pushed]
  exact Expression.exists_pushAll_operators (by omega)

end Folds

namespace Conversion

/-- No operator lacks an operand, and one expression is left over if the last token ends
an operand. -/
structure Ready (state : Conversion) (afterOperand : Bool) : Prop where
  folds : Folds state.output
  surplus : state.surplus = if afterOperand then 1 else 0

variable {state : Conversion} {afterOperand : Bool}

/-- Behind an operand, everything that waits has its operands. -/
theorem Ready.emit {output : List PostfixItem} {pending : List Operator} {rest : List Waiting}
    (ready : Ready ⟨output, pending.map Waiting.operator ++ rest⟩ true) :
    Folds (Postfix.emit output pending) := by
  have folds : Folds output := ready.folds
  have left := ready.surplus
  have bound := sum_surplus_nonpos rest
  simp only [Conversion.surplus, sum_surplus_pending, if_true] at left
  exact folds.emit (by omega)

/-- A token whose turn it is can be placed. -/
theorem exists_step_of_alternates {token : Token} {tokens : List Token}
    (ready : state.Ready afterOperand)
    (alternates : Alternates afterOperand state.depth (token :: tokens))
    (known : ∀ symbol, token = .operator symbol → table.contains symbol = true)
    (declared : ∀ text, token = .name text → bindings.contains text = true) :
    ∃ placed, state.step table bindings token = .ok placed ∧
      placed.Ready token.endsOperand ∧ Alternates token.endsOperand placed.depth tokens := by
  obtain ⟨output, waiting⟩ := state
  -- The surplus follows from counting; what is left are the step and the depth.
  suffices steps : ∃ placed, Conversion.step table bindings ⟨output, waiting⟩ token = .ok placed ∧
      Folds placed.output ∧ Alternates token.endsOperand placed.depth tokens by
    obtain ⟨placed, step, folds, turns⟩ := steps
    have counted := (counts_of_step step).1
    rw [ready.surplus] at counted
    refine ⟨placed, step, ⟨folds, ?_⟩, turns⟩
    cases token <;> cases afterOperand <;> first | exact counted | exact alternates.elim
  match afterOperand, token, alternates with
  | false, .number value, turns => exact ⟨_, rfl, ready.folds.number value, turns⟩
  | false, .name text, turns =>
      refine ⟨⟨.name text :: output, waiting⟩, ?_, ready.folds.name text, turns⟩
      simp [Conversion.step, declared text rfl]
  | false, .openParen, turns =>
      refine ⟨⟨output, .openParen :: waiting⟩, rfl, ready.folds, ?_⟩
      rw [Conversion.depth, List.map_cons, List.sum_cons, Nat.add_comm]
      exact turns
  | true, .operator symbol, turns =>
      obtain ⟨incoming, found⟩ := Option.isSome_iff_exists.1 (known symbol rfl)
      obtain ⟨popped, rest, rfl, pops, admits⟩ := exists_popped incoming waiting
      refine ⟨⟨Postfix.emit output popped, .operator incoming :: rest⟩, ?_, ready.emit, ?_⟩
      · simp [Conversion.step, OperatorTable.lookup, found, finishBefore_pending pops admits]
      · rw [Conversion.depth, sum_depth_pending] at turns
        rw [Conversion.depth, List.map_cons, List.sum_cons, Waiting.depth, Nat.zero_add]
        exact turns
  | true, .closeParen, turns =>
      obtain ⟨pending, rfl | ⟨outer, rfl⟩⟩ := exists_pending waiting
      · rw [Conversion.depth, ← List.append_nil (pending.map _), sum_depth_pending] at turns
        exact turns.elim
      · refine ⟨⟨Postfix.emit output pending, outer⟩, ?_, ready.emit, ?_⟩
        · simp [Conversion.step, closeParen?_pending]
        · rw [Conversion.depth, sum_depth_pending, List.map_cons, List.sum_cons, Waiting.depth,
            Nat.add_comm] at turns
          exact turns

/-- Tokens that take turns can all be placed. -/
theorem exists_run_of_alternates {tokens : List Token} (ready : state.Ready afterOperand)
    (alternates : Alternates afterOperand state.depth tokens)
    (known : ∀ symbol, .operator symbol ∈ tokens → table.contains symbol = true)
    (declared : ∀ text, .name text ∈ tokens → bindings.contains text = true) :
    ∃ final, state.run table bindings tokens = .ok final ∧ final.Ready true ∧ final.depth = 0 := by
  induction tokens generalizing state afterOperand with
  | nil =>
      match afterOperand, depth : state.depth, alternates with
      | true, 0, _ => exact ⟨state, rfl, ready, depth⟩
  | cons token tokens ih =>
      obtain ⟨placed, step, readied, turns⟩ := exists_step_of_alternates ready alternates
        (fun symbol first => known symbol (first ▸ List.mem_cons_self))
        (fun text first => declared text (first ▸ List.mem_cons_self))
      obtain ⟨final, run, finished⟩ := ih readied turns
        (fun symbol member => known symbol (List.mem_cons_of_mem _ member))
        (fun text member => declared text (List.mem_cons_of_mem _ member))
      refine ⟨final, ?_, finished⟩
      rw [Conversion.run, step]
      exact run

end Conversion

/-! ## Accepted token lists -/

theorem sum_surplus_finished (output : List PostfixItem) (pending : List Operator) :
    ((emit output pending).reverse.map PostfixItem.surplus).sum =
      (Conversion.mk output (pending.map Waiting.operator)).surplus := by
  have waiting := sum_surplus_pending pending []
  rw [List.append_nil] at waiting
  rw [List.map_reverse, List.sum_reverse, sum_surplus_emit, Conversion.surplus, waiting,
    List.map_nil, List.sum_nil]
  dsimp only
  omega

/-- An accepted list closes its parentheses and has one operand more than operators. -/
theorem counts_of_accepted {tokens : List Token} {items : List PostfixItem}
    {expression : Expression} (ordered : ofTokens table bindings tokens = .ok items)
    (built : Expression.ofPostfix items = .ok (some expression)) :
    Closes 0 tokens ∧ (tokens.map Token.surplus).sum = 1 := by
  unfold ofTokens at ordered
  split at ordered
  · cases ordered
  · next final run =>
      obtain ⟨total, closed⟩ := Conversion.counts_of_run run
      obtain ⟨output, waiting⟩ := final
      obtain ⟨pending, rfl | ⟨outer, rfl⟩⟩ := exists_pending waiting
      · rw [finish?_pending] at ordered
        cases ordered
        have length := Expression.length_pushAll (Expression.ofPostfix_eq_some_iff.1 built)
        rw [sum_surplus_finished, total] at length
        have depth := sum_depth_pending pending []
        rw [List.append_nil] at depth
        refine ⟨closed.1 depth, ?_⟩
        simpa [Conversion.surplus, Conversion.start] using length.symm
      · rw [finish?_of_unclosed] at ordered
        cases ordered

/-- Every derivable list with operators of the table and declared names is accepted. -/
theorem accepted_of_derivable {tokens : List Token} (derivable : Derivable tokens)
    (known : ∀ symbol, .operator symbol ∈ tokens → table.contains symbol = true)
    (declared : ∀ text, .name text ∈ tokens → bindings.contains text = true) :
    ∃ items expression, ofTokens table bindings tokens = .ok items ∧
      Expression.ofPostfix items = .ok (some expression) := by
  have turns := derivable_iff_alternates.1 derivable
  have start : Conversion.start.Ready false := ⟨⟨[], rfl⟩, rfl⟩
  obtain ⟨⟨output, waiting⟩, run, ready, closed⟩ :=
    Conversion.exists_run_of_alternates start turns known declared
  obtain ⟨pending, rfl | ⟨outer, rfl⟩⟩ := exists_pending waiting
  · have whole : Conversion.Ready ⟨output, pending.map Waiting.operator ++ []⟩ true := by
      rwa [List.append_nil]
    obtain ⟨stack, pushed⟩ := whole.emit
    have length := Expression.length_pushAll pushed
    rw [sum_surplus_finished, ready.surplus] at length
    have one : stack.length = 1 := by
      simp only [if_true, List.length_nil] at length
      omega
    obtain ⟨expression, rfl⟩ := List.length_eq_one_iff.1 one
    refine ⟨(emit output pending).reverse, expression, ?_,
      Expression.ofPostfix_eq_some_iff.2 pushed⟩
    simp only [ofTokens, run, finish?_pending]
  · rw [Conversion.depth, sum_depth_pending, List.map_cons, List.sum_cons, Waiting.depth] at closed
    omega

end Postfix

/-! ## Accepted texts -/

namespace Formula

variable {table : OperatorTable} {text : List Char} {tokens : List Token}

/-- All names of the tokens are declared when they are put into postfix order. -/
theorem contains_declareAll_namesOf {name : String} (member : .name name ∈ tokens) :
    (Bindings.empty.declareAll (namesOf tokens)).contains name = true := by
  have names := Bindings.names_declareAll (namesOf tokens) [] Bindings.empty rfl
  have listed : name ∈ (Bindings.empty.declareAll (namesOf tokens)).names := by
    rw [names, List.mem_eraseDups, List.nil_append, namesOf, List.mem_filterMap]
    exact ⟨_, member, rfl⟩
  rw [Bindings.names, List.mem_map] at listed
  obtain ⟨entry, among, same⟩ := listed
  exact List.any_eq_true.2 ⟨entry, among, beq_iff_eq.2 same⟩

/-- A text has a tree if the two steps from its tokens to a tree succeed. -/
theorem parse_eq_ok_iff (read : TokenStream.tokens? text = .ok tokens) {formula : Formula} :
    parse table text = .ok formula ↔
      formula.bindings = Bindings.empty.declareAll (namesOf tokens) ∧
        ∃ items, Postfix.ofTokens table formula.bindings tokens = .ok items ∧
          Expression.ofPostfix items = .ok formula.root := by
  obtain ⟨root, bindings⟩ := formula
  rw [parse, read]
  simp only [ofTokens]
  constructor
  · intro accepted
    split at accepted
    · cases accepted
    · next items ordered =>
        split at accepted
        · cases accepted
        · next built =>
            cases accepted
            exact ⟨rfl, items, ordered, built⟩
  · rintro ⟨rfl, items, ordered, built⟩
    simp only [ordered, built]

/-- An accepted text with a tree is an infix expression exactly if no operand stands
directly behind another.  Where operands do not meet, every text that is not an infix
expression is refused, by reading it or by computing its value.  Every infix expression
with known operators is accepted. -/
theorem derivable_iff_separated_of_accepted (read : TokenStream.tokens? text = .ok tokens) :
    (∀ formula root, parse table text = .ok formula → formula.root = some root →
      (Derivable tokens ↔ Separated tokens)) ∧
    (Separated tokens → ¬ Derivable tokens →
      (∃ fault, parse table text = .error fault) ∨
        ∃ formula, parse table text = .ok formula ∧ ∀ bindings,
          Formula.evaluate { formula with bindings } = .error .malformedExpression) ∧
    (Derivable tokens → (∀ symbol, .operator symbol ∈ tokens → table.contains symbol = true) →
      ∃ formula root, parse table text = .ok formula ∧ formula.root = some root) := by
  have infix_iff : ∀ formula root, parse table text = .ok formula → formula.root = some root →
      (Derivable tokens ↔ Separated tokens) := by
    intro formula root parsed isRoot
    obtain ⟨-, items, ordered, built⟩ := (parse_eq_ok_iff read).1 parsed
    rw [isRoot] at built
    obtain ⟨closed, surplus⟩ := Postfix.counts_of_accepted ordered built
    rw [derivable_iff]
    exact ⟨fun derivable => derivable.2.1, fun separated => ⟨closed, separated, surplus⟩⟩
  refine ⟨infix_iff, ?_, ?_⟩
  · intro separated underivable
    cases parsed : parse table text with
    | error fault => exact .inl ⟨fault, rfl⟩
    | ok formula =>
        refine .inr ⟨formula, rfl, fun bindings => ?_⟩
        cases isRoot : formula.root with
        | some root => exact absurd ((infix_iff formula root parsed isRoot).2 separated) underivable
        | none => simp only [evaluate]
  · intro derivable known
    obtain ⟨items, root, ordered, built⟩ := Postfix.accepted_of_derivable derivable known
      fun name member => contains_declareAll_namesOf member
    exact ⟨⟨some root, _⟩, root, (parse_eq_ok_iff read).2 ⟨rfl, items, ordered, built⟩, rfl⟩

/-- Evaluating the steps shows that a text has a tree and what holds of its tokens. -/
theorem exists_tree_of_check {check : List Token → Bool}
    (checked : (match TokenStream.tokens? text, parse table text with
      | .ok tokens, .ok formula => formula.root.isSome && check tokens
      | _, _ => false) = true) :
    ∃ tokens formula root, TokenStream.tokens? text = .ok tokens ∧
      parse table text = .ok formula ∧ formula.root = some root ∧ check tokens = true := by
  split at checked
  · next tokens formula read parsed =>
      obtain ⟨rooted, holds⟩ := Bool.and_eq_true_iff.1 checked
      obtain ⟨root, isRoot⟩ := Option.isSome_iff_exists.1 rooted
      exact ⟨tokens, formula, root, read, parsed, isRoot, holds⟩
  · cases checked

/-- No operands meet in a product with a sum, so it is an infix expression. -/
theorem derivable_of_product_with_sum :
    ∃ tokens formula, TokenStream.tokens? "A1*(B2+3)".toList = .ok tokens ∧
      parse .arithmetic "A1*(B2+3)".toList = .ok formula ∧ Derivable tokens := by
  have checked : (match TokenStream.tokens? "A1*(B2+3)".toList,
        parse .arithmetic "A1*(B2+3)".toList with
      | .ok tokens, .ok formula => formula.root.isSome && decide (Separated tokens)
      | _, _ => false) = true := by
    decide +kernel
  obtain ⟨tokens, formula, root, read, parsed, isRoot, apart⟩ := exists_tree_of_check checked
  have infix_iff := (derivable_iff_separated_of_accepted read).1 formula root parsed isRoot
  exact ⟨tokens, formula, read, parsed, infix_iff.2 (of_decide_eq_true apart)⟩

/-- Two operands that meet are accepted with their operator behind them. -/
theorem not_derivable_of_operator_behind :
    ∃ tokens formula root, TokenStream.tokens? "3 4+".toList = .ok tokens ∧
      parse .arithmetic "3 4+".toList = .ok formula ∧ formula.root = some root ∧
      ¬ Derivable tokens := by
  have checked : (match TokenStream.tokens? "3 4+".toList, parse .arithmetic "3 4+".toList with
      | .ok tokens, .ok formula => formula.root.isSome && !decide (Separated tokens)
      | _, _ => false) = true := by
    decide +kernel
  obtain ⟨tokens, formula, root, read, parsed, isRoot, meet⟩ := exists_tree_of_check checked
  refine ⟨tokens, formula, root, read, parsed, isRoot, fun derivable => ?_⟩
  have apart := (derivable_iff.1 derivable).2.1
  simp [apart] at meet

end Formula

end Worksheet
