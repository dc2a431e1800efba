import Worksheet.Formula.Bindings
import Worksheet.Formula.Operator
import Worksheet.Formula.Token

/-!
# Postfix order

In postfix order an operator stands after its two operands, so parentheses are
not needed.  Tokens are brought into this order in one pass.  Operands go to
the output at once.  An operator waits until an operator that binds less
tightly, the end of its parentheses or the end of the tokens shows that its
right operand is complete.

The pass fails at the first token that it cannot place: a name that is not
declared, an operator that is not in the table, or a closing parenthesis that
closes nothing.  An opening parenthesis that is never closed shows at the end.
-/

namespace Worksheet

/-- An operand or an operator in postfix order. -/
inductive PostfixItem where
  | number (value : Float)
  | name (text : String)
  | operator (operator : Operator)

/-- An item as it is shown in a list of items. -/
def PostfixItem.toText : PostfixItem → String
  | .number value => Decimal.write value
  | .name text => text
  | .operator op => op.symbol.toString

namespace Postfix

/-- What waits for its right operand or for its closing parenthesis. -/
inductive Waiting where
  | operator (operator : Operator)
  | openParen

/-- A conversion in progress, both lists with the newest entry first. -/
structure Conversion where
  output : List PostfixItem
  waiting : List Waiting

/-- Nothing has been read. -/
def Conversion.start : Conversion :=
  ⟨[], []⟩

/-- Move to the output the waiting operators that must be finished before an
incoming one. -/
def finishBefore (incoming : Operator) (output : List PostfixItem) :
    List Waiting → Conversion
  | .operator top :: waiting =>
      if top.popsBefore incoming then finishBefore incoming (.operator top :: output) waiting
      else ⟨output, .operator top :: waiting⟩
  | waiting => ⟨output, waiting⟩

/-- Move to the output the operators that wait inside the innermost parentheses,
and close these.  Nothing is left to close if no parenthesis waits. -/
def closeParen? (output : List PostfixItem) : List Waiting → Option Conversion
  | .operator top :: waiting => closeParen? (.operator top :: output) waiting
  | .openParen :: waiting => some ⟨output, waiting⟩
  | [] => none

/-- Move all waiting operators to the output, unless a parenthesis waits. -/
def finish? (output : List PostfixItem) : List Waiting → Option (List PostfixItem)
  | .operator top :: waiting => finish? (.operator top :: output) waiting
  | .openParen :: _ => none
  | [] => some output

/-- Place one token. -/
def Conversion.step (table : OperatorTable) (bindings : Bindings) (state : Conversion) :
    Token → Except FormulaError Conversion
  | .number value => .ok { state with output := .number value :: state.output }
  | .name text =>
      if bindings.contains text then
        .ok { state with output := .name text :: state.output }
      else .error (.unknownVariable text)
  | .operator symbol =>
      match table.lookup symbol with
      | .error fault => .error fault
      | .ok incoming =>
          let finished := finishBefore incoming state.output state.waiting
          .ok { finished with waiting := .operator incoming :: finished.waiting }
  | .openParen => .ok { state with waiting := .openParen :: state.waiting }
  | .closeParen =>
      match closeParen? state.output state.waiting with
      | some closed => .ok closed
      | none => .error .mismatchedParentheses

/-- Place all tokens, from left to right. -/
def Conversion.run (table : OperatorTable) (bindings : Bindings) (state : Conversion) :
    List Token → Except FormulaError Conversion
  | [] => .ok state
  | token :: rest =>
      match state.step table bindings token with
      | .error fault => .error fault
      | .ok placed => placed.run table bindings rest

/-- The tokens in postfix order. -/
def ofTokens (table : OperatorTable) (bindings : Bindings) (tokens : List Token) :
    Except FormulaError (List PostfixItem) :=
  match Conversion.start.run table bindings tokens with
  | .error fault => .error fault
  | .ok state =>
      match finish? state.output state.waiting with
      | some output => .ok output.reverse
      | none => .error .mismatchedParentheses

end Postfix

end Worksheet
