import Worksheet.Formula.Expression
import Worksheet.Formula.TokenStream

/-!
# Formulas

A formula is an expression together with the variables that its text names.
Reading a text finds the tokens, declares every name, brings the tokens into
postfix order and builds the tree; the first of these steps that fails decides
the error.  A blank text is a formula without an expression, which has no value.
-/

namespace Worksheet

/-- A formula that has been read, with the values given to its variables. -/
structure Formula where
  root : Option Expression
  bindings : Bindings

namespace Formula

/-- The names among some tokens, in order. -/
def namesOf (tokens : List Token) : List String :=
  tokens.filterMap fun
    | .name text => some text
    | _ => none

/-- The formula that some tokens stand for. -/
def ofTokens (table : OperatorTable) (tokens : List Token) : Except FormulaError Formula :=
  let bindings := Bindings.empty.declareAll (namesOf tokens)
  match Postfix.ofTokens table bindings tokens with
  | .error fault => .error fault
  | .ok items =>
      match Expression.ofPostfix items with
      | .error fault => .error fault
      | .ok root => .ok ⟨root, bindings⟩

/-- Read a formula text. -/
def parse (table : OperatorTable) (text : List Char) : Except FormulaError Formula :=
  match TokenStream.tokens? text with
  | .error fault => .error fault
  | .ok tokens => ofTokens table tokens

/-- The variables in the order in which the text names them. -/
def names (formula : Formula) : List String :=
  formula.bindings.names

/-- Give a variable a value. -/
def set (formula : Formula) (name : String) (value : Float) : Except FormulaError Formula :=
  match formula.bindings.set name value with
  | .error fault => .error fault
  | .ok bindings => .ok { formula with bindings }

/-- The value of a formula with the values of its variables as they are. -/
def evaluate (formula : Formula) : Except FormulaError Float :=
  match formula.root with
  | none => .error .malformedExpression
  | some root => root.evaluate formula.bindings

end Formula

end Worksheet
