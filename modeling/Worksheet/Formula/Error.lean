/-!
# Faults of formulas

Each way in which a formula can fail to be read or to have a value, with the
message that names it.
-/

namespace Worksheet

/-- The causes for which a formula has no value. -/
inductive FormulaError where
  /-- The text holds something that is not a number, a name, an operator or a parenthesis. -/
  | unrecognizedToken (text : String)
  /-- A parenthesis has no partner. -/
  | mismatchedParentheses
  /-- Operands and operators do not fit together. -/
  | malformedExpression
  /-- A declared variable has not been given a value. -/
  | unboundVariable (name : String)
  /-- A variable has not been declared. -/
  | unknownVariable (name : String)
  /-- The operator table does not hold this symbol. -/
  | unsupportedOperator (symbol : Char)
  | divideByZero
  /-- A name denotes no cell, or a cell outside the grid. -/
  | invalidCellReference (name : String)
  deriving DecidableEq, Repr

/-- The message for a fault. -/
def FormulaError.message : FormulaError → String
  | .unrecognizedToken text => "Unrecognized token: " ++ text
  | .mismatchedParentheses => "Mismatched parentheses"
  | .malformedExpression => "Malformed expression"
  | .unboundVariable name => "Variable " ++ name ++ " has no value"
  | .unknownVariable name => "Unknown variable: " ++ name
  | .unsupportedOperator symbol => "Unsupported operator: " ++ symbol.toString
  | .divideByZero => "Division by zero"
  | .invalidCellReference name => "Invalid cell reference: " ++ name

end Worksheet
