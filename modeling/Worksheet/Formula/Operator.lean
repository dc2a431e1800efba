import Worksheet.Formula.Error

/-!
# Operators

A formula may use the binary operators of a table.  Each has a symbol, a
precedence, of which the smaller binds tighter, a side to which operators of
equal precedence group, and a rule that computes its value or fails.
-/

namespace Worksheet

/-- How operators of equal precedence group. -/
inductive Associativity where
  | left
  | right
  deriving DecidableEq, Repr

/-- A binary operator. -/
structure Operator where
  symbol : Char
  /-- The smaller binds tighter. -/
  precedence : Nat
  associativity : Associativity
  apply : Float → Float → Except FormulaError Float

namespace Operator

/-- Must an operator that waits for its right operand be finished before the
incoming operator can take what has been read so far as its left operand? -/
def popsBefore (waiting incoming : Operator) : Bool :=
  match incoming.associativity with
  | .left => waiting.precedence ≤ incoming.precedence
  | .right => waiting.precedence < incoming.precedence

/-- Do two operators have the same symbol, precedence and associativity? -/
def same (a b : Operator) : Bool :=
  a.symbol == b.symbol && a.precedence == b.precedence && a.associativity == b.associativity

end Operator

/-- Division, which fails if the divisor is a zero of either sign. -/
def divide (left right : Float) : Except FormulaError Float :=
  if right == 0 then .error .divideByZero else .ok (left / right)

/-- The operators that a formula may use. -/
structure OperatorTable where
  operators : List Operator

namespace OperatorTable

/-- The table without operators. -/
def empty : OperatorTable :=
  ⟨[]⟩

/-- Add an operator, in place of an older one with its symbol. -/
def register (table : OperatorTable) (operator : Operator) : OperatorTable :=
  ⟨operator :: table.operators.filter (·.symbol != operator.symbol)⟩

/-- The operator with a symbol. -/
def find? (table : OperatorTable) (symbol : Char) : Option Operator :=
  table.operators.find? (·.symbol == symbol)

/-- The operator with a symbol, or the error that there is none. -/
def lookup (table : OperatorTable) (symbol : Char) : Except FormulaError Operator :=
  match table.find? symbol with
  | some operator => .ok operator
  | none => .error (.unsupportedOperator symbol)

/-- Does the table hold an operator with this symbol? -/
def contains (table : OperatorTable) (symbol : Char) : Bool :=
  (table.find? symbol).isSome

/-- The four operators of arithmetic.  Products bind tighter than sums, and all
four group to the left. -/
def arithmetic : OperatorTable :=
  [ ⟨'+', 2, .left, fun left right => .ok (left + right)⟩,
    ⟨'-', 2, .left, fun left right => .ok (left - right)⟩,
    ⟨'*', 1, .left, fun left right => .ok (left * right)⟩,
    ⟨'/', 1, .left, divide⟩ ].foldl register empty

/-- An operator found in a table has the symbol it was looked up by. -/
theorem symbol_of_find? {table : OperatorTable} {symbol : Char} {operator : Operator}
    (h : table.find? symbol = some operator) : operator.symbol = symbol := by
  simpa using List.find?_some h

/-- A registered operator is the one found by its symbol. -/
@[simp]
theorem find?_register_self (table : OperatorTable) (operator : Operator) :
    (table.register operator).find? operator.symbol = some operator := by
  simp [register, find?]

end OperatorTable

end Worksheet
