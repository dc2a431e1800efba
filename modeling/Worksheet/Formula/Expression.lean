import Worksheet.Formula.Bindings
import Worksheet.Formula.Operator
import Worksheet.Formula.Postfix

/-!
# Expressions

An expression is a tree of constants, names of variables and binary operators.  It is
built from postfix order with a stack, and it is evaluated with a stack of
tasks and a stack of values, so its depth is not limited by the depth of
recursion.  The value is that of the recursive rule `value`: the left operand
first, then the right one, then the operator, stopping at the first error.
-/

namespace Worksheet

/-- A formula as a tree. -/
inductive Expression where
  | constant (value : Float)
  | name (text : String)
  | binary (operator : Operator) (left right : Expression)

namespace Expression

/-- Do two expressions have the same shape, names, numbers and operators?  As
for all comparisons of numbers, both zeros are the same and a number that is
not one differs from itself. -/
def same : Expression → Expression → Bool
  | constant a, constant b => a == b
  | name a, name b => a == b
  | binary op left right, binary op' left' right' =>
      op.same op' && left.same left' && right.same right'
  | _, _ => false

instance : BEq Expression where
  beq := same

/-! ## Building from postfix order -/

/-- Put one item on a stack of expressions.  An operator takes the two topmost
ones as its operands. -/
def push (stack : List Expression) : PostfixItem → Except FormulaError (List Expression)
  | .number value => .ok (constant value :: stack)
  | .name text => .ok (name text :: stack)
  | .operator op =>
      match stack with
      | right :: left :: rest => .ok (binary op left right :: rest)
      | _ => .error .malformedExpression

/-- Put all items on a stack, from left to right. -/
def pushAll (stack : List Expression) : List PostfixItem → Except FormulaError (List Expression)
  | [] => .ok stack
  | item :: rest =>
      match push stack item with
      | .error fault => .error fault
      | .ok pushed => pushAll pushed rest

/-- The expression that items in postfix order stand for.  No items stand for no
expression, and more than one expression is an error. -/
def ofPostfix (items : List PostfixItem) : Except FormulaError (Option Expression) :=
  match pushAll [] items with
  | .error fault => .error fault
  | .ok [] => .ok none
  | .ok [expression] => .ok (some expression)
  | .ok _ => .error .malformedExpression

/-! ## Value -/

/-- The value of an expression: the left operand first, then the right one, then
the operator, stopping at the first error. -/
def value (bindings : Bindings) : Expression → Except FormulaError Float
  | constant number => .ok number
  | name text =>
      match bindings.get? text with
      | some number => .ok number
      | none => .error (.unboundVariable text)
  | binary op left right =>
      match left.value bindings with
      | .error fault => .error fault
      | .ok l =>
          match right.value bindings with
          | .error fault => .error fault
          | .ok r => op.apply l r

/-- What is left to do: find the value of an expression and put it on the stack
of values, or apply an operator to the two topmost values. -/
inductive Task where
  | visit (expression : Expression)
  | apply (operator : Operator)

/-- The number of tasks that an expression gives rise to. -/
def taskCount : Expression → Nat
  | constant _ => 1
  | name _ => 1
  | binary _ left right => left.taskCount + right.taskCount + 2

/-- The number of tasks that a task gives rise to, itself included. -/
def Task.count : Task → Nat
  | visit expression => expression.taskCount
  | apply _ => 1

/-- The number of tasks that some tasks give rise to. -/
def Task.total (tasks : List Task) : Nat :=
  tasks.foldr (fun task total => task.count + total) 0

/-- Do all tasks, with the values found so far on a stack, and give the topmost
value. -/
def runTasks (bindings : Bindings) :
    List Task → List Float → Except FormulaError Float
  | [], top :: _ => .ok top
  | [], [] => .error .malformedExpression
  | .visit (.constant number) :: tasks, values => runTasks bindings tasks (number :: values)
  | .visit (.name text) :: tasks, values =>
      match bindings.get? text with
      | some number => runTasks bindings tasks (number :: values)
      | none => .error (.unboundVariable text)
  | .visit (.binary op left right) :: tasks, values =>
      runTasks bindings (.visit left :: .visit right :: .apply op :: tasks) values
  | .apply op :: tasks, right :: left :: values =>
      match op.apply left right with
      | .error fault => .error fault
      | .ok result => runTasks bindings tasks (result :: values)
  | .apply _ :: _, _ => .error .malformedExpression
termination_by tasks => Task.total tasks
decreasing_by
  all_goals simp [Task.total, Task.count, taskCount]
  all_goals omega

/-- Evaluate an expression without recursion on its depth. -/
def evaluate (bindings : Bindings) (expression : Expression) : Except FormulaError Float :=
  runTasks bindings [.visit expression] []

end Expression

end Worksheet
