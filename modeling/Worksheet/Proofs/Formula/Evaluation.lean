import Mathlib.Logic.Relation
import Worksheet.Formula.Expression

/-!
# Evaluation with two stacks

An expression is evaluated with a stack of tasks and a stack of values.  Whatever else
is to be done and whatever values are there already, visiting an expression puts its
value on the stack, or ends with the fault that the recursive rule gives.

A computation goes on step by step until nothing is left to do, a name has no value or
an operator fails.  It could also come to an operator that finds fewer than two values,
or find no value at the end.  The tasks that are left know how many values they need,
and every step keeps that number right, so this never happens to a computation that
started with an expression.
-/

namespace Worksheet.Expression

variable {bindings : Bindings}

/-- Visiting an expression puts its value on the stack of values, or fails as it does. -/
theorem runTasks_visit (bindings : Bindings) (expression : Expression) (tasks : List Task)
    (values : List Float) :
    runTasks bindings (.visit expression :: tasks) values =
      match expression.value bindings with
      | .error fault => .error fault
      | .ok number => runTasks bindings tasks (number :: values) := by
  induction expression generalizing tasks values with
  | constant number => rw [runTasks, value]
  | name text =>
      rw [runTasks, value]
      cases bindings.get? text <;> rfl
  | binary op left right leftIh rightIh =>
      rw [runTasks, leftIh, value]
      cases left.value bindings with
      | error fault => rfl
      | ok l =>
          dsimp only
          rw [rightIh]
          cases right.value bindings with
          | error fault => rfl
          | ok r =>
              cases applied : op.apply l r with
              | error fault => simp only [runTasks, applied]
              | ok result => simp only [runTasks, applied]

/-! ## Steps of a computation -/

/-- What is left to do, with the values found so far, the newest first. -/
structure Computation where
  tasks : List Task
  values : List Float

namespace Computation

/-- Nothing has been done for an expression. -/
def start (expression : Expression) : Computation :=
  ⟨[.visit expression], []⟩

/-- How a computation ends. -/
def outcome (bindings : Bindings) (computation : Computation) : Except FormulaError Float :=
  runTasks bindings computation.tasks computation.values

/-- The task on top is done, and the computation goes on. -/
inductive Step (bindings : Bindings) : Computation → Computation → Prop
  | constant {number : Float} {tasks : List Task} {values : List Float} :
      Step bindings ⟨.visit (.constant number) :: tasks, values⟩ ⟨tasks, number :: values⟩
  | name {text : String} {number : Float} {tasks : List Task} {values : List Float}
      (bound : bindings.get? text = some number) :
      Step bindings ⟨.visit (.name text) :: tasks, values⟩ ⟨tasks, number :: values⟩
  | binary {op : Operator} {left right : Expression} {tasks : List Task} {values : List Float} :
      Step bindings ⟨.visit (.binary op left right) :: tasks, values⟩
        ⟨.visit left :: .visit right :: .apply op :: tasks, values⟩
  | apply {op : Operator} {left right result : Float} {tasks : List Task} {values : List Float}
      (applied : op.apply left right = .ok result) :
      Step bindings ⟨.apply op :: tasks, right :: left :: values⟩ ⟨tasks, result :: values⟩

/-- The computation is over, with a value or with a fault of the expression. -/
inductive Ends (bindings : Bindings) : Computation → Except FormulaError Float → Prop
  | done {number : Float} {values : List Float} : Ends bindings ⟨[], number :: values⟩ (.ok number)
  | unbound {text : String} {tasks : List Task} {values : List Float}
      (absent : bindings.get? text = none) :
      Ends bindings ⟨.visit (.name text) :: tasks, values⟩ (.error (.unboundVariable text))
  | failed {op : Operator} {left right : Float} {fault : FormulaError} {tasks : List Task}
      {values : List Float} (applied : op.apply left right = .error fault) :
      Ends bindings ⟨.apply op :: tasks, right :: left :: values⟩ (.error fault)

/-- A value is needed that is not there. -/
inductive Underflows : Computation → Prop
  | operand {op : Operator} {tasks : List Task} {values : List Float} (few : values.length < 2) :
      Underflows ⟨.apply op :: tasks, values⟩
  | result : Underflows ⟨[], []⟩

variable {computation next : Computation}

theorem outcome_of_step (step : Step bindings computation next) :
    computation.outcome bindings = next.outcome bindings := by
  cases step with
  | constant | binary => simp only [outcome, runTasks]
  | name bound => simp only [outcome, runTasks, bound]
  | apply applied => simp only [outcome, runTasks, applied]

theorem outcome_of_ends {result : Except FormulaError Float}
    (ends : Ends bindings computation result) : computation.outcome bindings = result := by
  cases ends with
  | done => simp only [outcome, runTasks]
  | unbound absent => simp only [outcome, runTasks, absent]
  | failed applied => simp only [outcome, runTasks, applied]

/-- A computation goes on, is over, or lacks a value. -/
theorem step_or_ends_or_underflows (bindings : Bindings) (computation : Computation) :
    (∃ next, Step bindings computation next) ∨
      (∃ result, Ends bindings computation result) ∨ computation.Underflows := by
  obtain ⟨tasks, values⟩ := computation
  match tasks, values with
  | [], [] => exact .inr (.inr .result)
  | [], number :: values => exact .inr (.inl ⟨_, .done⟩)
  | .visit (.constant number) :: tasks, values => exact .inl ⟨_, .constant⟩
  | .visit (.name text) :: tasks, values =>
      cases found : bindings.get? text with
      | none => exact .inr (.inl ⟨_, .unbound found⟩)
      | some number => exact .inl ⟨_, .name found⟩
  | .visit (.binary op left right) :: tasks, values => exact .inl ⟨_, .binary⟩
  | .apply op :: tasks, right :: left :: values =>
      cases applied : op.apply left right with
      | error fault => exact .inr (.inl ⟨_, .failed applied⟩)
      | ok result => exact .inl ⟨_, .apply applied⟩
  | .apply op :: tasks, [] => exact .inr (.inr (.operand Nat.two_pos))
  | .apply op :: tasks, [_] => exact .inr (.inr (.operand Nat.one_lt_two))

/-! ## Values that are needed -/

/-- With so many values on the stack, every task finds those that it needs and one is
left at the end. -/
def Supplied : List Task → (count : Nat) → Prop
  | [], count => count = 1
  | .visit _ :: tasks, count => Supplied tasks (count + 1)
  | .apply _ :: tasks, count + 2 => Supplied tasks (count + 1)
  | .apply _ :: _, _ => False

theorem supplied_of_step (step : Step bindings computation next)
    (supplied : Supplied computation.tasks computation.values.length) :
    Supplied next.tasks next.values.length := by
  cases step <;> exact supplied

theorem not_underflows (supplied : Supplied computation.tasks computation.values.length) :
    ¬ computation.Underflows := by
  intro underflows
  cases underflows with
  | result => cases supplied
  | @operand op tasks values few =>
      match values, few with
      | [], _ | [_], _ => exact supplied

end Computation

open Expression.Computation

/-- The value found with two stacks is the one that the recursive rule gives.  Whatever
stage a computation reaches on the way to it, no value is missing, and it goes on from
there or is over with that value. -/
theorem evaluate_eq_value_without_underflow (bindings : Bindings) (expression : Expression) :
    expression.evaluate bindings = expression.value bindings ∧
      ∀ reached, Relation.ReflTransGen (Step bindings) (start expression) reached →
        reached.outcome bindings = expression.evaluate bindings ∧ ¬ reached.Underflows ∧
          ((∃ next, Step bindings reached next) ∨
            Ends bindings reached (expression.value bindings)) := by
  have same : expression.evaluate bindings = expression.value bindings := by
    rw [evaluate, runTasks_visit]
    cases expression.value bindings with
    | error fault => rfl
    | ok number =>
        dsimp only
        rw [runTasks]
  refine ⟨same, fun reached reaches => ?_⟩
  have kept : reached.outcome bindings = expression.evaluate bindings ∧
      Supplied reached.tasks reached.values.length := by
    induction reaches with
    | refl => exact ⟨rfl, rfl⟩
    | tail _ step ih =>
        exact ⟨(outcome_of_step step).symm.trans ih.1, supplied_of_step step ih.2⟩
  obtain ⟨outcome, supplied⟩ := kept
  refine ⟨outcome, not_underflows supplied, ?_⟩
  rcases step_or_ends_or_underflows bindings reached with step | ⟨result, ends⟩ | underflows
  · exact .inl step
  · have found : result = expression.value bindings := by
      rw [← outcome_of_ends ends, outcome, same]
    exact .inr (found ▸ ends)
  · exact absurd underflows (not_underflows supplied)

/-- Behind the number of `1/A`, the name and the division are left to do.  No value will
be missing, and the evaluation fails because `A` has none. -/
theorem evaluate_of_unbound_divisor :
    ∃ (op : Operator) (reached : Computation),
      op.apply = divide ∧ reached.values = [1] ∧ reached.tasks = [.visit (.name "A"), .apply op] ∧
      Relation.ReflTransGen (Step .empty) (start (.binary op (.constant 1) (.name "A"))) reached ∧
      ¬ reached.Underflows ∧
      evaluate .empty (.binary op (.constant 1) (.name "A")) = .error (.unboundVariable "A") := by
  let op : Operator := ⟨'/', 1, .left, divide⟩
  have reaches : Relation.ReflTransGen (Step .empty)
      (start (.binary op (.constant 1) (.name "A")))
      ⟨[.visit (.name "A"), .apply op], [1]⟩ :=
    .tail (.single .binary) .constant
  obtain ⟨same, onTheWay⟩ := evaluate_eq_value_without_underflow .empty
    (.binary op (.constant 1) (.name "A"))
  exact ⟨op, _, rfl, rfl, rfl, reaches, (onTheWay _ reaches).2.1, same.trans rfl⟩

end Worksheet.Expression
