import Worksheet.Formula.Expression

/-!
# Rendered expressions

An expression is rendered by writing each operator between its operands.  Any part
may be put into parentheses, any number of times.  A left operand may go without
them if its own operator is finished before the one that follows, and a right
operand if its operator takes over from the one before it.

The main statement says that reading undoes rendering, whatever the precedences
and the associativities of the table.  While an expression is read, the operators
along its right edge wait.  They bind at least as tight as the operator at the
root, so they are all finished when the operand is complete, and none that has
waited before is.

For the operators of arithmetic this gives the usual rules: products bind tighter
than sums, and both group to the left.
-/

namespace Worksheet

/-! ## Precedence -/

namespace Operator

variable {inner outer waiting incoming : Operator}

/-- What binds at least as tight as an operator is finished whenever that one is. -/
theorem popsBefore_of_le (tighter : inner.precedence ≤ waiting.precedence)
    (pops : waiting.popsBefore incoming = true) : inner.popsBefore incoming = true := by
  unfold popsBefore at pops ⊢
  split
  · next left =>
      rw [left] at pops
      simp only [decide_eq_true_eq] at pops ⊢
      omega
  · next right =>
      rw [right] at pops
      simp only [decide_eq_true_eq] at pops ⊢
      omega

/-- An operator that waits longer than `outer` waits longer than all that are finished
before `outer`. -/
theorem popsBefore_eq_false_of_popsBefore (waits : waiting.popsBefore outer = false)
    (pops : inner.popsBefore outer = true) : waiting.popsBefore inner = false := by
  have looser : inner.precedence < waiting.precedence := by
    unfold popsBefore at waits pops
    cases side : outer.associativity with
    | left =>
        rw [side] at waits pops
        simp only [decide_eq_true_eq, decide_eq_false_iff_not] at waits pops
        omega
    | right =>
        rw [side] at waits pops
        simp only [decide_eq_true_eq, decide_eq_false_iff_not] at waits pops
        omega
  unfold popsBefore
  split <;> simp only [decide_eq_false_iff_not] <;> omega

/-- An operator for which another one waits binds at least as tight. -/
theorem precedence_le_of_popsBefore_eq_false (waits : outer.popsBefore inner = false) :
    inner.precedence ≤ outer.precedence := by
  unfold popsBefore at waits
  split at waits
  · simp only [decide_eq_false_iff_not] at waits
    omega
  · simp only [decide_eq_false_iff_not] at waits
    omega

end Operator

/-! ## Postfix order of an expression -/

namespace Expression

/-- The operator at the root of an expression, if it is not a leaf. -/
def operator? : Expression → Option Operator
  | constant _ => none
  | name _ => none
  | binary op _ _ => some op

/-- The operands and operators of an expression, each operator after its operands. -/
def inPostfix : Expression → List PostfixItem
  | constant value => [.number value]
  | name text => [.name text]
  | binary op left right => left.inPostfix ++ right.inPostfix ++ [.operator op]

/-- The items of an expression put that expression on the stack. -/
theorem pushAll_inPostfix (expression : Expression) (stack : List Expression)
    (rest : List PostfixItem) :
    pushAll stack (expression.inPostfix ++ rest) = pushAll (expression :: stack) rest := by
  induction expression generalizing stack rest with
  | constant value => rfl
  | name text => rfl
  | binary op left right leftIh rightIh =>
      rw [inPostfix, List.append_assoc, List.append_assoc, leftIh, rightIh]
      rfl

theorem ofPostfix_inPostfix (expression : Expression) :
    ofPostfix expression.inPostfix = .ok (some expression) := by
  have pushed := pushAll_inPostfix expression [] []
  rw [List.append_nil] at pushed
  rw [ofPostfix, pushed]
  rfl

end Expression

/-! ## Renderings -/

/-- Tokens that render an expression, where `enclosed` says whether they are in
parentheses as a whole.  Operators must be those of the table. -/
inductive Renders (table : OperatorTable) : (enclosed : Bool) → Expression → List Token → Prop
  | constant (value : Float) : Renders table false (.constant value) [.number value]
  | name (text : String) : Renders table false (.name text) [.name text]
  | parentheses {enclosed : Bool} {expression : Expression} {inner : List Token}
      (inside : Renders table enclosed expression inner) :
      Renders table true expression (.openParen :: (inner ++ [.closeParen]))
  | binary {op : Operator} {left right : Expression} {leftEnclosed rightEnclosed : Bool}
      {before after : List Token} (registered : table.find? op.symbol = some op)
      (leftOperand : Renders table leftEnclosed left before)
      (rightOperand : Renders table rightEnclosed right after)
      (leftFits : leftEnclosed = false → ∀ inner, left.operator? = some inner →
        inner.popsBefore op = true)
      (rightFits : rightEnclosed = false → ∀ inner, right.operator? = some inner →
        op.popsBefore inner = false) :
      Renders table false (.binary op left right) (before ++ .operator op.symbol :: after)

namespace Postfix

variable {table : OperatorTable} {bindings : Bindings}

/-! ## Waiting operators -/

/-- The output after all operators of a list have been moved to it, the first one
first. -/
def emit (output : List PostfixItem) (pending : List Operator) : List PostfixItem :=
  (pending.map PostfixItem.operator).reverse ++ output

theorem emit_cons (output : List PostfixItem) (op : Operator) (pending : List Operator) :
    emit output (op :: pending) = emit (.operator op :: output) pending := by
  simp [emit]

theorem emit_concat (output : List PostfixItem) (pending : List Operator) (op : Operator) :
    emit output (pending ++ [op]) = .operator op :: emit output pending := by
  simp [emit]

/-- No operator on top is finished before the incoming one. -/
def Admits (waiting : List Waiting) (incoming : Operator) : Prop :=
  ∀ top rest, waiting = .operator top :: rest → top.popsBefore incoming = false

theorem finishBefore_pending {incoming : Operator} {pending : List Operator}
    {waiting : List Waiting} (pops : ∀ op ∈ pending, op.popsBefore incoming = true)
    (admits : Admits waiting incoming) (output : List PostfixItem) :
    finishBefore incoming output (pending.map Waiting.operator ++ waiting) =
      ⟨emit output pending, waiting⟩ := by
  induction pending generalizing output with
  | nil =>
      cases waiting with
      | nil => rfl
      | cons top rest =>
          cases top with
          | openParen => rfl
          | operator top =>
              have stays := admits top rest rfl
              simp [finishBefore, stays, emit]
  | cons op pending ih =>
      have first := pops op List.mem_cons_self
      rw [List.map_cons, List.cons_append, finishBefore, if_pos first, emit_cons]
      exact ih (fun other member => pops other (List.mem_cons_of_mem _ member)) _

theorem closeParen?_pending (output : List PostfixItem) (pending : List Operator)
    (waiting : List Waiting) :
    closeParen? output (pending.map Waiting.operator ++ .openParen :: waiting) =
      some ⟨emit output pending, waiting⟩ := by
  induction pending generalizing output with
  | nil => rfl
  | cons op pending ih =>
      rw [List.map_cons, List.cons_append, closeParen?, ih, emit_cons]

theorem finish?_pending (output : List PostfixItem) (pending : List Operator) :
    finish? output (pending.map Waiting.operator) = some (emit output pending) := by
  induction pending generalizing output with
  | nil => rfl
  | cons op pending ih => rw [List.map_cons, finish?, ih, emit_cons]

/-! ## Reading a rendering -/

/-- Tokens are placed one part after the other. -/
theorem run_append {state placed : Conversion} {first : List Token}
    (run : state.run table bindings first = .ok placed) (second : List Token) :
    state.run table bindings (first ++ second) = placed.run table bindings second := by
  induction first generalizing state with
  | nil =>
      cases run
      rfl
  | cons token first ih =>
      rw [Conversion.run] at run
      rw [List.cons_append, Conversion.run]
      split at run
      · cases run
      · exact ih run

theorem run_operator {state : Conversion} {op : Operator}
    (registered : table.find? op.symbol = some op) (rest : List Token) :
    state.run table bindings (.operator op.symbol :: rest) =
      (Conversion.mk (finishBefore op state.output state.waiting).output
        (.operator op :: (finishBefore op state.output state.waiting).waiting)).run table bindings
        rest := by
  simp [Conversion.run, Conversion.step, OperatorTable.lookup, registered]

end Postfix

namespace Renders

open Postfix

variable {table : OperatorTable} {bindings : Bindings} {enclosed : Bool}
  {expression : Expression} {tokens : List Token}

/-- Reading a rendering puts the items of the expression on the output, apart from the
operators along its right edge, which wait and bind at least as tight as its root. -/
theorem run (renders : Renders table enclosed expression tokens)
    (declared : ∀ text, Token.name text ∈ tokens → bindings.contains text = true)
    (state : Conversion)
    (admits : enclosed = false → ∀ op, expression.operator? = some op →
      Admits state.waiting op) :
    ∃ output pending,
      state.run table bindings tokens =
        .ok ⟨output, pending.map Waiting.operator ++ state.waiting⟩ ∧
      emit output pending = expression.inPostfix.reverse ++ state.output ∧
      ∀ op ∈ pending, enclosed = false ∧
        ∃ root, expression.operator? = some root ∧ op.precedence ≤ root.precedence := by
  induction renders generalizing state with
  | constant value => exact ⟨.number value :: state.output, [], rfl, rfl, by simp⟩
  | name text =>
      have known := declared text List.mem_cons_self
      refine ⟨.name text :: state.output, [], ?_, rfl, by simp⟩
      simp [Conversion.run, Conversion.step, known]
  | @parentheses enclosed expression inner inside ih =>
      have insideDeclared : ∀ text, Token.name text ∈ inner → bindings.contains text = true := by
        intro text member
        exact declared text (List.mem_cons_of_mem _ (List.mem_append_left _ member))
      obtain ⟨output, pending, run, items, -⟩ :=
        ih insideDeclared ⟨state.output, .openParen :: state.waiting⟩ (by simp [Admits])
      refine ⟨emit output pending, [], ?_, items, by simp⟩
      have opened : state.run table bindings (.openParen :: (inner ++ [.closeParen])) =
          (Conversion.mk state.output (.openParen :: state.waiting)).run table bindings
            (inner ++ [.closeParen]) := rfl
      rw [opened, run_append run]
      simp [Conversion.run, Conversion.step, closeParen?_pending]
  | @binary op left right leftEnclosed rightEnclosed before after registered _ _ leftFits
      rightFits leftIh rightIh =>
      have waits : Admits state.waiting op := admits rfl op rfl
      -- What waits for the operator waits for everything that is finished before it.
      have leftAdmits : leftEnclosed = false → ∀ inner, left.operator? = some inner →
          Admits state.waiting inner := by
        intro bare inner root top rest shape
        exact Operator.popsBefore_eq_false_of_popsBefore (waits top rest shape)
          (leftFits bare inner root)
      obtain ⟨leftOutput, leftPending, leftRun, leftItems, leftTight⟩ :=
        leftIh (fun text member => declared text (List.mem_append_left _ member)) state leftAdmits
      have pops : ∀ waiting ∈ leftPending, waiting.popsBefore op = true := by
        intro waiting member
        obtain ⟨bare, root, isRoot, tight⟩ := leftTight waiting member
        exact Operator.popsBefore_of_le tight (leftFits bare root isRoot)
      have finished := finishBefore_pending pops waits leftOutput
      have rightAdmits : rightEnclosed = false → ∀ inner, right.operator? = some inner →
          Admits (.operator op :: state.waiting) inner := by
        intro bare inner root top rest shape
        cases shape
        exact rightFits bare inner root
      obtain ⟨output, rightPending, rightRun, rightItems, rightTight⟩ :=
        rightIh (fun text member => declared text
          (List.mem_append_right _ (List.mem_cons_of_mem _ member)))
          ⟨emit leftOutput leftPending, .operator op :: state.waiting⟩ rightAdmits
      refine ⟨output, rightPending ++ [op], ?_, ?_, ?_⟩
      · rw [run_append leftRun, run_operator registered, finished, rightRun]
        simp
      · rw [emit_concat, rightItems, leftItems, Expression.inPostfix]
        simp
      · intro waiting member
        refine ⟨rfl, op, rfl, ?_⟩
        rcases List.mem_append.1 member with deeper | last
        · obtain ⟨bare, root, isRoot, tight⟩ := rightTight waiting deeper
          exact Nat.le_trans tight
            (Operator.precedence_le_of_popsBefore_eq_false (rightFits bare root isRoot))
        · exact Nat.le_of_eq (congrArg Operator.precedence (List.mem_singleton.1 last))

/-- Reading a rendering gives the expression back. -/
theorem ofTokens (renders : Renders table enclosed expression tokens)
    (declared : ∀ text, Token.name text ∈ tokens → bindings.contains text = true) :
    ∃ items, Postfix.ofTokens table bindings tokens = .ok items ∧
      Expression.ofPostfix items = .ok (some expression) := by
  obtain ⟨output, pending, run, items, -⟩ :=
    renders.run declared Conversion.start (by simp [Admits, Conversion.start])
  refine ⟨expression.inPostfix, ?_, expression.ofPostfix_inPostfix⟩
  have output_eq : emit output pending = expression.inPostfix.reverse := by
    rw [items]
    exact List.append_nil _
  have waiting_eq : pending.map Waiting.operator ++ Conversion.start.waiting =
      pending.map Waiting.operator := List.append_nil _
  rw [waiting_eq] at run
  simp only [Postfix.ofTokens, run, finish?_pending, output_eq, List.reverse_reverse]

end Renders

/-! ## Conventional notation -/

/-- The levels of conventional notation, from the loosest to the tightest. -/
inductive Level where
  | sum
  | product
  | factor
  deriving DecidableEq, Repr

namespace Level

/-- The greatest precedence of an operator that stands bare at a level. -/
def loosest : Level → Nat
  | sum => 2
  | product => 1
  | factor => 0

end Level

/-- Tokens that write an expression in conventional notation.  A factor is a number, a
name or a sum in parentheses, a product is a row of factors that groups to the left,
and a sum is such a row of products. -/
inductive Conventional : Level → Expression → List Token → Prop
  | constant (value : Float) : Conventional .factor (.constant value) [.number value]
  | name (text : String) : Conventional .factor (.name text) [.name text]
  | parentheses {expression : Expression} {inner : List Token}
      (inside : Conventional .sum expression inner) :
      Conventional .factor expression (.openParen :: (inner ++ [.closeParen]))
  | product {expression : Expression} {tokens : List Token}
      (single : Conventional .factor expression tokens) : Conventional .product expression tokens
  | sum {expression : Expression} {tokens : List Token}
      (single : Conventional .product expression tokens) : Conventional .sum expression tokens
  | multiply {op : Operator} {left right : Expression} {before after : List Token}
      (symbol : op.symbol = '*' ∨ op.symbol = '/')
      (registered : OperatorTable.arithmetic.find? op.symbol = some op)
      (leftOperand : Conventional .product left before)
      (rightOperand : Conventional .factor right after) :
      Conventional .product (.binary op left right) (before ++ .operator op.symbol :: after)
  | add {op : Operator} {left right : Expression} {before after : List Token}
      (symbol : op.symbol = '+' ∨ op.symbol = '-')
      (registered : OperatorTable.arithmetic.find? op.symbol = some op)
      (leftOperand : Conventional .sum left before)
      (rightOperand : Conventional .product right after) :
      Conventional .sum (.binary op left right) (before ++ .operator op.symbol :: after)

/-- The operators of arithmetic all group to the left, products before sums. -/
theorem OperatorTable.left_of_mem_arithmetic : ∀ op ∈ arithmetic.operators,
    op.associativity = .left ∧
      ((op.symbol = '*' ∨ op.symbol = '/') → op.precedence = 1) ∧
      ((op.symbol = '+' ∨ op.symbol = '-') → op.precedence = 2) := by
  simp [arithmetic, register, empty]

/-- An operator that groups to the left goes without parentheses around a left operand
that binds at least as tight, and around a right one that binds tighter. -/
theorem Renders.binary_of_left {table : OperatorTable} {op : Operator} {left right : Expression}
    {leftEnclosed rightEnclosed : Bool} {before after : List Token}
    (registered : table.find? op.symbol = some op) (groups : op.associativity = .left)
    (leftOperand : Renders table leftEnclosed left before)
    (rightOperand : Renders table rightEnclosed right after)
    (leftBound : leftEnclosed = false → ∀ inner, left.operator? = some inner →
      inner.precedence ≤ op.precedence)
    (rightBound : rightEnclosed = false → ∀ inner, right.operator? = some inner →
      inner.precedence < op.precedence ∧ inner.associativity = .left) :
    Renders table false (.binary op left right) (before ++ .operator op.symbol :: after) := by
  refine .binary registered leftOperand rightOperand ?_ ?_
  · intro bare inner root
    simpa [Operator.popsBefore, groups] using leftBound bare inner root
  · intro bare inner root
    obtain ⟨tighter, innerGroups⟩ := rightBound bare inner root
    simpa [Operator.popsBefore, innerGroups] using tighter

/-- Conventional notation puts parentheses where the precedences of arithmetic ask for
them. -/
theorem Conventional.renders {level : Level} {expression : Expression} {tokens : List Token}
    (conventional : Conventional level expression tokens) :
    ∃ enclosed, Renders .arithmetic enclosed expression tokens ∧
      (enclosed = false → ∀ root, expression.operator? = some root →
        root.precedence ≤ level.loosest ∧ root.associativity = .left) := by
  induction conventional with
  | constant value => exact ⟨false, .constant value, by simp [Expression.operator?]⟩
  | name text => exact ⟨false, .name text, by simp [Expression.operator?]⟩
  | parentheses _ ih =>
      obtain ⟨enclosed, inside, -⟩ := ih
      exact ⟨true, .parentheses inside, by simp⟩
  | product _ ih | sum _ ih =>
      obtain ⟨enclosed, renders, bounded⟩ := ih
      refine ⟨enclosed, renders, fun bare root isRoot => ?_⟩
      obtain ⟨tighter, left⟩ := bounded bare root isRoot
      exact ⟨Nat.le_succ_of_le tighter, left⟩
  | @multiply op left right before after symbol registered _ _ leftIh rightIh =>
      obtain ⟨groups, product, -⟩ := OperatorTable.left_of_mem_arithmetic op
        (List.mem_of_find?_eq_some registered)
      have precedence := product symbol
      obtain ⟨leftEnclosed, leftRenders, leftBounded⟩ := leftIh
      obtain ⟨rightEnclosed, rightRenders, rightBounded⟩ := rightIh
      refine ⟨false, .binary_of_left registered groups leftRenders rightRenders ?_ ?_, ?_⟩
      · intro bare inner root
        exact precedence ▸ (leftBounded bare inner root).1
      · intro bare inner root
        exact precedence ▸ (rightBounded bare inner root).imp_left Nat.lt_succ_of_le
      · rintro - root ⟨⟩
        exact ⟨Nat.le_of_eq precedence, groups⟩
  | @add op left right before after symbol registered _ _ leftIh rightIh =>
      obtain ⟨groups, -, sum⟩ := OperatorTable.left_of_mem_arithmetic op
        (List.mem_of_find?_eq_some registered)
      have precedence := sum symbol
      obtain ⟨leftEnclosed, leftRenders, leftBounded⟩ := leftIh
      obtain ⟨rightEnclosed, rightRenders, rightBounded⟩ := rightIh
      refine ⟨false, .binary_of_left registered groups leftRenders rightRenders ?_ ?_, ?_⟩
      · intro bare inner root
        exact precedence ▸ (leftBounded bare inner root).1
      · intro bare inner root
        exact precedence ▸ (rightBounded bare inner root).imp_left Nat.lt_succ_of_le
      · rintro - root ⟨⟩
        exact ⟨Nat.le_of_eq precedence, groups⟩

/-! ## Reading undoes rendering -/

namespace Postfix

/-- Reading a rendered expression gives the expression back, for every table of
operators, as long as its names are declared.  With the operators of arithmetic it
gives back what conventional notation means. -/
theorem ofTokens_of_rendering :
    (∀ (table : OperatorTable) (bindings : Bindings) (enclosed : Bool) (expression : Expression)
        (tokens : List Token),
      Renders table enclosed expression tokens →
      (∀ text, Token.name text ∈ tokens → bindings.contains text = true) →
      ∃ items, ofTokens table bindings tokens = .ok items ∧
        Expression.ofPostfix items = .ok (some expression)) ∧
    (∀ (bindings : Bindings) (level : Level) (expression : Expression) (tokens : List Token),
      Conventional level expression tokens →
      (∀ text, Token.name text ∈ tokens → bindings.contains text = true) →
      ∃ items, ofTokens .arithmetic bindings tokens = .ok items ∧
        Expression.ofPostfix items = .ok (some expression)) := by
  refine ⟨fun _ _ _ _ _ renders declared => renders.ofTokens declared, ?_⟩
  intro bindings level expression tokens conventional declared
  obtain ⟨enclosed, renders, -⟩ := conventional.renders
  exact renders.ofTokens declared

/-- `A^(B)^A` groups to the right if `^` does, and `(1+A)*2` is a product. -/
theorem ofTokens_of_power_tower :
    ∃ (power plus times : Operator) (bindings : Bindings),
      power.associativity = .right ∧
      (∃ items, ofTokens ⟨[power]⟩ bindings
          [.name "A", .operator '^', .openParen, .name "B", .closeParen, .operator '^',
            .name "A"] = .ok items ∧
        Expression.ofPostfix items =
          .ok (some (.binary power (.name "A") (.binary power (.name "B") (.name "A"))))) ∧
      ∃ items, ofTokens .arithmetic bindings
          [.openParen, .number 1, .operator '+', .name "A", .closeParen, .operator '*',
            .number 2] = .ok items ∧
        Expression.ofPostfix items =
          .ok (some (.binary times (.binary plus (.constant 1) (.name "A")) (.constant 2))) := by
  let power : Operator := ⟨'^', 1, .right, fun left _ => .ok left⟩
  let plus : Operator := ⟨'+', 2, .left, fun left right => .ok (left + right)⟩
  let times : Operator := ⟨'*', 1, .left, fun left right => .ok (left * right)⟩
  refine ⟨power, plus, times, Bindings.empty.declareAll ["A", "B"], rfl, ?_, ?_⟩
  · have upper : Renders ⟨[power]⟩ false (.binary power (.name "B") (.name "A"))
        [.openParen, .name "B", .closeParen, .operator '^', .name "A"] :=
      .binary rfl (.parentheses (.name "B")) (.name "A") (by simp)
        (by simp [Expression.operator?])
    have tower : Renders ⟨[power]⟩ false
        (.binary power (.name "A") (.binary power (.name "B") (.name "A")))
        [.name "A", .operator '^', .openParen, .name "B", .closeParen, .operator '^', .name "A"] :=
      .binary rfl (.name "A") upper (by simp [Expression.operator?])
        (by rintro - inner ⟨⟩; rfl)
    refine ofTokens_of_rendering.1 _ _ _ _ _ tower ?_
    simp only [List.mem_cons, List.not_mem_nil]
    rintro text (⟨⟨⟩⟩ | ⟨⟨⟩⟩ | ⟨⟨⟩⟩ | ⟨⟨⟩⟩ | ⟨⟨⟩⟩ | ⟨⟨⟩⟩ | ⟨⟨⟩⟩ | ⟨⟨⟩⟩) <;> decide
  · have sum : Conventional .sum (.binary plus (.constant 1) (.name "A"))
        [.number 1, .operator '+', .name "A"] :=
      .add (.inl rfl) rfl (.sum (.product (.constant 1))) (.product (.name "A"))
    have product : Conventional .product
        (.binary times (.binary plus (.constant 1) (.name "A")) (.constant 2))
        [.openParen, .number 1, .operator '+', .name "A", .closeParen, .operator '*', .number 2] :=
      .multiply (.inl rfl) rfl (.product (.parentheses sum)) (.constant 2)
    refine ofTokens_of_rendering.2 _ _ _ _ product ?_
    simp only [List.mem_cons, List.not_mem_nil]
    rintro text (⟨⟨⟩⟩ | ⟨⟨⟩⟩ | ⟨⟨⟩⟩ | ⟨⟨⟩⟩ | ⟨⟨⟩⟩ | ⟨⟨⟩⟩ | ⟨⟨⟩⟩ | ⟨⟨⟩⟩)
    decide

end Postfix

end Worksheet
