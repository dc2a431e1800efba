import Mathlib.Algebra.BigOperators.Group.List.Basic
import Mathlib.Algebra.Ring.Int.Defs
import Mathlib.Algebra.Ring.Nat
import Worksheet.Formula.Token

/-!
# Infix expressions

The grammar of infix expressions says that an expression is a number, a name, an
expression in parentheses, or two expressions with an operator between them.

The main statement describes the derivable token lists without the grammar.  In a
derivable list every parenthesis is closed, no operand stands directly behind
another, and there is one operand more than there are operators.  These three
conditions are enough.  If operands never meet, then at most one operand is left
over at every place, and none is left over only if operands and operators take turns
up to there.
-/

namespace Worksheet

/-- Tokens that the grammar of infix expressions derives. -/
inductive Derivable : List Token → Prop
  | number (value : Float) : Derivable [.number value]
  | name (text : String) : Derivable [.name text]
  | parentheses {inner : List Token} (inside : Derivable inner) :
      Derivable (.openParen :: (inner ++ [.closeParen]))
  | binary {before after : List Token} (symbol : Char) (leftOperand : Derivable before)
      (rightOperand : Derivable after) : Derivable (before ++ .operator symbol :: after)

namespace Token

/-! ## Taking turns -/

/-- Operands and operators take turns, every pair of parentheses encloses at least one
operand, and the tokens close `depth` parentheses that are open before them.  An
operand is complete before the tokens if `afterOperand`. -/
def Alternates : (afterOperand : Bool) → (depth : Nat) → List Token → Prop
  | false, depth, number _ :: rest => Alternates true depth rest
  | false, depth, name _ :: rest => Alternates true depth rest
  | false, depth, openParen :: rest => Alternates false (depth + 1) rest
  | true, depth, operator _ :: rest => Alternates false depth rest
  | true, depth + 1, closeParen :: rest => Alternates true depth rest
  | true, 0, [] => True
  | _, _, _ => False

/-- What may be left behind an expression that stands inside `depth` parentheses. -/
def Ends : (depth : Nat) → List Token → Prop
  | 0, rest => rest = []
  | depth + 1, rest => ∃ after, rest = closeParen :: after ∧ Alternates true depth after

/-- A derivable list is one operand of what it stands in. -/
theorem alternates_append {tokens : List Token} (derivable : Derivable tokens) {depth : Nat}
    {rest : List Token} (alternates : Alternates true depth rest) :
    Alternates false depth (tokens ++ rest) := by
  induction derivable generalizing depth rest with
  | number value => exact alternates
  | name text => exact alternates
  | @parentheses inner _ ih =>
      have closed : Alternates true (depth + 1) (closeParen :: rest) := alternates
      have inside := ih closed
      rw [List.cons_append, List.append_assoc]
      exact inside
  | @binary before after symbol _ _ leftIh rightIh =>
      have behind : Alternates true depth (operator symbol :: (after ++ rest)) := rightIh alternates
      rw [List.append_assoc]
      exact leftIh behind

/-- The tokens that complete an expression: with `afterOperand` they continue one, and
without it they are one. -/
def Completes : (afterOperand : Bool) → List Token → Prop
  | false, tokens => Derivable tokens
  | true, tokens => ∀ start, Derivable start → Derivable (start ++ tokens)

/-- Tokens that take turns start with tokens that complete an expression. -/
theorem exists_completes {afterOperand : Bool} {depth : Nat} {tokens : List Token}
    (alternates : Alternates afterOperand depth tokens) :
    ∃ expression rest, tokens = expression ++ rest ∧ Completes afterOperand expression ∧
      Ends depth rest := by
  -- The tokens behind a closing parenthesis are not a part of the list in which it was
  -- found, so the induction is on the length.
  induction length : tokens.length using Nat.strongRecOn
    generalizing afterOperand depth tokens with
  | ind size ih =>
  subst length
  have operand : ∀ (first : List Token), Derivable first → ∀ tail : List Token,
      tail.length < tokens.length → Alternates true depth tail →
      ∃ expression rest, first ++ tail = expression ++ rest ∧ Completes false expression ∧
        Ends depth rest := by
    intro first derivable tail shorter behind
    obtain ⟨continuation, rest, rfl, completes, ends⟩ := ih tail.length shorter behind rfl
    exact ⟨first ++ continuation, rest, (List.append_assoc ..).symm, completes first derivable,
      ends⟩
  match afterOperand, depth, tokens, alternates with
  | false, depth, number value :: tail, behind =>
      exact operand [number value] (.number value) tail (by simp) behind
  | false, depth, name text :: tail, behind =>
      exact operand [name text] (.name text) tail (by simp) behind
  | false, depth, openParen :: tail, opened =>
      have inside : Alternates false (depth + 1) tail := opened
      obtain ⟨inner, _, rfl, derivable, after, rfl, behind⟩ := ih tail.length (by simp) inside rfl
      have completed := operand _ (.parentheses derivable) after (by simp; omega) behind
      simpa using completed
  | true, depth, operator symbol :: tail, joined =>
      have behind : Alternates false depth tail := joined
      obtain ⟨right, rest, rfl, derivable, ends⟩ := ih tail.length (by simp) behind rfl
      exact ⟨operator symbol :: right, rest, rfl, fun left first => .binary symbol first derivable,
        ends⟩
  | true, depth + 1, closeParen :: tail, behind =>
      exact ⟨[], _, rfl, fun start first => (List.append_nil start).symm ▸ first, tail, rfl, behind⟩
  | true, 0, [], _ =>
      exact ⟨[], [], rfl, fun start first => (List.append_nil start).symm ▸ first, rfl⟩

theorem derivable_iff_alternates {tokens : List Token} :
    Derivable tokens ↔ Alternates false 0 tokens := by
  constructor
  · intro derivable
    have closed : Alternates true 0 [] := trivial
    have whole := alternates_append derivable closed
    rwa [List.append_nil] at whole
  · intro alternates
    obtain ⟨expression, rest, rfl, derivable, rfl⟩ := exists_completes alternates
    rwa [List.append_nil]

/-! ## Operands that never meet -/

/-- Can an operand start with this token? -/
def startsOperand : Token → Bool
  | number _ | name _ | openParen => true
  | operator _ | closeParen => false

/-- Can an operand end with this token? -/
def endsOperand : Token → Bool
  | number _ | name _ | closeParen => true
  | operator _ | openParen => false

/-- May a token stand directly behind another one, as far as operands must not meet? -/
def Apart (before after : Token) : Prop :=
  before.endsOperand = true → after.startsOperand = false

instance (before after : Token) : Decidable (Apart before after) :=
  inferInstanceAs (Decidable (_ → _))

/-- No operand stands directly behind another one. -/
def Separated (tokens : List Token) : Prop :=
  tokens.IsChain Apart

instance (tokens : List Token) : Decidable (Separated tokens) :=
  inferInstanceAs (Decidable (tokens.IsChain Apart))

/-- What a token adds to the operands that are left over: an operator joins two operands
into one. -/
def surplus : Token → Int
  | number _ | name _ => 1
  | operator _ => -1
  | openParen | closeParen => 0

/-- The tokens close `depth` parentheses that are open before them, and each one that
they open. -/
def Closes : (depth : Nat) → List Token → Prop
  | depth, [] => depth = 0
  | depth, openParen :: rest => Closes (depth + 1) rest
  | 0, closeParen :: _ => False
  | depth + 1, closeParen :: rest => Closes depth rest
  | depth, number _ :: rest => Closes depth rest
  | depth, name _ :: rest => Closes depth rest
  | depth, operator _ :: rest => Closes depth rest

/-- The operands that are left over by tokens that take turns from some place on. -/
def missing (afterOperand : Bool) : Int :=
  if afterOperand then 0 else 1

/-- As long as operands do not meet, no more than one operand is left over. -/
theorem sum_surplus_le {before : Token} {tokens : List Token}
    (separated : (before :: tokens).IsChain Apart) :
    (tokens.map surplus).sum ≤ missing before.endsOperand := by
  induction tokens generalizing before with
  | nil => cases before.endsOperand <;> simp [missing]
  | cons token tokens ih =>
      obtain ⟨apart, behind⟩ := List.isChain_cons_cons.1 separated
      have bound := ih behind
      rw [List.map_cons, List.sum_cons]
      unfold Apart at apart
      generalize before.endsOperand = afterOperand at apart
      cases token <;> cases afterOperand <;>
        simp_all [missing, surplus, startsOperand, endsOperand] <;> omega

/-- Tokens take turns exactly if they close their parentheses, operands do not meet and
the greatest number of operands is left over. -/
theorem alternates_iff {before : Token} {depth : Nat} {tokens : List Token} :
    Alternates before.endsOperand depth tokens ↔
      Closes depth tokens ∧ (before :: tokens).IsChain Apart ∧
        (tokens.map surplus).sum = missing before.endsOperand := by
  induction tokens generalizing before depth with
  | nil => cases depth <;> cases before.endsOperand <;> simp [Alternates, Closes, missing]
  | cons token tokens ih =>
      have turns : ∀ depth, Alternates token.endsOperand depth tokens ↔ Closes depth tokens ∧
          (token :: tokens).IsChain Apart ∧
          (tokens.map surplus).sum = missing token.endsOperand := fun _ => ih
      -- Out of turn, an operator or a closing parenthesis leaves too few operands over.
      have bound : (token :: tokens).IsChain Apart →
          (tokens.map surplus).sum ≤ missing token.endsOperand := sum_surplus_le
      rw [List.isChain_cons_cons, List.map_cons, List.sum_cons]
      generalize (token :: tokens).IsChain Apart = separated at turns bound ⊢
      unfold Apart
      generalize before.endsOperand = afterOperand
      cases token <;> cases afterOperand <;> cases depth <;>
        simp [Alternates, Closes, missing, surplus, startsOperand, endsOperand]
          at turns bound ⊢ <;> grind

theorem isChain_openParen_cons {tokens : List Token} :
    (openParen :: tokens).IsChain Apart ↔ Separated tokens := by
  unfold Separated
  cases tokens with
  | nil => simp
  | cons token tokens => simp [Apart, endsOperand]

/-- An expression closes its parentheses, its operands do not meet, and it has one
operand more than operators. -/
theorem derivable_iff {tokens : List Token} :
    Derivable tokens ↔
      Closes 0 tokens ∧ Separated tokens ∧ (tokens.map surplus).sum = 1 := by
  have turns : Alternates openParen.endsOperand 0 tokens ↔ Closes 0 tokens ∧
      (openParen :: tokens).IsChain Apart ∧ (tokens.map surplus).sum = 1 := alternates_iff
  rw [derivable_iff_alternates, ← isChain_openParen_cons]
  exact turns

end Token

end Worksheet
