import Worksheet.Proofs.Formula.Acceptance

/-!
# What postfix order keeps

Tokens are brought into postfix order in one pass, in which operators wait on a stack
and leave it at three places.  Nothing is lost or repeated on the way.  Behind every
token that has been placed, the output and the stack together hold each operator that
has been read once, the output holds the operands in the order in which they were
read, and the stack holds the parentheses that are still open.

The main statement says what comes out.  The pass fails with the fault of the first
token that cannot be placed, or because a parenthesis is never closed, and in all
other cases it succeeds.
-/

namespace Worksheet

open Token

namespace Token

/-! ## Partners of parentheses -/

/-- A closing parenthesis behind these tokens closes one of them: what has been opened
after that one is closed again. -/
def Opened (before : List Token) : Prop :=
  ∃ outer inner, before = outer ++ openParen :: inner ∧ Closes 0 inner

/-- An opening parenthesis before these tokens is closed by one of them: what is opened
before that one is closed again. -/
def Closed (after : List Token) : Prop :=
  ∃ inner rest, after = inner ++ closeParen :: rest ∧ Closes 0 inner

/-- Some opening parenthesis is never closed. -/
def Unclosed (tokens : List Token) : Prop :=
  ∃ before after, tokens = before ++ openParen :: after ∧ ¬ Closed after

/-- The number of parentheses that are open behind some tokens if `depth` are open
before them, unless one of the tokens closes nothing. -/
def openAfter : (depth : Nat) → List Token → Option Nat
  | depth, [] => some depth
  | depth, openParen :: rest => openAfter (depth + 1) rest
  | 0, closeParen :: _ => none
  | depth + 1, closeParen :: rest => openAfter depth rest
  | depth, number _ :: rest => openAfter depth rest
  | depth, name _ :: rest => openAfter depth rest
  | depth, operator _ :: rest => openAfter depth rest

theorem closes_iff_openAfter {depth : Nat} {tokens : List Token} :
    Closes depth tokens ↔ openAfter depth tokens = some 0 := by
  induction tokens generalizing depth with
  | nil => simp [Closes, openAfter]
  | cons token tokens ih => cases token <;> cases depth <;> simp [Closes, openAfter, ih]

theorem openAfter_append (depth : Nat) (first second : List Token) :
    openAfter depth (first ++ second) =
      (openAfter depth first).bind fun reached => openAfter reached second := by
  induction first generalizing depth with
  | nil => rfl
  | cons token first ih => cases token <;> cases depth <;> simp [openAfter, ih]

/-- Parentheses that are open further outside stay open. -/
theorem openAfter_add {depth reached : Nat} {tokens : List Token}
    (counted : openAfter depth tokens = some reached) (extra : Nat) :
    openAfter (depth + extra) tokens = some (reached + extra) := by
  induction tokens generalizing depth with
  | nil =>
      cases counted
      rfl
  | cons token tokens ih =>
      cases token with
      | openParen =>
          have behind : openAfter (depth + 1) tokens = some reached := counted
          have deeper := ih behind
          rwa [Nat.add_right_comm] at deeper
      | closeParen =>
          cases depth with
          | zero => cases counted
          | succ depth =>
              have behind : openAfter depth tokens = some reached := counted
              rw [Nat.add_right_comm]
              exact ih behind
      | number _ | name _ | operator _ => exact ih counted

theorem Opened.cons {tokens : List Token} (opened : Opened tokens) (token : Token) :
    Opened (token :: tokens) := by
  obtain ⟨outer, inner, rfl, closes⟩ := opened
  exact ⟨token :: outer, inner, rfl, closes⟩

/-- Unless the tokens stay above the depth `below`, they rise from it for a last time, and
from there on all parentheses are closed. -/
theorem above_or_opened {depth below : Nat} {tokens : List Token}
    (counted : openAfter depth tokens = some (below + 1)) :
    (below < depth ∧ Closes (depth - (below + 1)) tokens) ∨ Opened tokens := by
  induction tokens generalizing depth with
  | nil =>
      cases counted
      exact .inl ⟨Nat.lt_succ_self below, by simp [Closes]⟩
  | cons token tokens ih =>
      cases token with
      | openParen =>
          have higher : openAfter (depth + 1) tokens = some (below + 1) := counted
          rcases ih higher with ⟨above, closes⟩ | opened
          · rcases Nat.lt_or_eq_of_le (Nat.le_of_lt_succ above) with already | rfl
            · refine .inl ⟨already, ?_⟩
              rwa [Nat.succ_sub already] at closes
            -- This is the parenthesis with which the tokens rise from `below`.
            · exact .inr ⟨[], tokens, rfl, by simpa using closes⟩
          · exact .inr (opened.cons openParen)
      | closeParen =>
          cases depth with
          | zero => cases counted
          | succ depth =>
              have lower : openAfter depth tokens = some (below + 1) := counted
              rcases ih lower with ⟨above, closes⟩ | opened
              · refine .inl ⟨Nat.lt_succ_of_lt above, ?_⟩
                rw [Nat.succ_sub above]
                exact closes
              · exact .inr (opened.cons closeParen)
      | number _ | name _ | operator _ => exact (ih counted).imp id fun opened => opened.cons _

/-- The first place at which the depth falls below where it started. -/
theorem exists_first_fall {depth outside reached : Nat} {tokens : List Token}
    (counted : openAfter (depth + outside + 1) tokens = some reached)
    (below : reached ≤ outside) :
    ∃ inner rest, tokens = inner ++ closeParen :: rest ∧ Closes depth inner := by
  induction tokens generalizing depth with
  | nil =>
      cases counted
      omega
  | cons token tokens ih =>
      cases token with
      | openParen =>
          have deeper : openAfter (depth + 1 + outside + 1) tokens = some reached := by
            rw [Nat.add_right_comm depth]
            exact counted
          obtain ⟨inner, rest, rfl, closes⟩ := ih deeper
          exact ⟨openParen :: inner, rest, rfl, closes⟩
      | closeParen =>
          cases depth with
          | zero => exact ⟨[], tokens, rfl, rfl⟩
          | succ depth =>
              have higher : openAfter (depth + outside + 1) tokens = some reached := by
                rw [Nat.add_right_comm depth] at counted
                exact counted
              obtain ⟨inner, rest, rfl, closes⟩ := ih higher
              exact ⟨closeParen :: inner, rest, rfl, closes⟩
      | number _ | name _ | operator _ =>
          obtain ⟨inner, rest, rfl, closes⟩ := ih counted
          exact ⟨_ :: inner, rest, rfl, closes⟩

theorem exists_openAfter_of_append {depth reached : Nat} {before after : List Token}
    (counted : openAfter depth (before ++ openParen :: after) = some reached) :
    ∃ outside, openAfter depth before = some outside ∧
      openAfter (outside + 1) after = some reached := by
  rw [openAfter_append] at counted
  exact Option.bind_eq_some_iff.1 counted

/-- A closing parenthesis finds its partner exactly if a parenthesis is open. -/
theorem opened_iff {before : List Token} {depth : Nat}
    (counted : openAfter 0 before = some depth) : Opened before ↔ 0 < depth := by
  constructor
  · rintro ⟨outer, inner, rfl, closes⟩
    obtain ⟨outside, -, within⟩ := exists_openAfter_of_append counted
    have unchanged := openAfter_add (closes_iff_openAfter.1 closes) (outside + 1)
    rw [Nat.zero_add, within] at unchanged
    cases unchanged
    omega
  · intro positive
    obtain ⟨below, rfl⟩ := Nat.exists_eq_succ_of_ne_zero (Nat.ne_of_gt positive)
    rcases above_or_opened counted with ⟨above, -⟩ | opened
    · exact absurd above (Nat.not_lt_zero below)
    · exact opened

/-- Some parenthesis is never closed exactly if one is still open at the end. -/
theorem unclosed_iff {tokens : List Token} {depth : Nat}
    (counted : openAfter 0 tokens = some depth) : Unclosed tokens ↔ 0 < depth := by
  constructor
  · rintro ⟨before, after, rfl, unclosed⟩
    obtain ⟨outside, -, within⟩ := exists_openAfter_of_append counted
    by_contra zero
    have closed : openAfter (0 + outside + 1) after = some 0 := by
      rw [Nat.zero_add, within, Nat.eq_zero_of_not_pos zero]
    exact unclosed (exists_first_fall closed (Nat.zero_le outside))
  · intro positive
    obtain ⟨before, after, rfl, closes⟩ := (opened_iff counted).2 positive
    refine ⟨before, after, rfl, ?_⟩
    rintro ⟨inner, rest, rfl, inside⟩
    rw [closes_iff_openAfter, openAfter_append, closes_iff_openAfter.1 inside] at closes
    cases closes

end Token

namespace PostfixItem

/-- The token from which an item has come. -/
def token : PostfixItem → Token
  | number value => .number value
  | name text => .name text
  | operator op => .operator op.symbol

/-- The operator of an item, if it is not an operand. -/
def operator? : PostfixItem → Option Operator
  | number _ | name _ => none
  | operator op => some op

end PostfixItem

namespace Token

/-- Is this a number or a name? -/
def isOperand : Token → Bool
  | number _ | name _ => true
  | operator _ | openParen | closeParen => false

/-- Is this an operator? -/
def isOperator : Token → Bool
  | operator _ => true
  | number _ | name _ | openParen | closeParen => false

end Token

namespace Postfix

variable {table : OperatorTable} {bindings : Bindings}

/-- Why a token cannot be placed behind others. -/
inductive Offends (table : OperatorTable) (bindings : Bindings) (before : List Token) :
    Token → FormulaError → Prop
  | undeclared {text : String} (absent : bindings.contains text = false) :
      Offends table bindings before (.name text) (.unknownVariable text)
  | unregistered {symbol : Char} (absent : table.contains symbol = false) :
      Offends table bindings before (.operator symbol) (.unsupportedOperator symbol)
  | unopened (alone : ¬ Opened before) :
      Offends table bindings before .closeParen .mismatchedParentheses

/-- No token offends behind those before it. -/
def Placeable (table : OperatorTable) (bindings : Bindings) (tokens : List Token) : Prop :=
  ∀ before token after, tokens = before ++ token :: after →
    ∀ fault, ¬ Offends table bindings before token fault

theorem Placeable.concat {before : List Token} {token : Token}
    (placeable : Placeable table bindings before)
    (fits : ∀ fault, ¬ Offends table bindings before token fault) :
    Placeable table bindings (before ++ [token]) := by
  intro first other after split
  rcases List.eq_nil_or_concat after with rfl | ⟨inner, last, rfl⟩
  · obtain ⟨rfl, same⟩ := List.append_inj' split rfl
    cases same
    exact fits
  · rw [List.concat_eq_append, ← List.cons_append, ← List.append_assoc] at split
    obtain ⟨rfl, -⟩ := List.append_inj' split rfl
    exact placeable first other inner rfl

/-- The items hold the operands of the tokens in their order and each of their operators
once, as it is in the table, and no parenthesis. -/
structure Reorders (table : OperatorTable) (tokens : List Token) (items : List PostfixItem) :
    Prop where
  plain : ∀ token ∈ items.map PostfixItem.token, token ≠ .openParen ∧ token ≠ .closeParen
  operands : (items.map PostfixItem.token).filter isOperand = tokens.filter isOperand
  operators : ((items.map PostfixItem.token).filter isOperator).Perm (tokens.filter isOperator)
  registered : ∀ op, .operator op ∈ items → table.find? op.symbol = some op

/-! ## The books of a conversion -/

/-- The operator of an entry that waits, if it is not a parenthesis. -/
def Waiting.operator? : Waiting → Option Operator
  | operator op => some op
  | openParen => none

namespace Conversion

/-- The operands that have been read. -/
def operands (state : Conversion) : List Token :=
  (state.output.reverse.map PostfixItem.token).filter isOperand

/-- The operators that have been read, those of the output first. -/
def operators (state : Conversion) : List Operator :=
  state.output.filterMap PostfixItem.operator? ++ state.waiting.filterMap Waiting.operator?

end Conversion

/-- The state holds what has been read of some tokens, none of which offends. -/
structure Tracks (table : OperatorTable) (bindings : Bindings) (before : List Token)
    (state : Conversion) : Prop where
  placeable : Placeable table bindings before
  depth : openAfter 0 before = some state.depth
  operands : state.operands = before.filter isOperand
  operators : (state.operators.map fun op => Token.operator op.symbol).Perm
    (before.filter isOperator)
  registered : ∀ op ∈ state.operators, table.find? op.symbol = some op

theorem tracks_start : Tracks table bindings [] Conversion.start where
  placeable := by simp [Placeable]
  depth := rfl
  operands := rfl
  operators := .refl _
  registered := by simp [Conversion.operators, Conversion.start]

namespace Tracks

variable {before : List Token} {state placed : Conversion} {output : List PostfixItem}
  {waiting : List Waiting} {token : Token}

/-- Operators that leave the stack for the output stay in the books, whatever the reason
for which they leave. -/
theorem emit {pending : List Operator}
    (tracks : Tracks table bindings before ⟨output, pending.map Waiting.operator ++ waiting⟩) :
    Tracks table bindings before ⟨Postfix.emit output pending, waiting⟩ := by
  have moved : (Conversion.operators ⟨Postfix.emit output pending, waiting⟩).Perm
      (Conversion.operators ⟨output, pending.map Waiting.operator ++ waiting⟩) := by
    have stacked : (pending.map Waiting.operator).filterMap Waiting.operator? = pending := by
      simp [List.filterMap_map, Function.comp_def, Waiting.operator?]
    have written : (pending.map PostfixItem.operator).reverse.filterMap PostfixItem.operator? =
        pending.reverse := by
      simp [List.filterMap_map, Function.comp_def, PostfixItem.operator?]
    simp only [Conversion.operators, Postfix.emit, List.filterMap_append, stacked, written]
    rw [← List.append_assoc]
    exact ((List.reverse_perm pending).append_right _).trans List.perm_append_comm |>.append_right _
  have noOperand : (pending.map fun op => Token.operator op.symbol).filter isOperand = [] := by
    simp [isOperand]
  refine ⟨tracks.placeable, ?_, ?_, (moved.map _).trans tracks.operators,
    fun op member => tracks.registered op (moved.mem_iff.1 member)⟩
  · rw [tracks.depth, Conversion.depth, sum_depth_pending, Conversion.depth]
  · rw [← tracks.operands]
    simpa [Conversion.operands, Postfix.emit, Function.comp_def, PostfixItem.token] using noOperand

/-- What a token adds to the state is what it adds to the tokens. -/
theorem read (tracks : Tracks table bindings before state) (added : List Operator)
    (fits : ∀ fault, ¬ Offends table bindings before token fault)
    (depth : openAfter state.depth [token] = some placed.depth)
    (operands : placed.operands = state.operands ++ [token].filter isOperand)
    (operators : placed.operators.Perm (state.operators ++ added))
    (arrived : added.map (fun op => Token.operator op.symbol) = [token].filter isOperator)
    (registered : ∀ op ∈ added, table.find? op.symbol = some op) :
    Tracks table bindings (before ++ [token]) placed where
  placeable := tracks.placeable.concat fits
  depth := by
    rw [openAfter_append, tracks.depth]
    exact depth
  operands := by
    rw [operands, tracks.operands, List.filter_append]
  operators := by
    rw [List.filter_append, ← arrived]
    refine (operators.map _).trans ?_
    rw [List.map_append]
    exact tracks.operators.append_right _
  registered := by
    intro op member
    rcases List.mem_append.1 (operators.mem_iff.1 member) with old | new
    · exact tracks.registered op old
    · exact registered op new

/-- A token that is not an operator leaves the operators as they are. -/
theorem read_plain (tracks : Tracks table bindings before state)
    (fits : ∀ fault, ¬ Offends table bindings before token fault)
    (depth : openAfter state.depth [token] = some placed.depth)
    (operands : placed.operands = state.operands ++ [token].filter isOperand)
    (operators : placed.operators = state.operators) (plain : token.isOperator = false) :
    Tracks table bindings (before ++ [token]) placed := by
  refine tracks.read [] fits depth operands ?_ ?_ (List.forall_mem_nil _)
  · rw [operators, List.append_nil]
  · simp [plain]

theorem number (tracks : Tracks table bindings before state) (value : Float) :
    Tracks table bindings (before ++ [.number value])
      { state with output := .number value :: state.output } := by
  refine tracks.read_plain ?_ rfl ?_ rfl rfl
  · intro fault offends
    cases offends
  · simp [Conversion.operands, PostfixItem.token]

theorem name (tracks : Tracks table bindings before state) {text : String}
    (declared : bindings.contains text = true) :
    Tracks table bindings (before ++ [.name text])
      { state with output := .name text :: state.output } := by
  refine tracks.read_plain ?_ rfl ?_ rfl rfl
  · intro fault offends
    cases offends with
    | undeclared absent =>
        rw [declared] at absent
        cases absent
  · simp [Conversion.operands, PostfixItem.token]

theorem operator (tracks : Tracks table bindings before state) {op : Operator}
    (found : table.find? op.symbol = some op) :
    Tracks table bindings (before ++ [.operator op.symbol])
      { state with waiting := .operator op :: state.waiting } := by
  refine tracks.read [op] ?_ ?_ (by simp [Conversion.operands, isOperand]) ?_ rfl
    (by simpa using found)
  · intro fault offends
    cases offends with
    | unregistered absent => simp [OperatorTable.contains, found] at absent
  · simp [openAfter, Conversion.depth, Waiting.depth]
  · simp only [Conversion.operators, List.append_assoc, List.filterMap_cons, Waiting.operator?]
    exact (List.perm_append_singleton op _).symm.append_left _

theorem openParen (tracks : Tracks table bindings before state) :
    Tracks table bindings (before ++ [.openParen])
      { state with waiting := .openParen :: state.waiting } := by
  refine tracks.read_plain ?_ ?_ ?_ rfl rfl
  · intro fault offends
    cases offends
  · simp [openAfter, Conversion.depth, Waiting.depth, Nat.add_comm]
  · simp [Conversion.operands, isOperand]

theorem closeParen (tracks : Tracks table bindings before ⟨output, .openParen :: waiting⟩) :
    Tracks table bindings (before ++ [.closeParen]) ⟨output, waiting⟩ := by
  have inside : Conversion.depth ⟨output, .openParen :: waiting⟩ =
      Conversion.depth ⟨output, waiting⟩ + 1 := by
    simp [Conversion.depth, Waiting.depth, Nat.add_comm]
  have opened := (opened_iff tracks.depth).2 (by omega)
  refine tracks.read_plain ?_ ?_ ?_ rfl rfl
  · intro fault offends
    cases offends with
    | unopened alone => exact alone opened
  · rw [inside]
    rfl
  · simp [Conversion.operands, isOperand]

end Tracks

/-! ## Placing all tokens -/

variable {before : List Token} {state : Conversion}

/-- A token is either refused, because it offends, or placed and entered in the books. -/
theorem step_cases (tracks : Tracks table bindings before state) (token : Token) :
    (∃ fault, Offends table bindings before token fault ∧
      state.step table bindings token = .error fault) ∨
    ∃ placed, Tracks table bindings (before ++ [token]) placed ∧
      state.step table bindings token = .ok placed := by
  obtain ⟨output, waiting⟩ := state
  cases token with
  | number value => exact .inr ⟨_, tracks.number value, rfl⟩
  | name text =>
      cases declared : bindings.contains text with
      | true => exact .inr ⟨_, tracks.name declared, by simp [Conversion.step, declared]⟩
      | false => exact .inl ⟨_, .undeclared declared, by simp [Conversion.step, declared]⟩
  | operator symbol =>
      cases found : table.find? symbol with
      | none =>
          refine .inl ⟨_, .unregistered (by simp [OperatorTable.contains, found]), ?_⟩
          simp [Conversion.step, OperatorTable.lookup, found]
      | some incoming =>
          have same := OperatorTable.symbol_of_find? found
          subst same
          obtain ⟨popped, rest, rfl, pops, admits⟩ := exists_popped incoming waiting
          refine .inr ⟨_, tracks.emit.operator found, ?_⟩
          simp [Conversion.step, OperatorTable.lookup, found, finishBefore_pending pops admits]
  | openParen => exact .inr ⟨_, tracks.openParen, rfl⟩
  | closeParen =>
      obtain ⟨pending, rfl | ⟨outer, rfl⟩⟩ := exists_pending waiting
      · have depth := sum_depth_pending pending []
        rw [List.append_nil] at depth
        have alone : ¬ Opened before := by
          rw [opened_iff tracks.depth, Conversion.depth, depth]
          exact Nat.lt_irrefl 0
        exact .inl ⟨_, .unopened alone, by simp [Conversion.step, closeParen?_of_unopened]⟩
      · exact .inr ⟨_, tracks.emit.closeParen, by simp [Conversion.step, closeParen?_pending]⟩

/-- The tokens are all placed, up to the first that offends. -/
theorem run_cases (tracks : Tracks table bindings before state) (tokens : List Token) :
    (∃ first token rest fault, tokens = first ++ token :: rest ∧
      Placeable table bindings (before ++ first) ∧
      Offends table bindings (before ++ first) token fault ∧
      state.run table bindings tokens = .error fault) ∨
    ∃ final, Tracks table bindings (before ++ tokens) final ∧
      state.run table bindings tokens = .ok final := by
  induction tokens generalizing before state with
  | nil =>
      refine .inr ⟨state, ?_, rfl⟩
      rwa [List.append_nil]
  | cons token tokens ih =>
      rw [Conversion.run]
      rcases step_cases tracks token with ⟨fault, offends, step⟩ | ⟨placed, tracked, step⟩
      · rw [step]
        refine .inl ⟨[], token, tokens, fault, rfl, ?_, ?_, rfl⟩
        · rw [List.append_nil]
          exact tracks.placeable
        · rwa [List.append_nil]
      · rw [step]
        rcases ih tracked with ⟨first, other, rest, fault, rfl, placeable, offends, run⟩ |
          ⟨final, tracked, run⟩
        · rw [List.append_assoc, List.singleton_append] at placeable offends
          exact .inl ⟨token :: first, other, rest, fault, rfl, placeable, offends, run⟩
        · rw [List.append_assoc, List.singleton_append] at tracked
          exact .inr ⟨final, tracked, run⟩

theorem filter_isOperator_map_token (items : List PostfixItem) :
    (items.map PostfixItem.token).filter isOperator =
      (items.filterMap PostfixItem.operator?).map fun op => Token.operator op.symbol := by
  induction items with
  | nil => rfl
  | cons item items ih =>
      cases item with
      | number _ | name _ => exact ih
      | operator op => exact congrArg (Token.operator op.symbol :: ·) ih

/-- Once nothing waits, everything that has been read is in the output. -/
theorem Tracks.reorders {tokens : List Token} {output : List PostfixItem}
    (tracks : Tracks table bindings tokens ⟨output, []⟩) :
    Reorders table tokens output.reverse where
  plain := by
    intro token member
    obtain ⟨item, -, rfl⟩ := List.mem_map.1 member
    cases item <;> simp [PostfixItem.token]
  operands := tracks.operands
  operators := by
    rw [filter_isOperator_map_token, List.filterMap_reverse]
    refine ((List.reverse_perm _).map _).trans ?_
    simpa [Conversion.operators] using tracks.operators
  registered := by
    intro op member
    apply tracks.registered op
    simp only [Conversion.operators, List.filterMap_nil, List.append_nil, List.mem_filterMap]
    exact ⟨.operator op, List.mem_reverse.1 member, rfl⟩

/-- The first token that offends decides the fault.  If none does, an opening parenthesis
that is never closed is the only reason to fail, and what comes out holds the operands
in their order, each operator once and no parenthesis. -/
theorem ofTokens_fails_or_reorders (table : OperatorTable) (bindings : Bindings)
    (tokens : List Token) :
    (∃ before token after fault, tokens = before ++ token :: after ∧
      Placeable table bindings before ∧ Offends table bindings before token fault ∧
      ofTokens table bindings tokens = .error fault) ∨
    (Placeable table bindings tokens ∧ Unclosed tokens ∧
      ofTokens table bindings tokens = .error .mismatchedParentheses) ∨
    (Placeable table bindings tokens ∧ ¬ Unclosed tokens ∧
      ∃ items, ofTokens table bindings tokens = .ok items ∧ Reorders table tokens items) := by
  unfold ofTokens
  rcases run_cases tracks_start tokens with
    ⟨before, token, after, fault, split, placeable, offends, run⟩ | ⟨⟨output, waiting⟩, tracks, run⟩
  · rw [run]
    exact .inl ⟨before, token, after, fault, split, placeable, offends, rfl⟩
  · rw [run]
    rw [List.nil_append] at tracks
    have unclosed := unclosed_iff tracks.depth
    obtain ⟨pending, rfl | ⟨outer, rfl⟩⟩ := exists_pending waiting
    · rw [← List.append_nil (pending.map Waiting.operator)] at tracks unclosed
      rw [Conversion.depth, sum_depth_pending] at unclosed
      refine .inr (.inr ⟨tracks.placeable, ?_, _, ?_, tracks.emit.reorders⟩)
      · rw [unclosed]
        exact Nat.lt_irrefl 0
      · simp only [finish?_pending]
    · rw [Conversion.depth, sum_depth_pending, List.map_cons, List.sum_cons] at unclosed
      refine .inr (.inl ⟨tracks.placeable, unclosed.2 ?_, ?_⟩)
      · exact Nat.add_pos_left Nat.one_pos _
      · simp only [finish?_of_unclosed]

end Postfix

end Worksheet
