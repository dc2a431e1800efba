import Worksheet.Formula.Basic
import Worksheet.Formula.References
import Worksheet.Proofs.Address.Name
import Worksheet.Proofs.Formula.Lexing
import Worksheet.Proofs.List.Distinct

/-!
# Cells that a text names

The references of a formula text are found among its words, and the variables of
a formula among its lexemes.  A name is a word exactly if it does not stand
directly behind a word character, which in a text that can be read is the last
digit of a number.  So the two agree for texts in which no such name occurs.
-/

namespace Worksheet

/-! ## Characters between words -/

namespace Text

/-- No blank is a word character. -/
theorem isWordChar_of_isBlank {c : Char} (blank : isBlank c = true) : isWordChar c = false := by
  have listed : ∀ code ∈ [0x09, 0x0A, 0x0B, 0x0C, 0x0D, 0x20, 0x85, 0xA0, 0x1680, 0x2000, 0x2001,
      0x2002, 0x2003, 0x2004, 0x2005, 0x2006, 0x2007, 0x2008, 0x2009, 0x200A, 0x2028, 0x2029,
      0x202F, 0x205F, 0x3000], isWordChar (Char.ofNat code) = false := by
    decide +kernel
  have member := listed c.toNat
  rw [Char.ofNat_toNat] at member
  apply member
  simp only [isBlank, Bool.or_eq_true, Bool.and_eq_true, decide_eq_true_eq, beq_iff_eq] at blank
  simp only [List.mem_cons, List.not_mem_nil, or_false]
  omega

theorem isAlpha_of_isBlank {c : Char} (blank : isBlank c = true) : c.isAlpha = false := by
  rw [← Bool.not_eq_true]
  intro letter
  have word := isWordChar_of_isAlphanum (c := c) (by simp [Char.isAlphanum, letter])
  rw [isWordChar_of_isBlank blank] at word
  cases word

end Text

namespace References

open Text

/-! ## Searching words -/

theorem candidates_nil (inWord : Bool) : candidates inWord [] = [] := by
  rw [candidates.eq_def]

theorem candidates_true_cons (c : Char) (rest : List Char) :
    candidates true (c :: rest) = candidates (isWordChar c) rest := by
  rw [candidates.eq_def]
  rfl

theorem candidates_of_none {c : Char} {rest : List Char}
    (none : wordAtStart? (c :: rest) = Option.none) (inWord : Bool) :
    candidates inWord (c :: rest) = candidates (isWordChar c) rest := by
  cases inWord with
  | true => exact candidates_true_cons c rest
  | false =>
      rw [candidates.eq_def]
      dsimp only
      rw [if_neg Bool.false_ne_true]
      split
      · next word after found =>
          rw [none] at found
          cases found
      · rfl

theorem candidates_of_some {c : Char} {rest word after : List Char}
    (found : wordAtStart? (c :: rest) = some (word, after)) :
    candidates false (c :: rest) = word :: candidates true after := by
  rw [candidates.eq_def]
  dsimp only
  rw [if_neg Bool.false_ne_true]
  split
  · next word' after' found' =>
      rw [found] at found'
      cases found'
      rfl
  · next none =>
      rw [found] at none
      cases none

/-- Inside a word the search passes over all word characters. -/
theorem candidates_true_append {part : List Char} (word : ∀ c ∈ part, isWordChar c = true)
    (after : List Char) : candidates true (part ++ after) = candidates true after := by
  induction part with
  | nil => rfl
  | cons c part ih =>
      rw [List.cons_append, candidates_true_cons, word c List.mem_cons_self]
      exact ih fun d member => word d (List.mem_cons_of_mem c member)

theorem wordAtStart?_of_noLetter {c : Char} (plain : c.isAlpha = false) (rest : List Char) :
    wordAtStart? (c :: rest) = none := by
  simp [wordAtStart?, plain]

/-- A part without letters holds no word. -/
theorem candidates_append_of_noLetter {c : Char} {part : List Char}
    (plain : ∀ d ∈ c :: part, d.isAlpha = false) (inWord : Bool) (after : List Char) :
    candidates inWord (c :: part ++ after) =
      candidates (isWordChar ((c :: part).getLast (List.cons_ne_nil c part))) after := by
  induction part generalizing c inWord with
  | nil => exact candidates_of_none (wordAtStart?_of_noLetter (plain c (by simp)) _) inWord
  | cons d part ih =>
      rw [List.cons_append,
        candidates_of_none (wordAtStart?_of_noLetter (plain c (by simp)) _) inWord]
      rw [ih fun e member => plain e (List.mem_cons_of_mem c member)]
      rw [List.getLast_cons (List.cons_ne_nil d part)]

/-! ## Names as words -/

/-- A search for the end of a property stops where the property fails. -/
theorem takeWhile_append_of_stop {property : Char → Bool} (part : List Char) {after : List Char}
    (stop : ∀ c ∈ after.head?, property c = false) :
    (part ++ after).takeWhile property = part.takeWhile property ∧
      (part ++ after).dropWhile property = part.dropWhile property ++ after := by
  have front : after.takeWhile property = [] ∧ after.dropWhile property = after := by
    cases after with
    | nil => exact ⟨rfl, rfl⟩
    | cons c after => simp [stop c (by simp)]
  induction part with
  | nil => exact front
  | cons c part ih =>
      by_cases holds : property c
      · simp [holds, ih]
      · simp [holds]

theorem drop_length_takeWhile (property : Char → Bool) (text : List Char) :
    text.drop (text.takeWhile property).length = text.dropWhile property := by
  calc text.drop (text.takeWhile property).length
      = (text.takeWhile property ++ text.dropWhile property).drop
          (text.takeWhile property).length := by rw [List.takeWhile_append_dropWhile]
    _ = text.dropWhile property := List.drop_left

theorem not_alphanum_of_isWordChar {c : Char} (other : isWordChar c = false) :
    c.isAlpha = false ∧ c.isDigit = false := by
  rw [← Bool.or_eq_false_iff, ← Bool.not_eq_true]
  intro alphanum
  rw [isWordChar_of_isAlphanum alphanum] at other
  cases other

/-- A run of word characters is the word at the start of a text if it consists of
letters and of digits after them. -/
theorem wordAtStart?_append {part after : List Char} (whole : ∀ c ∈ part, isWordChar c = true)
    (ends : ∀ c ∈ after.head?, isWordChar c = false) :
    wordAtStart? (part ++ after) =
      if part.takeWhile Char.isAlpha = [] ∨
          (part.dropWhile Char.isAlpha).takeWhile Char.isDigit = [] ∨
          (part.dropWhile Char.isAlpha).dropWhile Char.isDigit ≠ [] then none
      else some (part, after) := by
  have letters := takeWhile_append_of_stop part fun c member =>
    (not_alphanum_of_isWordChar (ends c member)).1
  have digits := takeWhile_append_of_stop (part.dropWhile Char.isAlpha) fun c member =>
    (not_alphanum_of_isWordChar (ends c member)).2
  have parts := List.takeWhile_append_dropWhile (p := Char.isAlpha) (l := part)
  have backParts := List.takeWhile_append_dropWhile (p := Char.isDigit)
    (l := part.dropWhile Char.isAlpha)
  rw [wordAtStart?, letters.1, letters.2, digits.1, digits.2]
  cases rest : (part.dropWhile Char.isAlpha).dropWhile Char.isDigit with
  | nil =>
      rw [rest, List.append_nil] at backParts
      rw [List.nil_append, backParts, parts]
      cases after with
      | nil => simp
      | cons c after => simp [ends c (by simp)]
  | cons c rest' =>
      have within : c ∈ part := by
        rw [← parts, ← backParts, rest]
        simp
      simp [whole c within]

/-- A name is the word at the start of a text, or it denotes no cell. -/
theorem wordAtStart?_name {c : Char} {more after : List Char} (start : c.isAlpha = true)
    (inside : ∀ d ∈ c :: more, isWordChar d = true)
    (ends : ∀ d ∈ after.head?, isWordChar d = false) :
    wordAtStart? (c :: (more ++ after)) = some (c :: more, after) ∨
      wordAtStart? (c :: (more ++ after)) = none ∧ Address.ofName? (c :: more) = none := by
  rw [← List.cons_append, wordAtStart?_append inside ends]
  have noName := Address.ofName?_eq_none (c :: more)
  split
  · next other =>
      refine Or.inr ⟨rfl, noName ?_⟩
      rw [List.all_eq_true]
      rcases other with noLetter | noDigit | further
      · simp [start] at noLetter
      · cases back : (c :: more).dropWhile Char.isAlpha with
        | nil => exact Or.inl rfl
        | cons d back' =>
            right
            intro all
            rw [back] at noDigit
            simp [all d List.mem_cons_self] at noDigit
      · right
        intro all
        exact further (List.dropWhile_eq_nil_iff.2 all)
  · exact Or.inl rfl

/-- What comes behind a name in a text that can be read is no word character. -/
theorem isWordChar_of_tokens? {c : Char} {rest : List Char} {tokens : List Token}
    (accepted : TokenStream.tokens? (c :: rest) = .ok tokens) (other : c.isAlphanum = false) :
    isWordChar c = false := by
  by_cases blank : isBlank c = true
  · exact isWordChar_of_isBlank blank
  · cases lexeme : Token.lexemeAtStart (c :: rest) with
    | nil =>
        rw [TokenStream.tokens?_unrecognized (by simpa using blank) lexeme] at accepted
        cases accepted
    | cons d more =>
        have listed : Token.marks.all (fun c => !isWordChar c) = true := by
          decide
        have found := List.all_eq_true.1 listed c (Token.mem_of_lexemeAtStart lexeme other)
        simpa using found

end References

/-! ## Cells of lexemes -/

namespace Lexeme

/-- The cell that a lexeme names. -/
def cell? (lexeme : Lexeme) : Option Address :=
  Address.ofName? lexeme.text

/-- The cells that some lexemes name, each once, in order of first appearance. -/
def cells (lexemes : List Lexeme) : List Address :=
  (lexemes.filterMap cell?).eraseDups

/-- Does a lexeme stand apart from the word before it? -/
def isApart (lexeme : Lexeme) : Bool :=
  !lexeme.behindWord

end Lexeme

namespace References

open Text

/-- The search finds nothing in a lexeme without letters, which names no cell. -/
theorem candidates_lexeme_of_noLetter {d : Char} {more : List Char}
    (plain : ∀ c ∈ d :: more, c.isAlpha = false) (behindWord : Bool) (after : List Char) :
    (candidates behindWord (d :: (more ++ after))).filterMap Address.ofName? =
      ([⟨d :: more, behindWord⟩].filter Lexeme.isApart).filterMap Lexeme.cell? ++
        (candidates (isWordChar ((d :: more).getLast (List.cons_ne_nil d more)))
          after).filterMap Address.ofName? := by
  have none : Lexeme.cell? ⟨d :: more, behindWord⟩ = Option.none :=
    Address.ofName?_of_noLetter plain
  rw [← List.cons_append, candidates_append_of_noLetter plain]
  cases behindWord <;> simp [Lexeme.isApart, none]

/-- The search finds a name that stands apart, as far as it names a cell. -/
theorem candidates_lexeme_of_name {d : Char} {more after : List Char} (start : d.isAlpha = true)
    (inside : ∀ c ∈ more, c.isAlphanum = true)
    (ends : ∀ c ∈ after.head?, isWordChar c = false) (behindWord : Bool) :
    (candidates behindWord (d :: (more ++ after))).filterMap Address.ofName? =
      ([⟨d :: more, behindWord⟩].filter Lexeme.isApart).filterMap Lexeme.cell? ++
        (candidates (isWordChar ((d :: more).getLast (List.cons_ne_nil d more)))
          after).filterMap Address.ofName? := by
  have first : isWordChar d = true :=
    isWordChar_of_isAlphanum (by simp [Char.isAlphanum, start])
  have word : ∀ c ∈ d :: more, isWordChar c = true := by
    intro c member
    rcases List.mem_cons.1 member with rfl | later
    · exact first
    · exact isWordChar_of_isAlphanum (inside c later)
  rw [word _ (List.getLast_mem _)]
  cases behindWord with
  | true =>
      rw [← List.cons_append, candidates_true_append word]
      simp [Lexeme.isApart]
  | false =>
      rcases wordAtStart?_name start word ends with found | ⟨nothing, noCell⟩
      · rw [candidates_of_some found, List.filterMap_cons]
        cases named : Address.ofName? (d :: more) <;> simp [Lexeme.isApart, Lexeme.cell?, named]
      · rw [candidates_of_none nothing, first]
        rw [candidates_true_append fun c member => word c (List.mem_cons_of_mem d member)]
        simp [Lexeme.isApart, Lexeme.cell?, noCell]

/-- What follows the letters and digits of a name in a text that can be read is no word
character. -/
theorem isWordChar_behind_name {rest more : List Char} {tokens : List Token}
    (name : more = rest.takeWhile Char.isAlphanum)
    (later : TokenStream.tokens? (rest.drop more.length) = .ok tokens) :
    ∀ c ∈ (rest.drop more.length).head?, isWordChar c = false := by
  have behind : rest.drop more.length = rest.dropWhile Char.isAlphanum := by
    rw [name, drop_length_takeWhile]
  intro c member
  have stopped := List.head?_dropWhile_not Char.isAlphanum rest
  rw [← behind, member] at stopped
  obtain ⟨tail, after⟩ := List.head?_eq_some_iff.1 member
  rw [after] at later
  exact isWordChar_of_tokens? later stopped

/-- The words of a text that can be read are its names that stand apart, as far as
they name cells. -/
theorem candidates_eq {text : List Char} {tokens : List Token}
    (accepted : TokenStream.tokens? text = .ok tokens) (behindWord : Bool) :
    (candidates behindWord text).filterMap Address.ofName? =
      ((Lexeme.inText behindWord text).filter Lexeme.isApart).filterMap Lexeme.cell? := by
  induction behindWord, text using Lexeme.inText.induct generalizing tokens with
  | case1 behindWord => rw [candidates_nil, Lexeme.inText_nil]; rfl
  | case2 behindWord c rest blank ih =>
      rw [TokenStream.tokens?_blank blank] at accepted
      rw [candidates_of_none (wordAtStart?_of_noLetter (isAlpha_of_isBlank blank) rest),
        Lexeme.inText_blank blank]
      exact ih accepted
  | case3 behindWord c rest visible nothing =>
      rw [TokenStream.tokens?_unrecognized (by simpa using visible) nothing] at accepted
      cases accepted
  | case4 behindWord c rest visible d more lexeme ih =>
      rw [TokenStream.tokens?_lexeme (by simpa using visible) lexeme] at accepted
      rw [Lexeme.inText_lexeme visible lexeme]
      obtain ⟨rfl, split⟩ := Token.eq_append_of_lexemeAtStart lexeme
      cases later : TokenStream.tokens? (rest.drop more.length) with
      | error fault =>
          rw [later] at accepted
          cases accepted
      | ok others =>
          rw [← List.singleton_append (x := Lexeme.mk _ _), List.filter_append,
            List.filterMap_append, ← ih later]
          conv_lhs => rw [split]
          rcases Token.name_or_noLetter_of_lexemeAtStart lexeme with ⟨start, name⟩ | plain
          · refine candidates_lexeme_of_name start ?_ ?_ behindWord
            · intro c member
              rw [name] at member
              exact List.mem_takeWhile_imp member
            · exact isWordChar_behind_name name later
          · exact candidates_lexeme_of_noLetter plain behindWord _

/-- The references of a text that can be read are the cells that it names apart from
other words. -/
theorem inText_of_tokens? {text : List Char} {tokens : List Token}
    (accepted : TokenStream.tokens? text = .ok tokens) :
    inText text = Lexeme.cells ((Lexeme.inText false text).filter Lexeme.isApart) := by
  rw [inText, candidates_eq accepted, Lexeme.cells]

end References

/-! ## Cells of variables -/

/-- Declaring names adds those that are new. -/
theorem Bindings.names_declareAll (declared before : List String) (bindings : Bindings)
    (start : bindings.names = before.eraseDups) :
    (bindings.declareAll declared).names = (before ++ declared).eraseDups := by
  induction declared generalizing before bindings with
  | nil =>
      rw [List.append_nil]
      exact start
  | cons name declared ih =>
      have next : (bindings.declare name).names = (before ++ [name]).eraseDups := by
        have known : bindings.contains name = before.contains name := by
          rw [Bool.eq_iff_iff, List.contains_iff_mem, ← List.mem_eraseDups, ← start]
          simp [contains, names]
        rw [Distinct.eraseDups_concat, declare, known]
        split
        · exact start
        · rw [← start]
          simp [names]
      have rest := ih (before ++ [name]) (bindings.declare name) next
      rw [List.append_assoc, List.singleton_append] at rest
      exact rest

namespace Formula

/-- The cells that the variables of a formula name, each once, in order of first
appearance. -/
def cells (formula : Formula) : List Address :=
  (formula.names.filterMap Address.ofString?).eraseDups

variable {table : OperatorTable} {text : List Char} {formula : Formula}

/-- A formula that has been read has the names among its tokens as variables. -/
theorem names_of_parse (parsed : parse table text = .ok formula) :
    ∃ tokens, TokenStream.tokens? text = .ok tokens ∧
      formula.names = (namesOf tokens).eraseDups := by
  rw [parse] at parsed
  cases read : TokenStream.tokens? text with
  | error fault =>
      rw [read] at parsed
      cases parsed
  | ok tokens =>
      rw [read] at parsed
      refine ⟨tokens, rfl, ?_⟩
      dsimp only at parsed
      unfold ofTokens at parsed
      dsimp only at parsed
      split at parsed
      · cases parsed
      · split at parsed
        · cases parsed
        · cases parsed
          exact Bindings.names_declareAll (namesOf tokens) [] Bindings.empty rfl

/-- The names among the tokens of some lexemes denote the cells of the lexemes. -/
theorem filterMap_namesOf {lexemes : List Lexeme}
    (shaped : ∀ lexeme ∈ lexemes, ∃ c more, lexeme.text = c :: more ∧
      (c.isAlpha = true ∨ ∀ d ∈ c :: more, d.isAlpha = false)) :
    (namesOf (lexemes.map fun lexeme => Token.ofLexeme lexeme.text)).filterMap
      Address.ofString? = lexemes.filterMap Lexeme.cell? := by
  induction lexemes with
  | nil => rfl
  | cons lexeme lexemes ih =>
      have rest := ih fun other member => shaped other (List.mem_cons_of_mem _ member)
      obtain ⟨c, more, text, shape⟩ := shaped lexeme List.mem_cons_self
      rw [List.map_cons, List.filterMap_cons, ← rest, Lexeme.cell?, text]
      rcases shape with start | plain
      · rw [Token.ofLexeme_name start, namesOf, List.filterMap_cons]
        dsimp only
        rw [List.filterMap_cons, Address.ofString?, String.toList_ofList,
          Address.ofName?_map_toUpper]
        rfl
      · rw [Address.ofName?_of_noLetter plain]
        have noName : ∀ text, Token.ofLexeme (c :: more) ≠ .name text :=
          Token.ofLexeme_ne_name (plain c List.mem_cons_self)
        cases token : Token.ofLexeme (c :: more) with
        | name text => exact absurd token (noName text)
        | _ => rfl

theorem cells_of_parse (parsed : parse table text = .ok formula) :
    formula.cells = Lexeme.cells (Lexeme.inText false text) := by
  obtain ⟨tokens, accepted, names⟩ := names_of_parse parsed
  rw [cells, names, Distinct.eraseDups_filterMap_eraseDups,
    ← Lexeme.map_ofLexeme_inText accepted false,
    filterMap_namesOf fun lexeme member => Lexeme.shape_of_mem_inText member, Lexeme.cells]

theorem inText_of_parse (parsed : parse table text = .ok formula) :
    References.inText text = Lexeme.cells ((Lexeme.inText false text).filter Lexeme.isApart) := by
  obtain ⟨tokens, accepted, _⟩ := names_of_parse parsed
  exact References.inText_of_tokens? accepted

/-- The variables of a formula name the references of its text exactly if no cell is
lost or moved to another place when the names that stand directly behind a word
character are left out.  A cell is lost if all its names stand there. -/
theorem cells_eq_inText_iff (parsed : parse table text = .ok formula) :
    (formula.cells = References.inText text ↔
      Lexeme.cells (Lexeme.inText false text) =
        Lexeme.cells ((Lexeme.inText false text).filter Lexeme.isApart)) ∧
    ∀ cell, cell ∈ References.inText text ↔
      cell ∈ formula.cells ∧
        ∃ lexeme ∈ Lexeme.inText false text, lexeme.isApart ∧ lexeme.cell? = some cell := by
  rw [cells_of_parse parsed, inText_of_parse parsed]
  refine ⟨Iff.rfl, ?_⟩
  intro cell
  simp only [Lexeme.cells, List.mem_eraseDups, List.mem_filterMap, List.mem_filter]
  constructor
  · rintro ⟨lexeme, ⟨member, apart⟩, names⟩
    exact ⟨⟨lexeme, member, names⟩, lexeme, member, apart, names⟩
  · rintro ⟨_, lexeme, member, apart, names⟩
    exact ⟨lexeme, ⟨member, apart⟩, names⟩

/-- In a text without such names nothing is lost. -/
theorem cells_eq_inText_of_mixed_case :
    ∃ formula, parse OperatorTable.arithmetic "B2+a1*b2-A1".toList = .ok formula ∧
      formula.cells = References.inText "B2+a1*b2-A1".toList := by
  have accepted : (parse OperatorTable.arithmetic "B2+a1*b2-A1".toList).isOk = true := by
    decide +kernel
  cases parsed : parse OperatorTable.arithmetic "B2+a1*b2-A1".toList with
  | error fault =>
      rw [parsed] at accepted
      cases accepted
  | ok formula => exact ⟨formula, rfl, (cells_eq_inText_iff parsed).1.2 (by decide +kernel)⟩

/-- A cell is lost whose only name stands directly behind a number. -/
theorem inText_lacks_name_behind_number :
    ∃ formula, parse OperatorTable.arithmetic "1A1+".toList = .ok formula ∧
      formula.cells = [⟨0, 0⟩] ∧ References.inText "1A1+".toList = [] := by
  have accepted : (parse OperatorTable.arithmetic "1A1+".toList).isOk = true := by
    decide +kernel
  cases parsed : parse OperatorTable.arithmetic "1A1+".toList with
  | error fault =>
      rw [parsed] at accepted
      cases accepted
  | ok formula =>
      refine ⟨formula, rfl, ?_, by decide +kernel⟩
      rw [cells_of_parse parsed]
      decide +kernel

end Formula

/-! ## Tracked texts -/

namespace References

/-- Every cell that a variable of the formula names is a reference of the text. -/
def Tracked (text : List Char) : Prop :=
  ∀ formula, Formula.parse OperatorTable.arithmetic text = .ok formula →
    ∀ name ∈ formula.names, ∀ cell, Address.ofString? name = some cell → cell ∈ inText text

/-- A text is tracked if no lexeme that names a cell stands directly behind a word
character. -/
theorem tracked_of_apart {text : List Char}
    (apart : ∀ lexeme ∈ Lexeme.inText false text,
      lexeme.cell?.isSome = true → lexeme.isApart = true) : Tracked text := by
  intro formula parsed name member cell denotes
  have named : cell ∈ formula.cells := by
    rw [Formula.cells, List.mem_eraseDups, List.mem_filterMap]
    exact ⟨name, member, denotes⟩
  rw [Formula.cells_of_parse parsed, Lexeme.cells, List.mem_eraseDups, List.mem_filterMap] at named
  obtain ⟨lexeme, among, names⟩ := named
  rw [Formula.inText_of_parse parsed, Lexeme.cells, List.mem_eraseDups, List.mem_filterMap]
  exact ⟨lexeme, List.mem_filter.2 ⟨among, apart lexeme among (by rw [names]; rfl)⟩, names⟩

end References

end Worksheet
