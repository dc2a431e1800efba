import Mathlib.Data.List.TakeWhile
import Worksheet.Formula.TokenStream
import Worksheet.Text.WordChar

/-!
# Lexemes of a text

The tokens of a text are read one at a time.  The statements here say what one
step of this is, for a blank, for a lexeme and for anything else.  From them
follows that the tokens stand for the lexemes of the text in order.

With each lexeme goes the answer whether it stands directly behind a word
character.  The tokens do not depend on this, but what counts as a word does.
-/

namespace Worksheet

/-! ## The lexeme at the start of a text -/

namespace Token

theorem isAlpha_of_isDigit {c : Char} (digit : c.isDigit = true) : c.isAlpha = false := by
  rw [Char.isDigit_iff_toNat] at digit
  have listed : ∀ code, code ≤ '9'.toNat → '0'.toNat ≤ code →
      (Char.ofNat code).isAlpha = false := by
    decide
  have found := listed c.toNat digit.2 digit.1
  rwa [Char.ofNat_toNat] at found

/-- The characters that can start a lexeme without being a letter or a digit. -/
def marks : List Char :=
  ['.', '+', '-', '*', '/', '(', ')']

theorem mem_marks_of_isSymbol {c : Char} (symbol : isSymbol c = true) : c ∈ marks := by
  have listed : c ∈ ['+', '-', '*', '/', '(', ')'] := by
    simpa [isSymbol, or_assoc] using symbol
  exact List.mem_cons_of_mem _ listed

theorem isAlpha_of_isSymbol {c : Char} (symbol : isSymbol c = true) : c.isAlpha = false := by
  have listed : marks.all (fun c => !c.isAlpha) = true := by
    decide
  have found := List.all_eq_true.1 listed c (mem_marks_of_isSymbol symbol)
  simpa using found

/-- A number consists of digits and points. -/
theorem isDigit_or_point_of_mem_numberAtStart {c : Char} {text : List Char}
    (member : c ∈ numberAtStart text) : c.isDigit = true ∨ c = '.' := by
  rw [numberAtStart] at member
  split at member
  · dsimp only at member
    split at member
    · exact absurd member List.not_mem_nil
    · rw [List.mem_append, List.mem_cons] at member
      rcases member with whole | rfl | fraction
      · exact Or.inl (List.mem_takeWhile_imp whole)
      · exact Or.inr rfl
      · exact Or.inl (List.mem_takeWhile_imp fraction)
  · exact Or.inl (List.mem_takeWhile_imp member)

/-- A lexeme is a number, a name or a symbol. -/
theorem lexemeAtStart_cases {text lexeme : List Char} (found : lexemeAtStart text = lexeme) :
    numberAtStart text = lexeme ∨ nameAtStart text = lexeme ∨ symbolAtStart text = lexeme := by
  unfold lexemeAtStart at found
  dsimp only at found
  split at found
  · exact Or.inl found
  · split at found
    · exact Or.inr (Or.inl found)
    · exact Or.inr (Or.inr found)

variable {c d : Char} {rest more : List Char}

/-- A lexeme starts with the first character of the text. -/
theorem eq_append_of_lexemeAtStart (found : lexemeAtStart (c :: rest) = d :: more) :
    d = c ∧ rest = more ++ rest.drop more.length := by
  obtain ⟨after, split⟩ := lexemeAtStart_isPrefix (c :: rest)
  rw [found, List.cons_append] at split
  obtain ⟨same, split⟩ := List.cons.inj split
  refine ⟨same, ?_⟩
  rw [← split, List.drop_left]

/-- A lexeme is a name with all letters and digits that follow, or it has no letters. -/
theorem name_or_noLetter_of_lexemeAtStart (found : lexemeAtStart (c :: rest) = d :: more) :
    (d.isAlpha = true ∧ more = rest.takeWhile Char.isAlphanum) ∨
      ∀ letter ∈ d :: more, letter.isAlpha = false := by
  rcases lexemeAtStart_cases found with number | name | symbol
  · right
    intro letter member
    rw [← number] at member
    rcases isDigit_or_point_of_mem_numberAtStart member with digit | rfl
    · exact isAlpha_of_isDigit digit
    · decide
  · left
    rw [nameAtStart] at name
    split at name
    · next start =>
        obtain ⟨rfl, rfl⟩ := List.cons.inj name
        exact ⟨start, rfl⟩
    · cases name
  · right
    rw [symbolAtStart] at symbol
    split at symbol
    · next start =>
        obtain ⟨rfl, rfl⟩ := List.cons.inj symbol
        intro letter member
        rw [List.mem_singleton.1 member]
        exact isAlpha_of_isSymbol start
    · cases symbol

/-- A lexeme that does not start with a letter or a digit starts with a point or a
symbol. -/
theorem mem_of_lexemeAtStart (found : lexemeAtStart (c :: rest) = d :: more)
    (other : c.isAlphanum = false) : c ∈ marks := by
  obtain ⟨rfl, _⟩ := eq_append_of_lexemeAtStart found
  rw [Char.isAlphanum, Bool.or_eq_false_iff] at other
  rcases lexemeAtStart_cases found with number | name | symbol
  · have member : d ∈ numberAtStart (d :: rest) := by
      rw [number]
      exact List.mem_cons_self
    rcases isDigit_or_point_of_mem_numberAtStart member with digit | rfl
    · rw [other.2] at digit
      cases digit
    · decide
  · simp [nameAtStart, other.1] at name
  · rw [symbolAtStart] at symbol
    split at symbol
    · next start => exact mem_marks_of_isSymbol start
    · cases symbol

/-- Only lexemes that start with a letter stand for names. -/
theorem ofLexeme_name (start : d.isAlpha = true) :
    ofLexeme (d :: more) = name (String.ofList ((d :: more).map Char.toUpper)) := by
  have noSymbol : isSymbol d = false := by
    rw [← Bool.not_eq_true]
    intro symbol
    rw [isAlpha_of_isSymbol symbol] at start
    cases start
  have noOpen : d ≠ '(' := by
    rintro rfl
    exact absurd start (by decide)
  have noClose : d ≠ ')' := by
    rintro rfl
    exact absurd start (by decide)
  simp [ofLexeme, noOpen, noClose, noSymbol, start]

theorem ofLexeme_ne_name (start : d.isAlpha = false) (text : String) :
    ofLexeme (d :: more) ≠ name text := by
  unfold ofLexeme
  dsimp only
  split
  · exact Token.noConfusion
  · split
    · exact Token.noConfusion
    · split
      · exact Token.noConfusion
      · rw [if_neg (by simp [start])]
        exact Token.noConfusion

end Token

/-! ## Steps of reading -/

namespace TokenStream

/-- Items that were found earlier stand in front. -/
theorem itemsAfter_append (found : List (Except FormulaError Token)) (stream : TokenStream)
    (earlier : List (Except FormulaError Token)) :
    itemsAfter (found ++ earlier) stream = earlier.reverse ++ itemsAfter found stream := by
  induction found, stream using itemsAfter.induct with
  | case1 found stream ended =>
      rw [itemsAfter, itemsAfter]
      split
      · rw [List.reverse_append]
      · next item after step => rw [ended] at step; cases step
  | case2 found stream item after step ih =>
      rw [itemsAfter, itemsAfter]
      split
      · next ended => rw [step] at ended; cases ended
      · next item' after' step' =>
          rw [step] at step'
          cases step'
          exact ih

theorem items_of_ended {stream : TokenStream} (ended : stream.next? = none) :
    stream.items = [] := by
  rw [items, itemsAfter]
  split
  · rfl
  · next item after step => rw [ended] at step; cases step

theorem items_of_step {stream after : TokenStream} {item : Except FormulaError Token}
    (step : stream.next? = some (item, after)) : stream.items = item :: after.items := by
  rw [items, itemsAfter]
  split
  · next ended => rw [step] at ended; cases ended
  · next item' after' step' =>
      rw [step] at step'
      cases step'
      exact itemsAfter_append [] _ [item]

theorem tokens?_nil : tokens? [] = .ok [] := by
  rw [tokens?, items_of_ended rfl]
  rfl

variable {c : Char} {rest : List Char}

/-- Blanks are passed over. -/
theorem tokens?_blank (blank : Text.isBlank c = true) : tokens? (c :: rest) = tokens? rest := by
  have same : (ofText (c :: rest)).next? = (ofText rest).next? := by
    simp [next?, ofText, Text.trimStart, blank]
  have items : (ofText (c :: rest)).items = (ofText rest).items := by
    cases step : (ofText rest).next? with
    | none => rw [items_of_ended step, items_of_ended (same.trans step)]
    | some found => rw [items_of_step step, items_of_step (same.trans step)]
  rw [tokens?, tokens?, items]

/-- A lexeme gives a token, and the reading goes on behind it. -/
theorem tokens?_lexeme (visible : Text.isBlank c = false) {d : Char} {more : List Char}
    (lexeme : Token.lexemeAtStart (c :: rest) = d :: more) :
    tokens? (c :: rest) =
      (tokens? (rest.drop more.length)).map (Token.ofLexeme (d :: more) :: ·) := by
  have step : (ofText (c :: rest)).next? =
      some (.ok (Token.ofLexeme (d :: more)), ofText (rest.drop more.length)) := by
    simp [next?, ofText, Text.trimStart_of_not_isBlank visible, lexeme]
  rw [tokens?, items_of_step step, List.mapM_cons]
  rfl

/-- Anything else is an error. -/
theorem tokens?_unrecognized (visible : Text.isBlank c = false)
    (nothing : Token.lexemeAtStart (c :: rest) = []) :
    tokens? (c :: rest) =
      .error (.unrecognizedToken (String.ofList (unrecognizedRun (c :: rest)))) := by
  have step : (ofText (c :: rest)).next? =
      some (.error (.unrecognizedToken (String.ofList (unrecognizedRun (c :: rest)))),
        ⟨c :: rest, true⟩) := by
    simp [next?, ofText, Text.trimStart_of_not_isBlank visible, nothing]
  rw [tokens?, items_of_step step, List.mapM_cons]
  rfl

end TokenStream

/-! ## Lexemes -/

/-- A lexeme of a text, and whether it stands directly behind a word character. -/
structure Lexeme where
  text : List Char
  behindWord : Bool
  deriving DecidableEq, Repr

namespace Lexeme

/-- The lexemes of a text up to the first character that starts none, where
`behindWord` says whether the text itself stands behind a word character. -/
def inText (behindWord : Bool) (text : List Char) : List Lexeme :=
  match text with
  | [] => []
  | c :: rest =>
      if Text.isBlank c then inText (Text.isWordChar c) rest
      else
        match Token.lexemeAtStart (c :: rest) with
        | [] => []
        | d :: more =>
            ⟨d :: more, behindWord⟩ ::
              inText (Text.isWordChar ((d :: more).getLast (List.cons_ne_nil d more)))
                (rest.drop more.length)
termination_by text.length
decreasing_by
  · simp
  · simp only [List.length_drop, List.length_cons]
    omega

section

variable {behindWord : Bool} {c : Char} {rest : List Char}

theorem inText_nil : inText behindWord [] = [] := by
  rw [inText.eq_def]

theorem inText_blank (blank : Text.isBlank c = true) :
    inText behindWord (c :: rest) = inText (Text.isWordChar c) rest := by
  rw [inText.eq_def]
  simp only [if_pos blank]

theorem inText_lexeme (visible : ¬ Text.isBlank c = true) {d : Char} {more : List Char}
    (lexeme : Token.lexemeAtStart (c :: rest) = d :: more) :
    inText behindWord (c :: rest) =
      ⟨d :: more, behindWord⟩ ::
        inText (Text.isWordChar ((d :: more).getLast (List.cons_ne_nil d more)))
          (rest.drop more.length) := by
  rw [inText.eq_def]
  simp only [if_neg visible, lexeme]

end

/-- Every lexeme starts with a letter or has no letters. -/
theorem shape_of_mem_inText {behindWord : Bool} {text : List Char} {lexeme : Lexeme}
    (member : lexeme ∈ inText behindWord text) :
    ∃ d more, lexeme.text = d :: more ∧
      (d.isAlpha = true ∨ ∀ c ∈ d :: more, c.isAlpha = false) := by
  induction behindWord, text using inText.induct with
  | case1 behindWord =>
      rw [inText_nil] at member
      exact absurd member List.not_mem_nil
  | case2 behindWord c rest blank ih =>
      rw [inText_blank blank] at member
      exact ih member
  | case3 behindWord c rest visible nothing =>
      rw [inText.eq_def] at member
      simp only [if_neg visible, nothing] at member
      exact absurd member List.not_mem_nil
  | case4 behindWord c rest visible d more found ih =>
      rw [inText_lexeme visible found, List.mem_cons] at member
      rcases member with rfl | later
      · refine ⟨d, more, rfl, ?_⟩
        exact (Token.name_or_noLetter_of_lexemeAtStart found).imp_left And.left
      · exact ih later

/-- The tokens of a text stand for its lexemes. -/
theorem map_ofLexeme_inText {text : List Char} {tokens : List Token}
    (accepted : TokenStream.tokens? text = .ok tokens) (behindWord : Bool) :
    (inText behindWord text).map (fun lexeme => Token.ofLexeme lexeme.text) = tokens := by
  induction behindWord, text using inText.induct generalizing tokens with
  | case1 behindWord =>
      rw [TokenStream.tokens?_nil] at accepted
      cases accepted
      rw [inText_nil]
      rfl
  | case2 behindWord c rest blank ih =>
      rw [TokenStream.tokens?_blank blank] at accepted
      rw [inText_blank blank]
      exact ih accepted
  | case3 behindWord c rest visible nothing =>
      rw [TokenStream.tokens?_unrecognized (by simpa using visible) nothing] at accepted
      cases accepted
  | case4 behindWord c rest visible d more lexeme ih =>
      rw [TokenStream.tokens?_lexeme (by simpa using visible) lexeme] at accepted
      cases later : TokenStream.tokens? (rest.drop more.length) with
      | error fault =>
          rw [later] at accepted
          cases accepted
      | ok others =>
          rw [later] at accepted
          cases accepted
          rw [inText_lexeme visible lexeme, List.map_cons, ih later]

end Lexeme

end Worksheet
