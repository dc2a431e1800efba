import Worksheet.Decimal.Reading
import Worksheet.Decimal.Positional

/-!
# Tokens

A formula text is a sequence of lexemes: numbers, names, and the six symbols
`+ - * / ( )`.  This file says which texts are lexemes and what each of them
stands for.  The lexeme at the start of a text is always the longest one.
-/

namespace Worksheet

/-- What a lexeme stands for. -/
inductive Token where
  | number (value : Float)
  /-- A name, in capitals. -/
  | name (text : String)
  | operator (symbol : Char)
  | openParen
  | closeParen
  deriving DecidableEq

namespace Token

/-- Is this an operator or a parenthesis? -/
def isSymbol (c : Char) : Bool :=
  c == '+' || c == '-' || c == '*' || c == '/' || c == '(' || c == ')'

/-- The longest number at the start of a text: digits with an optional point
after them and more digits after that, or a point and digits.  It is empty if
the text does not start with a number. -/
def numberAtStart (text : List Char) : List Char :=
  let whole := text.takeWhile Char.isDigit
  match text.dropWhile Char.isDigit with
  | '.' :: tail =>
      let fraction := tail.takeWhile Char.isDigit
      if whole.isEmpty && fraction.isEmpty then [] else whole ++ '.' :: fraction
  | _ => whole

/-- The longest name at the start of a text: a letter, then letters and digits.
It is empty if the text does not start with a letter. -/
def nameAtStart : List Char → List Char
  | [] => []
  | c :: rest => if c.isAlpha then c :: rest.takeWhile Char.isAlphanum else []

/-- The symbol at the start of a text, or nothing. -/
def symbolAtStart : List Char → List Char
  | [] => []
  | c :: _ => if isSymbol c then [c] else []

/-- The lexeme at the start of a text.  It is empty if there is none. -/
def lexemeAtStart (text : List Char) : List Char :=
  let numeral := numberAtStart text
  let word := nameAtStart text
  if !numeral.isEmpty then numeral
  else if !word.isEmpty then word
  else symbolAtStart text

/-- What a lexeme stands for.  Names are put into capitals. -/
def ofLexeme (lexeme : List Char) : Token :=
  match lexeme with
  | [] => name ""
  | c :: _ =>
      if c = '(' then openParen
      else if c = ')' then closeParen
      else if isSymbol c then operator c
      else if c.isAlpha then name (String.ofList (lexeme.map Char.toUpper))
      else
        number (Decimal.ofDigits false (lexeme.takeWhile Char.isDigit)
          ((lexeme.dropWhile Char.isDigit).drop 1) 0)

/-- A token as it is shown in a list of tokens. -/
def toText : Token → String
  | number value => Decimal.write value
  | name text => text
  | operator symbol => symbol.toString
  | openParen => "("
  | closeParen => ")"

/-- The longest lexeme at the start of a text is a part of that text. -/
theorem lexemeAtStart_isPrefix (text : List Char) : lexemeAtStart text <+: text := by
  have numeral : numberAtStart text <+: text := by
    unfold numberAtStart
    split
    · next tail found =>
        dsimp only
        split
        · exact List.nil_prefix
        · have split := List.takeWhile_append_dropWhile (p := Char.isDigit) (l := text)
          refine ⟨tail.dropWhile Char.isDigit, ?_⟩
          rw [List.append_assoc, List.cons_append, List.takeWhile_append_dropWhile, ← found, split]
    · exact List.takeWhile_prefix _
  have word : nameAtStart text <+: text := by
    cases text with
    | nil => exact List.nil_prefix
    | cons c rest =>
        by_cases h : c.isAlpha
        · simpa [nameAtStart, h] using List.takeWhile_prefix _
        · simp [nameAtStart, h]
  have symbol : symbolAtStart text <+: text := by
    cases text with
    | nil => exact List.nil_prefix
    | cons c rest =>
        by_cases h : isSymbol c <;> simp [symbolAtStart, h]
  unfold lexemeAtStart
  dsimp only
  split
  · exact numeral
  · split
    · exact word
    · exact symbol

end Token

end Worksheet
