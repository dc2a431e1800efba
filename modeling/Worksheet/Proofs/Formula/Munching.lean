import Worksheet.Proofs.Formula.Naming

/-!
# Lexemes of greatest length

What a lexeme is can be said without looking for one in a text: it is a number, a name or a
symbol.  The lexeme that a step reads is the longest of these that the text starts with.  So
the lexemes and the blanks before them make up the text as far as it is read, and what remains
is nothing or starts with no lexeme.

A stream that is kept, or started again, gives the same items each time.
-/

namespace Worksheet

namespace Token

/-! ## What a lexeme is -/

/-- Digits, or digits and a point with or without more digits behind it, or a point and
digits. -/
inductive IsNumber : List Char → Prop where
  | whole {digits : List Char} :
      digits ≠ [] → (∀ c ∈ digits, c.isDigit = true) → IsNumber digits
  | pointed {digits fraction : List Char} :
      digits ≠ [] → (∀ c ∈ digits, c.isDigit = true) → (∀ c ∈ fraction, c.isDigit = true) →
        IsNumber (digits ++ '.' :: fraction)
  | fraction {digits : List Char} :
      digits ≠ [] → (∀ c ∈ digits, c.isDigit = true) → IsNumber ('.' :: digits)

/-- A letter, then letters and digits. -/
inductive IsName : List Char → Prop where
  | intro {letter : Char} {more : List Char} :
      letter.isAlpha = true → (∀ c ∈ more, c.isAlphanum = true) → IsName (letter :: more)

/-- The operators and parentheses. -/
def symbols : List Char :=
  ['+', '-', '*', '/', '(', ')']

/-- A text that is one lexeme. -/
inductive IsLexeme : List Char → Prop where
  | number {text : List Char} : IsNumber text → IsLexeme text
  | name {text : List Char} : IsName text → IsLexeme text
  | symbol {c : Char} : c ∈ symbols → IsLexeme [c]

/-- The token that a lexeme stands for.  The digits of a number are read as a decimal, and a
name is put into capitals. -/
def StandsFor (lexeme : List Char) : Token → Prop
  | number value => IsNumber lexeme ∧ Decimal.read? lexeme = some value
  | name text => IsName lexeme ∧ text = String.ofList (lexeme.map Char.toUpper)
  | operator symbol => symbol ∈ ['+', '-', '*', '/'] ∧ lexeme = [symbol]
  | openParen => lexeme = ['(']
  | closeParen => lexeme = [')']

/-- The longest lexeme that a text starts with. -/
structure Longest (lexeme text : List Char) : Prop where
  isLexeme : IsLexeme lexeme
  starts : lexeme <+: text
  longest : ∀ other, IsLexeme other → other <+: text → other.length ≤ lexeme.length

theorem isSymbol_iff_mem {c : Char} : isSymbol c = true ↔ c ∈ symbols := by
  simp [isSymbol, symbols, or_assoc]

/-- No symbol can start a number. -/
theorem noNumber_of_mem_symbols {c : Char} (listed : c ∈ symbols) :
    c.isDigit = false ∧ c ≠ '.' := by
  have plain : symbols.all (fun c => !c.isDigit && c != '.') = true := by
    decide
  simpa using List.all_eq_true.1 plain c listed

/-! ## Numbers, names and symbols at the start of a text -/

variable {c : Char} {lexeme text rest : List Char}

/-- A part whose characters are all wanted is not cut short by taking what is wanted. -/
theorem isPrefix_takeWhile {wanted : Char → Bool} {part : List Char}
    (all : ∀ c ∈ part, wanted c = true) (starts : part <+: text) :
    part <+: text.takeWhile wanted := by
  obtain ⟨later, rfl⟩ := starts
  rw [List.takeWhile_append_of_pos all]
  exact List.prefix_append _ _

theorem IsNumber.exists_cons (number : IsNumber lexeme) :
    ∃ c more, lexeme = c :: more ∧ (c.isDigit = true ∨ c = '.') := by
  cases number with
  | whole nonempty digits =>
      obtain ⟨c, more, rfl⟩ := List.exists_cons_of_ne_nil nonempty
      exact ⟨c, more, rfl, Or.inl (digits c List.mem_cons_self)⟩
  | pointed nonempty digits fraction =>
      obtain ⟨c, more, rfl⟩ := List.exists_cons_of_ne_nil nonempty
      exact ⟨c, _, rfl, Or.inl (digits c List.mem_cons_self)⟩
  | fraction nonempty digits => exact ⟨'.', _, rfl, Or.inr rfl⟩

/-- Digits that end at a point. -/
theorem span_point {whole : List Char} (digits : ∀ c ∈ whole, c.isDigit = true)
    (tail : List Char) :
    (whole ++ '.' :: tail).takeWhile Char.isDigit = whole ∧
      (whole ++ '.' :: tail).dropWhile Char.isDigit = '.' :: tail := by
  constructor
  · rw [List.takeWhile_append_of_pos digits, List.takeWhile_cons_of_neg (by decide),
      List.append_nil]
  · rw [List.dropWhile_append_of_pos digits, List.dropWhile_cons_of_neg (by decide)]

theorem numberAtStart_of_point {whole : List Char} (digits : ∀ c ∈ whole, c.isDigit = true)
    {tail : List Char} (nonempty : whole ≠ [] ∨ tail.takeWhile Char.isDigit ≠ []) :
    numberAtStart (whole ++ '.' :: tail) = whole ++ '.' :: tail.takeWhile Char.isDigit := by
  obtain ⟨taken, dropped⟩ := span_point digits tail
  rw [numberAtStart, taken, dropped]
  exact if_neg (by simpa [or_iff_not_imp_left] using nonempty)

theorem numberAtStart_eq_nil (noDigit : c.isDigit = false) (noPoint : c ≠ '.') :
    numberAtStart (c :: rest) = [] := by
  rw [numberAtStart, List.takeWhile_cons_of_neg (by simp [noDigit]),
    List.dropWhile_cons_of_neg (by simp [noDigit])]
  split
  · next tail same => exact absurd (List.cons.inj same).1 noPoint
  · rfl

/-- A number that a text starts with is not longer than the one that is found. -/
theorem IsNumber.isPrefix_numberAtStart (number : IsNumber lexeme) (starts : lexeme <+: text) :
    lexeme <+: numberAtStart text := by
  cases number with
  | whole nonempty digits =>
      refine (isPrefix_takeWhile digits starts).trans ?_
      rw [numberAtStart]
      split
      · dsimp only
        split
        · next nothing =>
            exact List.prefix_nil.2 (List.isEmpty_iff.1 (Bool.and_eq_true_iff.1 nothing).1)
        · exact List.prefix_append _ _
      · exact List.prefix_rfl
  | pointed nonempty digits fraction =>
      obtain ⟨later, rfl⟩ := starts
      rw [List.append_assoc, List.cons_append, numberAtStart_of_point digits (Or.inl nonempty),
        List.prefix_append_right_inj, List.cons_prefix_cons]
      exact ⟨rfl, isPrefix_takeWhile fraction (List.prefix_append _ _)⟩
  | @fraction digits nonempty all =>
      obtain ⟨later, rfl⟩ := starts
      have found := isPrefix_takeWhile all (List.prefix_append digits later)
      have behind : (digits ++ later).takeWhile Char.isDigit ≠ [] :=
        fun nothing => nonempty (List.prefix_nil.1 (nothing ▸ found))
      have read := numberAtStart_of_point (List.forall_mem_nil _) (Or.inr behind)
      rw [List.nil_append, List.nil_append] at read
      rw [List.cons_append, read, List.cons_prefix_cons]
      exact ⟨rfl, found⟩

theorem isNumber_numberAtStart (nonempty : numberAtStart text ≠ []) :
    IsNumber (numberAtStart text) := by
  have whole : ∀ c ∈ text.takeWhile Char.isDigit, c.isDigit = true :=
    fun c member => List.mem_takeWhile_imp member
  rw [numberAtStart] at nonempty ⊢
  split at nonempty
  · next tail dropped =>
      have fraction : ∀ c ∈ tail.takeWhile Char.isDigit, c.isDigit = true :=
        fun c member => List.mem_takeWhile_imp member
      dsimp only at nonempty ⊢
      split at nonempty
      · exact absurd rfl nonempty
      · next digits =>
          rw [if_neg digits]
          cases front : text.takeWhile Char.isDigit with
          | nil =>
              refine IsNumber.fraction ?_ fraction
              simpa [front] using digits
          | cons d more =>
              rw [front] at whole
              exact IsNumber.pointed (List.cons_ne_nil d more) whole fraction
  · exact IsNumber.whole nonempty whole

/-! ## The lexeme at the start of a text -/

/-- A lexeme that a text starts with is not longer than the one that is found. -/
theorem IsLexeme.isPrefix_lexemeAtStart (isLexeme : IsLexeme lexeme)
    (starts : lexeme <+: text) : lexeme <+: lexemeAtStart text := by
  cases isLexeme with
  | number number =>
      have found := number.isPrefix_numberAtStart starts
      obtain ⟨c, more, rfl, _⟩ := number.exists_cons
      have nonempty : numberAtStart text ≠ [] :=
        fun nothing => List.cons_ne_nil c more (List.prefix_nil.1 (nothing ▸ found))
      simpa [lexemeAtStart, nonempty] using found
  | name name =>
      obtain @⟨letter, more, alpha, others⟩ := name
      obtain ⟨later, rfl⟩ := starts
      have noDigit : letter.isDigit = false := by
        rw [← Bool.not_eq_true]
        intro digit
        rw [isAlpha_of_isDigit digit] at alpha
        cases alpha
      have noPoint : letter ≠ '.' := by
        rintro rfl
        exact absurd alpha (by decide)
      have read : lexemeAtStart (letter :: (more ++ later)) =
          letter :: (more ++ later).takeWhile Char.isAlphanum := by
        simp [lexemeAtStart, nameAtStart, numberAtStart_eq_nil noDigit noPoint, alpha]
      rw [List.cons_append, read, List.cons_prefix_cons]
      exact ⟨rfl, isPrefix_takeWhile others (List.prefix_append _ _)⟩
  | @symbol c listed =>
      obtain ⟨later, rfl⟩ := starts
      obtain ⟨noDigit, noPoint⟩ := noNumber_of_mem_symbols listed
      have isSymbol := isSymbol_iff_mem.2 listed
      simp [lexemeAtStart, nameAtStart, symbolAtStart, numberAtStart_eq_nil noDigit noPoint,
        isAlpha_of_isSymbol isSymbol, isSymbol]

theorem isLexeme_lexemeAtStart (nonempty : lexemeAtStart text ≠ []) :
    IsLexeme (lexemeAtStart text) := by
  rcases @lexemeAtStart_cases text _ rfl with number | name | symbol
  · rw [← number] at nonempty ⊢
    exact IsLexeme.number (isNumber_numberAtStart nonempty)
  · rw [← name] at nonempty ⊢
    cases text with
    | nil => exact absurd rfl nonempty
    | cons letter rest =>
        rw [nameAtStart] at nonempty ⊢
        split at nonempty
        · next alpha =>
            rw [if_pos alpha]
            exact IsLexeme.name (IsName.intro alpha fun c member => List.mem_takeWhile_imp member)
        · exact absurd rfl nonempty
  · rw [← symbol] at nonempty ⊢
    cases text with
    | nil => exact absurd rfl nonempty
    | cons c rest =>
        rw [symbolAtStart] at nonempty ⊢
        split at nonempty
        · next listed =>
            rw [if_pos listed]
            exact IsLexeme.symbol (isSymbol_iff_mem.1 listed)
        · exact absurd rfl nonempty

theorem isBlank_of_isAlphanum (wanted : c.isAlphanum = true) : Text.isBlank c = false := by
  rw [← Bool.not_eq_true]
  intro blank
  have word := Text.isWordChar_of_isAlphanum wanted
  rw [Text.isWordChar_of_isBlank blank] at word
  cases word

/-- No lexeme is empty or starts with a blank. -/
theorem IsLexeme.exists_visible (isLexeme : IsLexeme lexeme) :
    ∃ c more, lexeme = c :: more ∧ Text.isBlank c = false := by
  cases isLexeme with
  | number number =>
      obtain ⟨c, more, rfl, digit | rfl⟩ := number.exists_cons
      · exact ⟨c, more, rfl, isBlank_of_isAlphanum (by simp [Char.isAlphanum, digit])⟩
      · exact ⟨'.', more, rfl, by decide⟩
  | name name =>
      obtain @⟨letter, more, alpha, others⟩ := name
      exact ⟨letter, more, rfl, isBlank_of_isAlphanum (by simp [Char.isAlphanum, alpha])⟩
  | @symbol c listed =>
      have visible : symbols.all (fun c => !Text.isBlank c) = true := by
        decide
      exact ⟨c, [], rfl, by simpa using List.all_eq_true.1 visible c listed⟩

theorem IsLexeme.ne_nil (isLexeme : IsLexeme lexeme) : lexeme ≠ [] := by
  obtain ⟨c, more, rfl, _⟩ := isLexeme.exists_visible
  exact List.cons_ne_nil c more

/-- The lexeme that is found is the longest one. -/
theorem longest_iff_lexemeAtStart :
    Longest lexeme text ↔ lexeme ≠ [] ∧ lexemeAtStart text = lexeme := by
  constructor
  · intro longest
    have found := longest.isLexeme.isPrefix_lexemeAtStart longest.starts
    have nonempty : lexemeAtStart text ≠ [] :=
      fun nothing => longest.isLexeme.ne_nil (List.prefix_nil.1 (nothing ▸ found))
    have short := longest.longest _ (isLexeme_lexemeAtStart nonempty) (lexemeAtStart_isPrefix text)
    exact ⟨longest.isLexeme.ne_nil, (found.eq_of_length_le short).symm⟩
  · rintro ⟨nonempty, rfl⟩
    refine ⟨isLexeme_lexemeAtStart nonempty, lexemeAtStart_isPrefix text, ?_⟩
    intro other isLexeme starts
    exact (isLexeme.isPrefix_lexemeAtStart starts).length_le

/-- None is found only if the text starts with none. -/
theorem lexemeAtStart_eq_nil_iff :
    lexemeAtStart text = [] ↔ ∀ lexeme, IsLexeme lexeme → ¬ lexeme <+: text := by
  constructor
  · intro nothing lexeme isLexeme starts
    have found := isLexeme.isPrefix_lexemeAtStart starts
    rw [nothing] at found
    exact isLexeme.ne_nil (List.prefix_nil.1 found)
  · intro absent
    by_contra nonempty
    exact absent _ (isLexeme_lexemeAtStart nonempty) (lexemeAtStart_isPrefix text)

/-! ## The token of a lexeme -/

/-- A number is always readable as a decimal. -/
theorem IsNumber.read? (number : IsNumber lexeme) :
    Decimal.read? lexeme =
      some (Decimal.ofDigits false (lexeme.takeWhile Char.isDigit)
        ((lexeme.dropWhile Char.isDigit).drop 1) 0) := by
  have unsigned : Decimal.readSign lexeme = (false, lexeme) := by
    obtain ⟨c, more, rfl, start⟩ := number.exists_cons
    unfold Decimal.readSign
    split
    · next same =>
        cases same
        exact absurd start (by decide)
    · next same =>
        cases same
        exact absurd start (by decide)
    · rfl
  rw [Decimal.read?, unsigned]
  cases number with
  | whole nonempty digits =>
      have taken := List.takeWhile_eq_self_iff.2 digits
      have dropped := List.dropWhile_eq_nil_iff.2 digits
      simp [taken, dropped, nonempty, Decimal.readExponent?]
  | @pointed whole fraction nonempty digits behind =>
      obtain ⟨taken, dropped⟩ := span_point digits fraction
      have all := List.takeWhile_eq_self_iff.2 behind
      have rest := List.dropWhile_eq_nil_iff.2 behind
      simp [taken, dropped, all, rest, nonempty, Decimal.readExponent?]
  | @fraction digits nonempty all =>
      obtain ⟨taken, dropped⟩ := span_point (List.forall_mem_nil _) digits
      rw [List.nil_append] at taken dropped
      have whole := List.takeWhile_eq_self_iff.2 all
      have rest := List.dropWhile_eq_nil_iff.2 all
      simp [taken, dropped, whole, rest, nonempty, Decimal.readExponent?]

theorem IsNumber.ofLexeme (number : IsNumber lexeme) :
    ofLexeme lexeme =
      .number (Decimal.ofDigits false (lexeme.takeWhile Char.isDigit)
        ((lexeme.dropWhile Char.isDigit).drop 1) 0) := by
  obtain ⟨c, more, rfl, start⟩ := number.exists_cons
  have noAlpha : c.isAlpha = false := by
    rcases start with digit | rfl
    · exact isAlpha_of_isDigit digit
    · decide
  have noSymbol : c ∉ symbols := by
    intro listed
    obtain ⟨noDigit, noPoint⟩ := noNumber_of_mem_symbols listed
    rcases start with digit | point
    · rw [noDigit] at digit
      cases digit
    · exact noPoint point
  have noOpen : c ≠ '(' := by
    rintro rfl
    exact noSymbol (by decide)
  have noClose : c ≠ ')' := by
    rintro rfl
    exact noSymbol (by decide)
  have other : isSymbol c = false := by
    rw [← Bool.not_eq_true, isSymbol_iff_mem]
    exact noSymbol
  simp [Token.ofLexeme, noOpen, noClose, other, noAlpha]

/-- Every lexeme stands for a token. -/
theorem IsLexeme.standsFor_ofLexeme (isLexeme : IsLexeme lexeme) :
    StandsFor lexeme (ofLexeme lexeme) := by
  cases isLexeme with
  | number number =>
      rw [number.ofLexeme]
      exact ⟨number, number.read?⟩
  | name name =>
      obtain @⟨letter, more, alpha, others⟩ := name
      rw [ofLexeme_name alpha]
      exact ⟨IsName.intro alpha others, rfl⟩
  | @symbol c listed =>
      simp only [symbols, List.mem_cons, List.not_mem_nil, or_false] at listed
      rcases listed with rfl | rfl | rfl | rfl | rfl | rfl
      all_goals simp [ofLexeme, isSymbol, StandsFor]

/-- A lexeme stands for one token only. -/
theorem StandsFor.ofLexeme_eq {token : Token} (stands : StandsFor lexeme token) :
    ofLexeme lexeme = token := by
  cases token with
  | number value =>
      obtain ⟨number, read⟩ := stands
      rw [number.read?] at read
      rw [number.ofLexeme, Option.some.inj read]
  | name text =>
      obtain ⟨⟨alpha, others⟩, rfl⟩ := stands
      exact ofLexeme_name alpha
  | operator symbol =>
      obtain ⟨listed, rfl⟩ := stands
      simp only [List.mem_cons, List.not_mem_nil, or_false] at listed
      rcases listed with rfl | rfl | rfl | rfl
      all_goals rfl
  | openParen =>
      cases stands
      rfl
  | closeParen =>
      cases stands
      rfl

end Token

namespace TokenStream

/-! ## Requests to a stream -/

/-- What a request for the next item answers, if the stream is not over. -/
def request (stream : TokenStream) : Option (Except FormulaError Token) :=
  stream.next?.map Prod.fst

/-- The stream after a request.  A stream that is over stays as it is. -/
def advance (stream : TokenStream) : TokenStream :=
  (stream.next?.map Prod.snd).getD stream

/-- The stream after a number of requests. -/
def after : Nat → TokenStream → TokenStream
  | 0, stream => stream
  | count + 1, stream => after count stream.advance

variable {stream : TokenStream}

theorem request_eq_head? : stream.request = stream.items.head? := by
  cases step : stream.next? with
  | none => rw [request, step, items_of_ended step, Option.map_none, List.head?_nil]
  | some found => rw [request, step, items_of_step step, Option.map_some, List.head?_cons]

theorem items_advance : stream.advance.items = stream.items.tail := by
  cases step : stream.next? with
  | none =>
      rw [advance, step, Option.map_none, Option.getD_none, items_of_ended step, List.tail_nil]
  | some found =>
      rw [advance, step, Option.map_some, Option.getD_some, items_of_step step, List.tail_cons]

/-- After some requests the items that are left are those that were not given yet. -/
theorem items_after (count : Nat) : (stream.after count).items = stream.items.drop count := by
  induction count generalizing stream with
  | zero => rfl
  | succ count ih =>
      rw [after, ih, items_advance, List.drop_tail]

/-- The answers to requests are the items in order, and then nothing for ever. -/
theorem request_after (count : Nat) : (stream.after count).request = stream.items[count]? := by
  rw [request_eq_head?, items_after, List.head?_drop]

/-! ## Pieces of a text -/

/-- A lexeme, the blanks before it and the token it stands for. -/
structure Piece where
  blanks : List Char
  lexeme : List Char
  token : Token

namespace Piece

/-- The part of a text that a piece makes up. -/
def text (piece : Piece) : List Char :=
  piece.blanks ++ piece.lexeme

/-- Is this what is read first of a text that goes on with `rest` behind the piece? -/
structure Leads (piece : Piece) (rest : List Char) : Prop where
  blanks : ∀ c ∈ piece.blanks, Text.isBlank c = true
  longest : Token.Longest piece.lexeme (piece.lexeme ++ rest)
  standsFor : Token.StandsFor piece.lexeme piece.token

end Piece

/-- Pieces that are read of a text one after the other, and what is left behind them. -/
inductive Munches : List Char → List Piece → List Char → Prop where
  | done {rest : List Char} : Munches rest [] rest
  | more {piece : Piece} {pieces : List Piece} {text rest : List Char} :
      piece.Leads text → Munches text pieces rest →
        Munches (piece.text ++ text) (piece :: pieces) rest

/-- What is given behind the last token: nothing if nothing is left, and otherwise an error
that names what is left up to a blank or symbol behind its first character. -/
inductive Ending : List Char → List (Except FormulaError Token) → Prop where
  | complete : Ending [] []
  | fault {c : Char} {run later : List Char} :
      Text.isBlank c = false →
        (∀ lexeme, Token.IsLexeme lexeme → ¬ lexeme <+: c :: (run ++ later)) →
          (∀ d ∈ run, Text.isBlank d = false ∧ d ∉ Token.symbols) →
            (∀ d ∈ later.head?, Text.isBlank d = true ∨ d ∈ Token.symbols) →
              Ending (c :: (run ++ later))
                [.error (.unrecognizedToken (String.ofList (c :: run)))]

/-! ## One step -/

section

variable {blanks rest : List Char}

theorem trimStart_append (blank : ∀ c ∈ blanks, Text.isBlank c = true) {c : Char}
    (visible : Text.isBlank c = false) :
    Text.trimStart (blanks ++ c :: rest) = c :: rest := by
  rw [Text.trimStart, List.dropWhile_append_of_pos blank,
    List.dropWhile_cons_of_neg (by simp [visible])]

/-- Blanks alone give nothing. -/
theorem next?_blanks (blank : ∀ c ∈ blanks, Text.isBlank c = true) :
    (ofText blanks).next? = none := by
  have trimmed : Text.trimStart blanks = [] := List.dropWhile_eq_nil_iff.2 blank
  simp [next?, ofText, trimmed]

/-- A piece gives its token, and the stream goes on behind it. -/
theorem Piece.Leads.next? {piece : Piece} (leads : piece.Leads rest) :
    (ofText (piece.text ++ rest)).next? = some (.ok piece.token, ofText rest) := by
  obtain ⟨blank, longest, standsFor⟩ := leads
  obtain ⟨c, more, same, visible⟩ := longest.isLexeme.exists_visible
  have found := (Token.longest_iff_lexemeAtStart.1 longest).2
  have token := standsFor.ofLexeme_eq
  have whole : piece.text ++ rest = piece.blanks ++ c :: (more ++ rest) := by
    rw [Piece.text, same, List.append_assoc, List.cons_append]
  rw [same, List.cons_append] at found
  rw [same] at token
  rw [whole]
  simp [TokenStream.next?, ofText, trimStart_append blank visible, found, token]

theorem unrecognizedRun_append {c : Char} {run later : List Char}
    (inside : ∀ d ∈ run, Text.isBlank d = false ∧ d ∉ Token.symbols)
    (stop : ∀ d ∈ later.head?, Text.isBlank d = true ∨ d ∈ Token.symbols) :
    unrecognizedRun (c :: (run ++ later)) = c :: run := by
  have kept : ∀ d ∈ run, (!Text.isBlank d && !Token.isSymbol d) = true := by
    intro d member
    obtain ⟨visible, noSymbol⟩ := inside d member
    rw [← Token.isSymbol_iff_mem] at noSymbol
    simp [visible, noSymbol]
  rw [unrecognizedRun, List.takeWhile_append_of_pos kept]
  cases later with
  | nil => rw [List.takeWhile_nil, List.append_nil]
  | cons d rest =>
      have found := stop d rfl
      rw [← Token.isSymbol_iff_mem] at found
      rw [List.takeWhile_cons_of_neg (by simpa [or_iff_not_imp_left] using found),
        List.append_nil]

/-- A reading ends as its rest says. -/
theorem Ending.items {fault : List (Except FormulaError Token)}
    (blank : ∀ c ∈ blanks, Text.isBlank c = true) (ending : Ending rest fault) :
    (ofText (blanks ++ rest)).items = fault := by
  cases ending with
  | complete =>
      rw [List.append_nil]
      exact items_of_ended (next?_blanks blank)
  | @fault c run later visible none inside stop =>
      have nothing := Token.lexemeAtStart_eq_nil_iff.2 none
      have step : (ofText (blanks ++ c :: (run ++ later))).next? =
          some (.error (.unrecognizedToken (String.ofList (c :: run))),
            ⟨c :: (run ++ later), true⟩) := by
        simp [next?, ofText, trimStart_append blank visible, nothing,
          unrecognizedRun_append inside stop]
      rw [items_of_step step, items_of_ended rfl]

/-- A text that starts with no lexeme ends a reading. -/
theorem exists_ending {c : Char} {tail : List Char} (visible : Text.isBlank c = false)
    (nothing : Token.lexemeAtStart (c :: tail) = []) : ∃ fault, Ending (c :: tail) fault := by
  let inside := fun d : Char => !Text.isBlank d && !Token.isSymbol d
  have split : tail.takeWhile inside ++ tail.dropWhile inside = tail :=
    List.takeWhile_append_dropWhile
  rw [← split] at nothing ⊢
  refine ⟨_, Ending.fault visible (Token.lexemeAtStart_eq_nil_iff.1 nothing) ?_ ?_⟩
  · intro d member
    have kept := List.mem_takeWhile_imp member
    simpa [inside, ← Token.isSymbol_iff_mem] using kept
  · intro d first
    have stop := List.head?_dropWhile_not inside tail
    rw [Option.mem_def.1 first] at stop
    simpa [inside, ← Token.isSymbol_iff_mem, or_iff_not_imp_left] using stop

end

/-! ## All steps -/

/-- A text starts with a piece, or its reading ends behind its blanks. -/
theorem leads_or_ending (text : List Char) :
    (∃ piece later, text = Piece.text piece ++ later ∧ piece.Leads later) ∨
      ∃ blanks rest fault, text = blanks ++ rest ∧
        (∀ c ∈ blanks, Text.isBlank c = true) ∧ Ending rest fault := by
  have split : text.takeWhile Text.isBlank ++ Text.trimStart text = text :=
    List.takeWhile_append_dropWhile
  have blank : ∀ c ∈ text.takeWhile Text.isBlank, Text.isBlank c = true :=
    fun c member => List.mem_takeWhile_imp member
  cases trimmed : Text.trimStart text with
  | nil =>
      rw [trimmed] at split
      exact Or.inr ⟨_, [], [], split.symm, blank, Ending.complete⟩
  | cons c tail =>
      have visible := Text.trimStart_cons trimmed
      rw [trimmed] at split
      cases found : Token.lexemeAtStart (c :: tail) with
      | nil =>
          obtain ⟨fault, ending⟩ := exists_ending visible found
          exact Or.inr ⟨_, c :: tail, fault, split.symm, blank, ending⟩
      | cons d more =>
          have longest := Token.longest_iff_lexemeAtStart.2 ⟨List.cons_ne_nil d more, found⟩
          obtain ⟨later, whole⟩ := longest.starts
          rw [← whole] at longest split
          refine Or.inl ⟨⟨text.takeWhile Text.isBlank, d :: more, Token.ofLexeme (d :: more)⟩,
            later, ?_, blank, longest, longest.isLexeme.standsFor_ofLexeme⟩
          rw [Piece.text, List.append_assoc, split]

/-- Every text is read in pieces, blanks and an ending. -/
theorem exists_munches (text : List Char) :
    ∃ pieces blanks rest fault, Munches text pieces (blanks ++ rest) ∧
      (∀ c ∈ blanks, Text.isBlank c = true) ∧ Ending rest fault := by
  rcases leads_or_ending text with ⟨piece, later, same, leads⟩ | ⟨blanks, rest, fault, same, ends⟩
  · have shorter : later.length < text.length := by
      have nonempty := List.length_pos_iff.2 leads.longest.isLexeme.ne_nil
      simp only [same, Piece.text, List.length_append]
      omega
    obtain ⟨pieces, blanks, rest, fault, munches, ends⟩ := exists_munches later
    exact ⟨piece :: pieces, blanks, rest, fault, same ▸ Munches.more leads munches, ends⟩
  · exact ⟨[], blanks, rest, fault, same ▸ Munches.done, ends⟩
termination_by text.length

variable {text rest : List Char} {pieces : List Piece}

/-- The pieces make up the text as far as it is read. -/
theorem Munches.text_eq (munches : Munches text pieces rest) :
    text = pieces.flatMap Piece.text ++ rest := by
  induction munches with
  | done => rfl
  | more leads munches ih => rw [List.flatMap_cons, List.append_assoc, ← ih]

theorem Munches.length_le (munches : Munches text pieces rest) :
    pieces.length + rest.length ≤ text.length := by
  induction munches with
  | done => simp
  | @more piece pieces text rest leads munches ih =>
      have nonempty := List.length_pos_iff.2 leads.longest.isLexeme.ne_nil
      simp only [Piece.text, List.length_append, List.length_cons]
      omega

/-- The pieces give their tokens, and then the rest gives its items. -/
theorem Munches.items (munches : Munches text pieces rest) :
    (ofText text).items = pieces.map (fun piece => .ok piece.token) ++ (ofText rest).items := by
  induction munches with
  | done => rfl
  | more leads munches ih =>
      rw [items_of_step leads.next?, ih, List.map_cons, List.cons_append]

/-- After some requests the pieces that were given make up what the stream is past. -/
theorem Munches.after (munches : Munches text pieces rest) {count : Nat}
    (given : count ≤ pieces.length) :
    text = (pieces.take count).flatMap Piece.text ++ ((ofText text).after count).rest := by
  induction munches generalizing count with
  | done =>
      obtain rfl := Nat.le_zero.1 given
      rfl
  | @more piece pieces text rest leads munches ih =>
      cases count with
      | zero => rfl
      | succ count =>
          have step : (ofText (piece.text ++ text)).advance = ofText text := by
            rw [advance, leads.next?]
            rfl
          rw [TokenStream.after, step, List.take_succ_cons, List.flatMap_cons, List.append_assoc,
            ← ih (Nat.le_of_succ_le_succ given)]

theorem Ending.length_le {fault : List (Except FormulaError Token)} (ending : Ending rest fault) :
    fault.length ≤ rest.length := by
  cases ending <;> simp

/-- All items are tokens only if nothing is left. -/
theorem Ending.eq_nil_iff {fault : List (Except FormulaError Token)}
    (ending : Ending rest fault) :
    rest = [] ↔ ∀ item ∈ fault, ∃ token, item = .ok token := by
  cases ending <;> simp

/-- The requests to a stream give the longest lexemes of its text, one after the other.

The lexemes, the blanks before them and the blanks that follow make up the text up to a rest, and
so do those given so far at every moment.  All items are tokens exactly if the rest is empty;
otherwise the last one, and only that one, is an error, which names the start of the rest.  No
more items are given than the text has characters.  A stream that is kept after some requests,
and one that is started again, which is kept after none, gives and counts the same items. -/
theorem ofText_munches (text : List Char) :
    ∃ pieces blanks rest fault,
      Munches text pieces (blanks ++ rest) ∧
      (∀ c ∈ blanks, Text.isBlank c = true) ∧
      Ending rest fault ∧
      text = pieces.flatMap Piece.text ++ (blanks ++ rest) ∧
      (ofText text).items = pieces.map (fun piece => .ok piece.token) ++ fault ∧
      ((∀ item ∈ (ofText text).items, ∃ token, item = .ok token) ↔ rest = []) ∧
      (ofText text).items.length ≤ text.length ∧
      ∀ count,
        ((ofText text).after count).request = (ofText text).items[count]? ∧
        ((ofText text).after count).items = (ofText text).items.drop count ∧
        ((ofText text).after count).items.length = (ofText text).items.length - count ∧
        (count ≤ pieces.length →
          text = (pieces.take count).flatMap Piece.text ++ ((ofText text).after count).rest) := by
  obtain ⟨pieces, blanks, rest, fault, munches, blank, ending⟩ := exists_munches text
  have items : (ofText text).items = pieces.map (fun piece => .ok piece.token) ++ fault := by
    rw [munches.items, ending.items blank]
  refine ⟨pieces, blanks, rest, fault, munches, blank, ending, munches.text_eq, items, ?_, ?_, ?_⟩
  · rw [items, ending.eq_nil_iff, List.forall_mem_append]
    refine and_iff_right ?_
    simp
  · have pieces_le := munches.length_le
    have fault_le := ending.length_le
    rw [items]
    simp only [List.length_append, List.length_map] at pieces_le ⊢
    omega
  · intro count
    refine ⟨request_after count, items_after count, ?_, munches.after⟩
    rw [items_after, List.length_drop]

end TokenStream

end Worksheet
