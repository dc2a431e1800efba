import Worksheet.Formula.Error
import Worksheet.Formula.Token
import Worksheet.Text.Blank

/-!
# Token streams

A token stream is what remains to be read of a formula text.  Each step drops
blanks and then gives the token of the next lexeme together with the rest of
the stream.  If no lexeme starts there the step gives an error, which names the
text up to the next blank or symbol, and the stream is over.

A stream is a value, so a stream kept from before a step gives the same tokens
again.
-/

namespace Worksheet

/-- What remains to be read of a formula text. -/
structure TokenStream where
  rest : List Char
  /-- Has a step met a text that is not a lexeme? -/
  failed : Bool
  deriving DecidableEq, Repr

namespace TokenStream

/-- The stream of all tokens of a text. -/
def ofText (text : List Char) : TokenStream :=
  ⟨text, false⟩

/-- The text named by an error: the first character, and what follows it up to
the next blank or symbol. -/
def unrecognizedRun : List Char → List Char
  | [] => []
  | c :: rest => c :: rest.takeWhile fun d => !Text.isBlank d && !Token.isSymbol d

/-- One step: the next token or error and the rest of the stream, or nothing if
the stream is over. -/
def next? (stream : TokenStream) : Option (Except FormulaError Token × TokenStream) :=
  if stream.failed then none
  else
    match Text.trimStart stream.rest with
    | [] => none
    | c :: tail =>
        match Token.lexemeAtStart (c :: tail) with
        | [] =>
            let run := String.ofList (unrecognizedRun (c :: tail))
            some (.error (.unrecognizedToken run), ⟨c :: tail, true⟩)
        | d :: lexeme =>
            some (.ok (Token.ofLexeme (d :: lexeme)), ⟨tail.drop lexeme.length, false⟩)

/-- A bound on the number of steps that are left. -/
def remaining (stream : TokenStream) : Nat :=
  if stream.failed then 0 else stream.rest.length + 1

/-- Every step brings the end of the stream nearer. -/
theorem remaining_lt_of_next? {stream after : TokenStream} {item : Except FormulaError Token}
    (h : stream.next? = some (item, after)) : after.remaining < stream.remaining := by
  unfold next? at h
  split at h
  · simp at h
  · next running =>
      split at h
      · simp at h
      · next c tail trimmed =>
          have short := Text.length_trimStart_le stream.rest
          rw [trimmed] at short
          simp only [List.length_cons] at short
          split at h
          · obtain ⟨rfl, rfl⟩ := Prod.mk.inj (Option.some.inj h)
            simp [remaining, running]
          · next d lexeme found =>
            obtain ⟨rfl, rfl⟩ := Prod.mk.inj (Option.some.inj h)
            simp only [remaining, running, List.length_drop]
            simp
            omega

/-- The items that are left, after those already found, which are reversed. -/
def itemsAfter (found : List (Except FormulaError Token)) (stream : TokenStream) :
    List (Except FormulaError Token) :=
  match _step : stream.next? with
  | none => found.reverse
  | some (item, after) => itemsAfter (item :: found) after
termination_by stream.remaining
decreasing_by exact remaining_lt_of_next? _step

/-- Everything that the steps from here on give. -/
def items (stream : TokenStream) : List (Except FormulaError Token) :=
  itemsAfter [] stream

/-- The tokens of a whole text, or its first error. -/
def tokens? (text : List Char) : Except FormulaError (List Token) :=
  (ofText text).items.mapM id

end TokenStream

end Worksheet
