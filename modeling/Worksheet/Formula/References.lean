import Worksheet.Address.Basic
import Worksheet.Text.WordChar

/-!
# References of a formula

The cells that a formula text reads.  A reference is a whole word, that is a
run of word characters that cannot be made longer, which is the name of a cell:
`A1` is not found inside `XA1`, `A10` or `A1_`.  Words that look like a name but
lie beyond the limits of the grid are passed over.

The search goes through the text once.  It looks for a name only where a word
starts, and accepts it only where the word ends.
-/

namespace Worksheet.References

/-- Letters and digits at the start of a text that make a whole word, and the
text after them. -/
def wordAtStart? (text : List Char) : Option (List Char × List Char) :=
  let letters := text.takeWhile Char.isAlpha
  let afterLetters := text.dropWhile Char.isAlpha
  let digits := afterLetters.takeWhile Char.isDigit
  let rest := afterLetters.dropWhile Char.isDigit
  if letters.isEmpty || digits.isEmpty then none
  else
    match rest with
    | [] => some (letters ++ digits, [])
    | c :: tail => if Text.isWordChar c then none else some (letters ++ digits, c :: tail)

/-- What follows a word is shorter than the text that starts with it. -/
theorem length_lt_of_wordAtStart? {text word rest : List Char}
    (h : wordAtStart? text = some (word, rest)) : rest.length < text.length := by
  have whole : (text.dropWhile Char.isAlpha).length ≤ text.length :=
    (List.dropWhile_sublist _).length_le
  have parts := congrArg List.length
    (List.takeWhile_append_dropWhile (p := Char.isDigit) (l := text.dropWhile Char.isAlpha))
  rw [List.length_append] at parts
  unfold wordAtStart? at h
  dsimp only at h
  split at h
  · simp at h
  · next found =>
      have digits : 0 < ((text.dropWhile Char.isAlpha).takeWhile Char.isDigit).length := by
        simp only [Bool.or_eq_true, List.isEmpty_iff, not_or] at found
        exact List.length_pos_iff.2 found.2
      split at h
      · next empty =>
          obtain ⟨_, rfl⟩ := Prod.mk.inj (Option.some.inj h)
          simp only [List.length_nil]
          omega
      · next c tail after =>
          split at h
          · simp at h
          · obtain ⟨_, rfl⟩ := Prod.mk.inj (Option.some.inj h)
            rw [← after]
            omega

/-- The whole words of letters and digits in a text, where `inWord` says whether
the character before the text is a word character. -/
def candidates (inWord : Bool) (text : List Char) : List (List Char) :=
  match text with
  | [] => []
  | c :: rest =>
      if inWord then candidates (Text.isWordChar c) rest
      else
        match _found : wordAtStart? (c :: rest) with
        | some (word, after) => word :: candidates true after
        | none => candidates (Text.isWordChar c) rest
termination_by text.length
decreasing_by
  · simp
  · exact length_lt_of_wordAtStart? _found
  · simp

/-- The cells that a text names, without repetition, in order of first
appearance. -/
def inText (text : List Char) : List Address :=
  ((candidates false text).filterMap Address.ofName?).eraseDups

end Worksheet.References
