/-!
# Faults of JSON texts

Reading a JSON text stops at the first fault.  There are three kinds: the text
is not JSON, it is JSON so far but not of the wanted shape, or it ends too
early.
-/

namespace Worksheet.Json

/-- The kinds of fault in a JSON text. -/
inductive Fault where
  /-- The text is not JSON. -/
  | malformed
  /-- A value has the wrong type or is out of range, or a field is missing or repeated. -/
  | mismatched
  /-- The text ends inside a value. -/
  | truncated
  deriving DecidableEq, Repr

/-- Is this one of the four blank characters of JSON? -/
def isBlank (c : Char) : Bool :=
  c == ' ' || c == '\n' || c == '\t' || c == '\r'

/-- The text without the blanks at its start. -/
def skipBlanks (text : List Char) : List Char :=
  text.dropWhile isBlank

/-- Skipping blanks never makes a text longer. -/
theorem length_skipBlanks_le (text : List Char) : (skipBlanks text).length ≤ text.length :=
  (List.dropWhile_sublist _).length_le

/-- Blanks are skipped only where there are some. -/
theorem skipBlanks_of_not_isBlank {c : Char} {rest : List Char} (h : isBlank c = false) :
    skipBlanks (c :: rest) = c :: rest := by
  simp [skipBlanks, h]

/-- Take away a character that must come next. -/
def expect (wanted : Char) : List Char → Except Fault (List Char)
  | [] => .error .truncated
  | c :: rest => if c = wanted then .ok rest else .error .malformed

/-- Take away the rest of a word such as `null`, character by character. -/
def finishWord : (word text : List Char) → Except Fault (List Char)
  | [], text => .ok text
  | c :: word, text =>
      match expect c text with
      | .error fault => .error fault
      | .ok rest => finishWord word rest

/-- What follows an expected character is shorter. -/
theorem length_lt_of_expect {wanted : Char} {text rest : List Char}
    (h : expect wanted text = .ok rest) : rest.length < text.length := by
  cases text with
  | nil => simp [expect] at h
  | cons c tail =>
      simp only [expect] at h
      split at h
      · injection h with h
        simp [h]
      · simp at h

/-- What follows a word is not longer. -/
theorem length_le_of_finishWord {word text rest : List Char}
    (h : finishWord word text = .ok rest) : rest.length ≤ text.length := by
  induction word generalizing text with
  | nil =>
      injection h with h
      simp [h]
  | cons c word ih =>
      simp only [finishWord] at h
      split at h
      · simp at h
      · next found => exact Nat.le_trans (ih h) (Nat.le_of_lt (length_lt_of_expect found))

end Worksheet.Json
