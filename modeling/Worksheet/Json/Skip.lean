import Worksheet.Json.Text

/-!
# Values that are passed over

The value of an unknown key is checked to be JSON and is otherwise ignored.  A
machine does this one character at a time.  It knows the lists and objects that
are open and what may come next, so values may be nested to any depth.

Inside strings that are passed over, surrogates need not come in pairs.  A
number that breaks off at the end of the text is malformed, whereas any other
value that breaks off there is truncated.
-/

namespace Worksheet.Json

/-- A list or an object that is open. -/
inductive Frame where
  | list
  | object
  deriving DecidableEq, Repr

/-- What may come next in a value that is passed over. -/
inductive Awaited where
  /-- A value. -/
  | value
  /-- A value or the end of the list. -/
  | firstItem
  /-- A key or the end of the object. -/
  | firstKey
  /-- A key. -/
  | key
  /-- The colon after a key. -/
  | colon
  /-- A comma or the end of the innermost list or object. -/
  | more
  /-- The rest of a string, which is or is not a key. -/
  | string (isKey : Bool)
  /-- The rest of an escape in a string. -/
  | escape (isKey : Bool)
  /-- Some hexadecimal digits in a string. -/
  | hexDigits (isKey : Bool) (count : Nat)
  /-- The rest of a word. -/
  | word (rest : List Char)
  /-- The first digit of a number. -/
  | firstDigit
  /-- What follows a leading zero. -/
  | afterZero
  /-- More digits before the point. -/
  | digits
  /-- The first digit after the point. -/
  | firstDecimal
  /-- More digits after the point. -/
  | decimals
  /-- The sign or the first digit of an exponent. -/
  | exponent
  /-- The first digit of an exponent. -/
  | firstExponentDigit
  /-- More digits of an exponent. -/
  | exponentDigits
  deriving DecidableEq, Repr

/-- What one character brings about. -/
inductive Advance where
  | fault (fault : Fault)
  /-- The value has ended before the character. -/
  | endedBefore
  /-- The value ends with the character. -/
  | endedAfter
  /-- The value goes on. -/
  | goOn (frames : List Frame) (awaited : Awaited)

/-- A value inside the open frames ends with the current character. -/
def closeValue (frames : List Frame) : Advance :=
  if frames.isEmpty then .endedAfter else .goOn frames .more

/-- A string ends with the current character. -/
def closeString (frames : List Frame) (isKey : Bool) : Advance :=
  if isKey then .goOn frames .colon else closeValue frames

/-- A value starts with this character. -/
def openValue (frames : List Frame) (c : Char) : Advance :=
  if c = 'n' then .goOn frames (.word "ull".toList)
  else if c = 't' then .goOn frames (.word "rue".toList)
  else if c = 'f' then .goOn frames (.word "alse".toList)
  else if c = '-' then .goOn frames .firstDigit
  else if c = '0' then .goOn frames .afterZero
  else if c.isDigit then .goOn frames .digits
  else if c = '"' then .goOn frames (.string false)
  else if c = '[' then .goOn (.list :: frames) .firstItem
  else if c = '\x7b' then .goOn (.object :: frames) .firstKey
  else .fault .malformed

/-- This character follows a value inside the open frames. -/
def afterValue (frames : List Frame) (c : Char) : Advance :=
  match frames with
  | [] => .endedBefore
  | .list :: outer =>
      if isBlank c then .goOn frames .more
      else if c = ',' then .goOn frames .value
      else if c = ']' then closeValue outer
      else .fault .malformed
  | .object :: outer =>
      if isBlank c then .goOn frames .more
      else if c = ',' then .goOn frames .key
      else if c = '\x7d' then closeValue outer
      else .fault .malformed

/-- This character may start an exponent, or it follows the number. -/
def exponentOrEnd (frames : List Frame) (c : Char) : Advance :=
  if c = 'e' ∨ c = 'E' then .goOn frames .exponent else afterValue frames c

/-- This character may start a fraction or an exponent, or it follows the number. -/
def fractionOrEnd (frames : List Frame) (c : Char) : Advance :=
  if c = '.' then .goOn frames .firstDecimal else exponentOrEnd frames c

/-- What the next character brings about.  The characters after it tell whether a
broken hexadecimal escape is at the end of the text. -/
def advance (frames : List Frame) (awaited : Awaited) (c : Char) (rest : List Char) : Advance :=
  match awaited with
  | .value => if isBlank c then .goOn frames .value else openValue frames c
  | .firstItem =>
      if isBlank c then .goOn frames .firstItem
      else if c = ']' then closeValue frames.tail
      else openValue frames c
  | .firstKey =>
      if isBlank c then .goOn frames .firstKey
      else if c = '\x7d' then closeValue frames.tail
      else if c = '"' then .goOn frames (.string true)
      else .fault .malformed
  | .key =>
      if isBlank c then .goOn frames .key
      else if c = '"' then .goOn frames (.string true)
      else .fault .malformed
  | .colon =>
      if isBlank c then .goOn frames .colon
      else if c = ':' then .goOn frames .value
      else .fault .malformed
  | .more => afterValue frames c
  | .string isKey =>
      if c = '"' then closeString frames isKey
      else if c = '\\' then .goOn frames (.escape isKey)
      else if c.toNat < 0x20 then .fault .malformed
      else .goOn frames (.string isKey)
  | .escape isKey =>
      if c = 'u' then .goOn frames (.hexDigits isKey 4)
      else if (shortEscape? c).isSome then .goOn frames (.string isKey)
      else .fault .malformed
  | .hexDigits isKey count =>
      if (hexDigit? c).isSome then
        if count ≤ 1 then .goOn frames (.string isKey)
        else .goOn frames (.hexDigits isKey (count - 1))
      else
        .fault (hexFault (List.replicate (4 - count) '0' ++ c :: rest))
  | .word [] => afterValue frames c
  | .word [last] => if c = last then closeValue frames else .fault .malformed
  | .word (next :: left) => if c = next then .goOn frames (.word left) else .fault .malformed
  | .firstDigit =>
      if c = '0' then .goOn frames .afterZero
      else if c.isDigit then .goOn frames .digits
      else .fault .malformed
  | .afterZero => if c.isDigit then .fault .malformed else fractionOrEnd frames c
  | .digits => if c.isDigit then .goOn frames .digits else fractionOrEnd frames c
  | .firstDecimal => if c.isDigit then .goOn frames .decimals else .fault .malformed
  | .decimals => if c.isDigit then .goOn frames .decimals else exponentOrEnd frames c
  | .exponent =>
      if c = '+' ∨ c = '-' then .goOn frames .firstExponentDigit
      else if c.isDigit then .goOn frames .exponentDigits
      else .fault .malformed
  | .firstExponentDigit =>
      if c.isDigit then .goOn frames .exponentDigits else .fault .malformed
  | .exponentDigits => if c.isDigit then .goOn frames .exponentDigits else afterValue frames c

/-- The fault of a text that ends here, unless the value is complete. -/
def faultAtEnd? (frames : List Frame) : Awaited → Option Fault
  | .firstDigit => some .malformed
  | .firstDecimal => some .malformed
  | .exponent => some .malformed
  | .firstExponentDigit => some .malformed
  | .afterZero => if frames.isEmpty then none else some .truncated
  | .digits => if frames.isEmpty then none else some .truncated
  | .decimals => if frames.isEmpty then none else some .truncated
  | .exponentDigits => if frames.isEmpty then none else some .truncated
  | _ => some .truncated

/-- Pass over the rest of a value, and give the text after it. -/
def skipFrom (frames : List Frame) (awaited : Awaited) : List Char → Except Fault (List Char)
  | [] =>
      match faultAtEnd? frames awaited with
      | some fault => .error fault
      | none => .ok []
  | c :: rest =>
      match advance frames awaited c rest with
      | .fault fault => .error fault
      | .endedBefore => .ok (c :: rest)
      | .endedAfter => .ok rest
      | .goOn frames awaited => skipFrom frames awaited rest

/-- Pass over a value, and give the text after it. -/
def skipValue (text : List Char) : Except Fault (List Char) :=
  skipFrom [] .value text

/-- What follows a value is not longer. -/
theorem length_le_of_skipFrom {frames : List Frame} {awaited : Awaited} {text rest : List Char}
    (h : skipFrom frames awaited text = .ok rest) : rest.length ≤ text.length := by
  induction text generalizing frames awaited with
  | nil =>
      simp only [skipFrom] at h
      split at h
      · simp at h
      · injection h with h
        simp [← h]
  | cons c tail ih =>
      simp only [skipFrom] at h
      split at h
      · simp at h
      · injection h with h
        simp [← h]
      · injection h with h
        simp [← h]
      · exact Nat.le_succ_of_le (ih h)

end Worksheet.Json
