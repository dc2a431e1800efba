/-!
# Blank characters

The characters that separate the parts of a formula and that are dropped
around cell values, cell names and the lines of a sheet file: the Unicode
property `White_Space`.
-/

namespace Worksheet.Text

/-- Is this one of the twenty-five characters with the property `White_Space`? -/
def isBlank (c : Char) : Bool :=
  let code := c.toNat
  (0x09 ≤ code && code ≤ 0x0D) || code == 0x20 || code == 0x85 || code == 0xA0 ||
    code == 0x1680 || (0x2000 ≤ code && code ≤ 0x200A) || code == 0x2028 || code == 0x2029 ||
    code == 0x202F || code == 0x205F || code == 0x3000

/-- The text without the blanks at its start. -/
def trimStart (text : List Char) : List Char :=
  text.dropWhile isBlank

/-- The text without the blanks at its start and at its end. -/
def trim (text : List Char) : List Char :=
  ((trimStart text).reverse.dropWhile isBlank).reverse

/-- What `trimStart` leaves does not start with a blank. -/
theorem trimStart_cons {c : Char} {text rest : List Char} (h : trimStart text = c :: rest) :
    isBlank c = false := by
  induction text with
  | nil => simp [trimStart] at h
  | cons d text ih =>
      by_cases hd : isBlank d
      · exact ih (by simpa [trimStart, hd] using h)
      · simp [trimStart, hd] at h
        simpa [h.1] using hd

/-- A text that does not start with a blank keeps its start. -/
theorem trimStart_of_not_isBlank {c : Char} {rest : List Char} (h : isBlank c = false) :
    trimStart (c :: rest) = c :: rest := by
  simp [trimStart, h]

/-- Dropping blanks never makes a text longer. -/
theorem length_trimStart_le (text : List Char) : (trimStart text).length ≤ text.length :=
  (List.dropWhile_sublist _).length_le

end Worksheet.Text
