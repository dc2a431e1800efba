import Worksheet.Settings.Numeral

/-!
# Strings in settings files

A string stands between double quotes, with escapes, or between single quotes,
without any.  Either kind may also stand between three quotes; it may then hold
line ends, each of which counts as a line feed, and one or two quotes in a row.
A line end right after the three opening quotes does not count.  Between three
double quotes a backslash at the end of a line takes away the line end and all
blanks after it.

Control characters other than the tab cannot be written in strings.
-/

namespace Worksheet.Settings

/-- Is this a space or a tab? -/
def isSpace (c : Char) : Bool :=
  c == ' ' || c == '\t'

/-- Can this character stand in a string or a comment? -/
def isPlain (c : Char) : Bool :=
  c == '\t' || (0x20 ≤ c.toNat && c.toNat != 0x7F)

/-- Take away a line end, either a line feed or a carriage return and a line feed. -/
def lineEnd? : List Char → Option (List Char)
  | '\n' :: rest => some rest
  | '\r' :: '\n' :: rest => some rest
  | _ => none

/-- The character that a one-letter escape stands for. -/
def escaped? (c : Char) : Option Char :=
  if c = 'b' then some '\x08'
  else if c = 't' then some '\t'
  else if c = 'n' then some '\n'
  else if c = 'f' then some '\x0c'
  else if c = 'r' then some '\r'
  else if c = '"' then some '"'
  else if c = '\\' then some '\\'
  else none

/-- The character with a code point given by hexadecimal digits. -/
def codePoint? (digits : List Char) : Option Char :=
  match digits.mapM (digitValue? 16) with
  | none => none
  | some values =>
      let code := values.foldl (fun code digit => code * 16 + digit) 0
      if code.isValidChar then some (Char.ofNat code) else none

/-- Read an escape after its backslash. -/
def readEscape? : List Char → Option (Char × List Char)
  | [] => none
  | c :: rest =>
      let count := if c = 'u' then 4 else if c = 'U' then 8 else 0
      if count = 0 then (escaped? c).map fun meant => (meant, rest)
      else if rest.length < count then none
      else (codePoint? (rest.take count)).map fun meant => (meant, rest.drop count)

/-- What follows an escape is not longer. -/
theorem length_le_of_readEscape? {text rest : List Char} {c : Char}
    (h : readEscape? text = some (c, rest)) : rest.length ≤ text.length := by
  cases text with
  | nil => simp [readEscape?] at h
  | cons d tail =>
      simp only [readEscape?] at h
      repeat' split at h
      all_goals
        first
        | (obtain ⟨_, _, pair⟩ := Option.map_eq_some_iff.1 h
           obtain ⟨_, rfl⟩ := Prod.mk.inj pair
           simp only [List.length_drop, List.length_cons]
           omega)
        | simp at h

/-- Drop spaces, tabs and line ends. -/
def skipBlankLines : List Char → List Char
  | ' ' :: rest => skipBlankLines rest
  | '\t' :: rest => skipBlankLines rest
  | '\n' :: rest => skipBlankLines rest
  | '\r' :: '\n' :: rest => skipBlankLines rest
  | text => text

/-- Dropping blanks never makes a text longer. -/
theorem length_skipBlankLines_le (text : List Char) :
    (skipBlankLines text).length ≤ text.length := by
  fun_induction skipBlankLines text <;> simp <;> omega

/-- The line end and the blanks that a backslash at the end of a line takes
away, if there is a line end after some spaces and tabs. -/
def continuation? (text : List Char) : Option (List Char) :=
  (lineEnd? (text.dropWhile isSpace)).map skipBlankLines

/-- What follows a line end is not longer. -/
theorem length_le_of_lineEnd? {text rest : List Char} (h : lineEnd? text = some rest) :
    rest.length ≤ text.length := by
  unfold lineEnd? at h
  split at h
  · simp at h
    simp [h]
  · simp at h
    simp only [List.length_cons, h]
    omega
  · simp at h

/-- What follows a continuation is not longer. -/
theorem length_le_of_continuation? {text rest : List Char} (h : continuation? text = some rest) :
    rest.length ≤ text.length := by
  obtain ⟨after, found, rfl⟩ := Option.map_eq_some_iff.1 h
  have first := length_le_of_lineEnd? found
  have second : (text.dropWhile isSpace).length ≤ text.length :=
    (List.dropWhile_sublist _).length_le
  have third := length_skipBlankLines_le after
  omega

/-- Read a string on one line after its opening quote.  The characters read so
far are reversed. -/
def readLineText? (quote : Char) (found : List Char) :
    List Char → Option (List Char × List Char)
  | [] => none
  | c :: rest =>
      if c = quote then some (found.reverse, rest)
      else if c = '\\' ∧ quote = '"' then
        match _escape : readEscape? rest with
        | none => none
        | some (meant, after) => readLineText? quote (meant :: found) after
      else if isPlain c then readLineText? quote (c :: found) rest
      else none
termination_by text => text.length
decreasing_by
  · exact Nat.lt_succ_of_le (length_le_of_readEscape? _escape)
  · simp

/-- Read a string between three quotes after its opening quotes.  The characters
read so far are reversed.  Of up to five quotes in a row the last three end the
string. -/
def readBlockText? (quote : Char) (found : List Char) :
    List Char → Option (List Char × List Char)
  | [] => none
  | c :: rest =>
      if c = quote then
        let run := (rest.takeWhile (· == quote)).length + 1
        if run < 3 then readBlockText? quote (c :: found) rest
        else
          let inside := min (run - 3) 2
          some ((List.replicate inside quote ++ found).reverse, rest.drop (inside + 2))
      else if c = '\\' ∧ quote = '"' then
        match _line : continuation? rest with
        | some after => readBlockText? quote found after
        | none =>
            match _escape : readEscape? rest with
            | none => none
            | some (meant, after) => readBlockText? quote (meant :: found) after
      else if isPlain c then readBlockText? quote (c :: found) rest
      else
        match _end : lineEnd? (c :: rest) with
        | none => none
        | some after =>
            if _shorter : after.length < (c :: rest).length then
              readBlockText? quote ('\n' :: found) after
            else none
termination_by text => text.length
decreasing_by
  · simp
  · exact Nat.lt_succ_of_le (length_le_of_continuation? _line)
  · exact Nat.lt_succ_of_le (length_le_of_readEscape? _escape)
  · simp
  · exact _shorter

/-- Read a string of any kind. -/
def readText? (text : List Char) : Option (List Char × List Char) :=
  match text with
  | a :: b :: c :: rest =>
      if (a = '"' ∨ a = '\'') ∧ b = a ∧ c = a then
        readBlockText? a [] ((lineEnd? rest).getD rest)
      else if a = '"' ∨ a = '\'' then readLineText? a [] (b :: c :: rest)
      else none
  | a :: rest => if a = '"' ∨ a = '\'' then readLineText? a [] rest else none
  | [] => none

end Worksheet.Settings
