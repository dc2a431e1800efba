import Worksheet.Settings.Text

/-!
# Settings files

A settings file is a sequence of lines, each of which may hold an assignment
`key = value` and may end in a comment after `#`.  Values are integers and
strings.  A key is a plain word or a string on one line.  Anything else is not
a settings file.
-/

namespace Worksheet.Settings

/-- The value given to a key. -/
inductive Value where
  | integer (value : Int)
  | text (value : List Char)
  deriving DecidableEq, Repr

/-- Assignments in the order in which they are made. -/
abbrev Assignments := List (List Char × Value)

/-- Can this character stand in a key without quotes? -/
def isKeyChar (c : Char) : Bool :=
  c.isAlphanum || c == '_' || c == '-'

/-- Read a key. -/
def readKey? (text : List Char) : Option (List Char × List Char) :=
  match text with
  | [] => none
  | c :: rest =>
      if c = '"' ∨ c = '\'' then readLineText? c [] rest
      else
        match text.takeWhile isKeyChar with
        | [] => none
        | key => some (key, text.dropWhile isKeyChar)

/-- Can this character stand in an integer? -/
def isIntegerChar (c : Char) : Bool :=
  c.isAlphanum || c == '_' || c == '+' || c == '-'

/-- Read a value. -/
def readValue? (text : List Char) : Option (Value × List Char) :=
  match readText? text with
  | some (value, rest) => some (.text value, rest)
  | none =>
      (integer? (text.takeWhile isIntegerChar)).map fun value =>
        (.integer value, text.dropWhile isIntegerChar)

/-- Take away the rest of a line, which may be a comment, and the line end. -/
def finishLine? (text : List Char) : Option (List Char) :=
  let rest :=
    match text.dropWhile isSpace with
    | '#' :: comment => comment.dropWhile isPlain
    | other => other
  if rest.isEmpty then some [] else lineEnd? rest

/-- Read an assignment up to the end of its value. -/
def readAssignment? (text : List Char) : Option ((List Char × Value) × List Char) :=
  match readKey? text with
  | none => none
  | some (key, afterKey) =>
      match afterKey.dropWhile isSpace with
      | '=' :: tail =>
          (readValue? (tail.dropWhile isSpace)).map fun (value, rest) => ((key, value), rest)
      | _ => none

/-- Read at most `lines` lines.  The assignments read so far are reversed. -/
def readLines? (found : Assignments) : (lines : Nat) → List Char → Option Assignments
  | _, [] => some found.reverse
  | 0, _ => none
  | lines + 1, text =>
      let start := text.dropWhile isSpace
      match finishLine? start with
      | some rest => readLines? found lines rest
      | none =>
          match readAssignment? start with
          | none => none
          | some (assignment, afterValue) =>
              match finishLine? afterValue with
              | none => none
              | some rest => readLines? (assignment :: found) lines rest

/-- The assignments of a settings file.  A byte order mark at its start does not
count.  The file has no more lines than characters. -/
def assignments? (text : List Char) : Option Assignments :=
  let body :=
    match text with
    | '\uFEFF' :: rest => rest
    | _ => text
  readLines? [] body.length body

end Worksheet.Settings
