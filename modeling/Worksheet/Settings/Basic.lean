import Worksheet.File.Store
import Worksheet.Log.Level
import Worksheet.Settings.Document
import Worksheet.Sheet.Basic
import Worksheet.Text.Quoted

/-!
# Settings

The size of new sheets and the log level can be set in a settings file.  A
problem with the file or with one of its values is a warning, and the settings
that it concerns keep their defaults.
-/

namespace Worksheet

/-- The settings of the program. -/
structure Settings where
  rows : Nat
  columns : Nat
  logLevel : LogLevel
  deriving DecidableEq, Repr

namespace Settings

/-- The settings without a settings file. -/
def default : Settings :=
  ⟨50, 26, .warn⟩

/-- The size in bytes beyond which a settings file is not read. -/
def maxFileBytes : Nat := 1048576

/-- What can be wrong with a settings file. -/
inductive Warning where
  | notFound (path : String)
  | tooLarge (path : String) (bytes : Nat)
  | unreadable (path : String) (fault : FileError)
  | malformed (path : String)
  | noRows
  | noColumns
  | gridTooLarge (rows columns : Nat)
  | unknownLogLevel (name : String)
  deriving DecidableEq, Repr

/-- The message for a warning. -/
def Warning.message : Warning → String
  | notFound path => "Config file not found: " ++ path
  | tooLarge path bytes =>
      "Refusing to read " ++ path ++ ": file too large (" ++ bytes.repr ++ " bytes, max " ++
        maxFileBytes.repr ++ ")"
  | unreadable path fault => "Failed to read " ++ path ++ ": " ++ fault.message
  | malformed path => "Failed to parse " ++ path
  | noRows => "rows must be at least 1; using default"
  | noColumns => "columns must be at least 1; using default"
  | gridTooLarge rows columns =>
      rows.repr ++ " x " ++ columns.repr ++ " grid exceeds " ++ maxCells.repr ++
        " cells; using default size"
  | unknownLogLevel name => "Unknown log_level " ++ Text.quoted name ++ "; using default"

/-! ## Values of a file -/

/-- The values that a settings file gives, as far as it gives them. -/
structure Given where
  rows : Option Nat
  columns : Option Nat
  logLevel : Option String

/-- Take over one assignment.  Other keys, values of another type, negative
numbers and a key that has a value already are refused. -/
def Given.assign? (given : Given) (key : List Char) (value : Value) : Option Given :=
  match value with
  | .integer size =>
      if size < 0 then none
      else if key = "rows".toList ∧ given.rows.isNone then
        some { given with rows := some size.toNat }
      else if key = "columns".toList ∧ given.columns.isNone then
        some { given with columns := some size.toNat }
      else none
  | .text name =>
      if key = "log_level".toList ∧ given.logLevel.isNone then
        some { given with logLevel := some (String.ofList name) }
      else none

/-- The values that some assignments give. -/
def Given.ofAssignments? (assignments : Assignments) : Option Given :=
  assignments.foldlM (fun given assignment => given.assign? assignment.1 assignment.2)
    ⟨none, none, none⟩

/-- A size that was given, or the default one with a warning if it is zero. -/
def sizeOr (fallback : Nat) (warning : Warning) : Option Nat → Nat × List Warning
  | none => (fallback, [])
  | some 0 => (fallback, [warning])
  | some size => (size, [])

/-- The settings for the values of a file. -/
def ofGiven (given : Given) : Settings × List Warning :=
  let (rows, rowWarnings) := sizeOr default.rows .noRows given.rows
  let (columns, columnWarnings) := sizeOr default.columns .noColumns given.columns
  let fits := rows * columns ≤ maxCells
  let (logLevel, levelWarnings) :=
    match given.logLevel with
    | none => (default.logLevel, [])
    | some name =>
        match LogLevel.ofName? name with
        | some level => (level, [])
        | none => (default.logLevel, [Warning.unknownLogLevel name])
  let settings : Settings :=
    { rows := if fits then rows else default.rows
      columns := if fits then columns else default.columns
      logLevel }
  let sizeWarnings := if fits then [] else [Warning.gridTooLarge rows columns]
  (settings, rowWarnings ++ columnWarnings ++ sizeWarnings ++ levelWarnings)

/-- The settings for the text of a file, or nothing if it is not a settings file. -/
def ofText? (text : List Char) : Option (Settings × List Warning) :=
  (assignments? text).bind fun assignments => (Given.ofAssignments? assignments).map ofGiven

/-! ## Files -/

/-- The settings for an existing file. -/
def read (files : FileStore) (path : String) : Settings × List Warning :=
  match files.readBytes path with
  | .error fault => (default, [.unreadable path fault])
  | .ok bytes =>
      if maxFileBytes < bytes.size then (default, [.tooLarge path bytes.size])
      else
        match files.read path with
        | .error fault => (default, [.unreadable path fault])
        | .ok content =>
            (ofText? content.toList).getD (default, [.malformed path])

/-- The settings for a file that was asked for or else for the usual one.  Only
a file that was asked for must exist. -/
def load (files : FileStore) (asked usual : Option String) : Settings × List Warning :=
  match asked with
  | some path => if files.contains path then read files path else (default, [.notFound path])
  | none =>
      match usual with
      | none => (default, [])
      | some path => if files.contains path then read files path else (default, [])

end Settings

end Worksheet
