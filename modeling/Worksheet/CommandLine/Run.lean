import Worksheet.CommandLine.Arguments
import Worksheet.Settings.Basic
import Worksheet.SheetFile

/-!
# Running the program

The program evaluates one constant formula, or it opens a sheet, sets some of
its cells, saves it and prints its cells.  Results go to the standard output.
Log messages, warnings and the error that ends a run go to the standard error
output, in the order in which they arise.

A run is a program that goes on step by step.  What a step prints, shows or writes
stays, even if a later step fails and ends the run.
-/

namespace Worksheet.CommandLine

/-- What a run starts from. -/
structure Environment where
  arguments : List String
  files : FileStore
  /-- The settings file to use if none is asked for. -/
  settingsPath : Option String

/-- What a run leaves behind. -/
structure RunResult where
  exitCode : Nat
  output : List String
  errors : List String
  files : FileStore

/-- The reason why a run fails, from the outermost context to the innermost cause. -/
abbrev Failure := List String

/-- The line that is shown for a failure. -/
def failureLine (failure : Failure) : String :=
  "Error: " ++ ": ".intercalate failure

/-- The reason that a fault of a sheet is for failing. -/
def failureOfSheet (fault : SheetError) : Failure :=
  fault.message :: fault.causeMessage?.toList

/-- The lines of a log that a threshold lets through, apart from those whose text is left
open. -/
def logLines (threshold : LogLevel) (log : Array LogEvent) : List String :=
  (log.toList.filter fun event => threshold.lets event.level && event.isSettled).map LogEvent.line

/-! ## Steps of a run -/

/-- What a run has brought about so far. -/
structure Progress where
  output : Array String
  errors : Array String
  files : FileStore

/-- A part of a run.  If it fails, what it has brought about until then stays. -/
abbrev Program := EStateM Failure Progress

/-- Print a line on the standard output. -/
def print (line : String) : Program Unit :=
  modify fun progress => { progress with output := progress.output.push line }

/-- Show lines on the standard error output. -/
def report (lines : List String) : Program Unit :=
  modify fun progress => { progress with errors := progress.errors ++ lines }

/-- Let other files take the place of the present ones. -/
def replaceFiles (files : FileStore) : Program Unit :=
  modify fun progress => { progress with files }

/-- Go on with the value of an operation on a sheet, or fail with its fault in a context. -/
def require {α : Type} (context : String) (result : Except SheetError α) : Program α :=
  MonadExcept.ofExcept (result.mapError fun fault => context :: failureOfSheet fault)

/-! ## Constant formulas -/

/-- The value of a formula that names no cells.  A `=` before it does not count. -/
def evaluateConstant (formula : String) : Except Failure String :=
  let body := (Cell.formulaOf? formula.toList).getD formula.toList
  match Formula.parse OperatorTable.arithmetic body with
  | .error fault => .error [fault.message]
  | .ok parsed =>
      match parsed.names with
      | name :: _ => .error ["cell reference " ++ name ++ " is not allowed in --command"]
      | [] =>
          match parsed.evaluate with
          | .error fault => .error [fault.message]
          | .ok number => .ok (Decimal.writeValue number)

/-! ## Sheets -/

/-- Open the sheet file that was asked for. -/
def openFile (threshold : LogLevel) (sheet : Sheet) (file : Option String) : Program Sheet :=
  match file with
  | none => pure sheet
  | some path => do
      let outcome := sheet.loadFile (← get).files path
      report (logLines threshold outcome.log)
      require ("failed to load " ++ path) outcome.result
      return outcome.sheet

/-- The parts of an edit before and after its first `=`. -/
def splitEdit? (edit : List Char) : Option (List Char × List Char) :=
  match edit.dropWhile (· != '=') with
  | [] => none
  | _ :: text => some (edit.takeWhile (· != '='), text)

/-- The cell and the text of an edit, if the cell is in the grid. -/
def readEdit (sheet : Sheet) (edit : String) : Except Failure (Address × String) :=
  match splitEdit? edit.toList with
  | none => .error ["--set expects CELL=TEXT, got " ++ Text.quoted edit]
  | some (before, text) =>
      let name := Text.trim before
      match Address.ofName? name with
      | none =>
          .error ["invalid cell in --set " ++ Text.quoted edit,
            (FormulaError.invalidCellReference (String.ofList name)).message]
      | some cell =>
          if sheet.contains cell then .ok (cell, String.ofList text)
          else
            .error [cell.toString ++ " is outside the " ++ sheet.grid.rows.repr ++ "x" ++
              sheet.grid.columns.repr ++ " grid"]

/-- The warning about an edit whose formula has no value. -/
def warningOf (result : Except SheetError Unit) : List String :=
  match result with
  | .ok () => []
  | .error fault => ["Warning: " ++ fault.message]

/-- Make an edit.  A formula that has no value is only a warning. -/
def applyEdit (threshold : LogLevel) (sheet : Sheet) (edit : String) : Program Sheet := do
  let (cell, text) ← MonadExcept.ofExcept (readEdit sheet edit)
  let outcome := sheet.setText cell text
  report (logLines threshold outcome.log ++ warningOf outcome.result)
  return outcome.sheet

/-- Make edits one after another. -/
def applyEdits (threshold : LogLevel) (sheet : Sheet) : List String → Program Sheet
  | [] => pure sheet
  | edit :: rest => do
      let edited ← applyEdit threshold sheet edit
      applyEdits threshold edited rest

/-- Save to the file that was asked for. -/
def saveFile (threshold : LogLevel) (sheet : Sheet) (output : Option String) : Program Sheet :=
  match output with
  | none => pure sheet
  | some path => do
      let saved := sheet.saveAs (← get).files path
      report (logLines threshold saved.outcome.log)
      replaceFiles saved.files
      require ("failed to save " ++ path) saved.outcome.result
      report ["Saved to " ++ path]
      return saved.outcome.sheet

/-- The line that is printed for a cell. -/
def cellLine (address : Address) (cell : Cell) : String :=
  address.toString ++ "\t" ++ cell.text ++ "\t" ++ cell.value

/-- Print lines one after another. -/
def printAll : List String → Program Unit
  | [] => pure ()
  | line :: rest => do
      print line
      printAll rest

/-- Print the cells of a sheet that have a text or a color of their own. -/
def printCells (sheet : Sheet) : Program Unit :=
  printAll (sheet.modifiedCells.map fun (address, cell) => cellLine address cell)

/-- Open, edit, save and print a sheet. -/
def runSheet (arguments : Arguments) (settings : Settings) (threshold : LogLevel) :
    Program Unit := do
  let blank ← require "failed to create the sheet"
    (Sheet.create settings.rows settings.columns)
  let opened ← openFile threshold blank arguments.file
  let edited ← applyEdits threshold opened arguments.edits
  let saved ← saveFile threshold edited arguments.output
  printCells saved

/-! ## Runs -/

/-- Fail if the settings file that was asked for is not there. -/
def checkSettingsFile (settings : Option String) : Program Unit :=
  match settings with
  | none => pure ()
  | some path => do
      unless (← get).files.contains path do
        throw ["config file not found: " ++ path]

/-- Run with settings that have been loaded. -/
def runWith (arguments : Arguments) (settings : Settings) (warnings : List Settings.Warning) :
    Program Unit := do
  report (warnings.map fun warning => "Warning: " ++ warning.message)
  match arguments.command with
  | some formula => do
      let value ← MonadExcept.ofExcept (evaluateConstant formula)
      print value
  | none => runSheet arguments settings (settings.logLevel.raise arguments.verbosity)

/-- Run with arguments that have been understood. -/
def runArguments (settingsPath : Option String) (arguments : Arguments) : Program Unit := do
  checkSettingsFile arguments.settings
  let loaded := Settings.load (← get).files arguments.settings settingsPath
  runWith arguments loaded.1 loaded.2

/-- What a run leaves behind whose program has come to its end or has failed. -/
def RunResult.ofProgress (result : EStateM.Result Failure Progress Unit) : RunResult :=
  match result with
  | .ok () progress => ⟨0, progress.output.toList, progress.errors.toList, progress.files⟩
  | .error failure progress =>
      ⟨1, progress.output.toList, progress.errors.toList ++ [failureLine failure],
        progress.files⟩

/-- Run the program. -/
def run (environment : Environment) : RunResult :=
  match Arguments.read environment.arguments with
  | .error refusal => ⟨refusal.exitCode, [], refusal.lines, environment.files⟩
  | .ok arguments =>
      RunResult.ofProgress
        ((runArguments environment.settingsPath arguments).run ⟨#[], #[], environment.files⟩)

end Worksheet.CommandLine
