import Worksheet.File.Store
import Worksheet.Sheet.Loading
import Worksheet.Text.Blank
import Worksheet.Text.Lines

/-!
# Sheet files

A sheet file has one line for each cell with a text or a color of its own, row
by row, after a heading.  Each line is the record of a cell.  When a file is
read, blanks around a line do not count, and lines that are empty or start with
`#` are passed over.  Reading stops at the first line that is not the record of
a cell, and lines are counted from one.
-/

namespace Worksheet

namespace SheetFile

/-- The first line of a sheet file. -/
def heading : String := "# Reckon Spreadsheet"

/-! ## Reading -/

/-- The record on a line, or nothing if the line is to be passed over. -/
def readLine (number : Nat) (line : List Char) : Except SheetError (Option Record) :=
  match Text.trim line with
  | [] => .ok none
  | c :: rest =>
      if c = '#' then .ok none
      else
        match Record.read (c :: rest) with
        | .error fault => .error (.recordFormat number fault)
        | .ok record =>
            match record.address with
            | .error fault => .error (.recordAddress number fault)
            | .ok _ => .ok (some record)

/-- The records on some lines, the first of which has the given number.  The
records found so far are reversed. -/
def readLines (number : Nat) (found : List Record) :
    List (List Char) → Except SheetError (List Record)
  | [] => .ok found.reverse
  | line :: rest =>
      match readLine number line with
      | .error fault => .error fault
      | .ok none => readLines (number + 1) found rest
      | .ok (some record) => readLines (number + 1) (record :: found) rest

/-- The records of a sheet file. -/
def read (content : String) : Except SheetError (List Record) :=
  readLines 1 [] (Text.lines content.toList)

/-! ## Writing -/

/-- The records of the cells of a sheet that have a text or a color of their own. -/
def records (sheet : Sheet) : List Record :=
  sheet.modifiedCells.map fun (address, cell) => Record.ofCell address cell

/-- The file that holds some records. -/
def write (records : List Record) : String :=
  String.ofList
    ((heading.toList :: records.map Record.write).flatMap fun line => line ++ ['\n'])

end SheetFile

namespace Sheet

/-! ## Saving and loading -/

/-- What an operation that may write a file has brought about. -/
structure FileOutcome where
  outcome : Outcome
  files : FileStore

/-- Save a sheet to a file, which becomes its file. -/
def saveAs (sheet : Sheet) (files : FileStore) (path : String) : FileOutcome :=
  match files.write path (SheetFile.write (SheetFile.records sheet)) with
  | .error fault => ⟨.failure sheet (.file fault), files⟩
  | .ok written =>
      let saved := { sheet with filePath := some path, modified := false }
      ⟨⟨saved, .ok (), #[.saved path]⟩, written⟩

/-- Save a sheet to the file it belongs to. -/
def save (sheet : Sheet) (files : FileStore) : FileOutcome :=
  match sheet.filePath with
  | none => ⟨.failure sheet .noFilePath, files⟩
  | some path => sheet.saveAs files path

/-- Replace all cells by those of the text of a sheet file. -/
def loadText (sheet : Sheet) (content : String) : Outcome :=
  match SheetFile.read content with
  | .error fault => .failure sheet fault
  | .ok records => sheet.loadRecords records

/-- Replace all cells by those of a file, which becomes the file of the sheet. -/
def loadFile (sheet : Sheet) (files : FileStore) (path : String) : Outcome :=
  match files.read path with
  | .error fault => .failure sheet (.file fault)
  | .ok content =>
      let outcome := sheet.loadText content
      match outcome.result with
      | .error _ => outcome
      | .ok () =>
          { outcome with
            sheet := outcome.sheet.withPath (some path)
            log := outcome.log.push (.loaded path) }

end Sheet

end Worksheet
