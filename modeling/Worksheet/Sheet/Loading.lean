import Worksheet.Dependency.Cycle
import Worksheet.Record
import Worksheet.Sheet.Editing

/-!
# Loading records

Records are loaded into a blank sheet of the same size, which takes the place of
the old one only if all of them could be loaded.  Every record must be for a
cell of the grid.

A formula is loaded after the cells that it reads, as far as these are among the
records.  So the records are gone through in passes, and a record is left for a
later pass while one of the cells that it reads, other than its own cell, still
waits.  If a pass loads nothing, the records that are left wait for each other:
the load reports one cycle of them and fails.  A formula that has no value is no
reason to fail.
-/

namespace Worksheet

/-- A record that waits to be loaded. -/
structure PendingRecord where
  cell : Address
  record : Record
  /-- The cells that its formula reads. -/
  references : List Address

namespace Sheet

/-- Prepare records for loading.  The first one that is not for a cell of the
grid decides the fault; records are counted from `number`. -/
def prepare (sheet : Sheet) (number : Nat) : List Record → Except SheetError (List PendingRecord)
  | [] => .ok []
  | record :: rest =>
      match record.address with
      | .error fault => .error (.recordAddress number fault)
      | .ok cell =>
          if !sheet.contains cell then .error (.outsideGrid cell)
          else
            match sheet.prepare (number + 1) rest with
            | .error fault => .error fault
            | .ok prepared => .ok (⟨cell, record, Cell.referencesOf record.text⟩ :: prepared)

/-- Store the color and the text of a record and recalculate. -/
def loadRecord (sheet : Sheet) (pending : PendingRecord) : Sheet × Array LogEvent :=
  let colored := sheet.commitColor pending.cell pending.record.color
  let outcome := colored.sheet.commitText pending.cell pending.record.text
  match outcome.result with
  | .ok () => (outcome.sheet, outcome.log)
  | .error fault => (outcome.sheet, outcome.log.push (.loadedWithError pending.cell fault))

/-- A pass over the records in progress. -/
structure LoadPass where
  sheet : Sheet
  /-- The cells of records that are not loaded yet. -/
  waiting : Std.HashSet Address
  /-- The records left for a later pass, the latest first. -/
  deferred : List PendingRecord
  log : Array LogEvent

/-- Does a record have to wait for one of the cells that wait? -/
def PendingRecord.isBlocked (pending : PendingRecord) (waiting : Std.HashSet Address) : Bool :=
  pending.references.any fun cell => cell != pending.cell && waiting.contains cell

/-- Load a record or leave it for a later pass. -/
def LoadPass.step (pass : LoadPass) (pending : PendingRecord) : LoadPass :=
  match pass with
  | ⟨sheet, waiting, deferred, log⟩ =>
      if PendingRecord.isBlocked pending waiting then
        ⟨sheet, waiting, pending :: deferred, log⟩
      else
        let (loaded, events) := sheet.loadRecord pending
        ⟨loaded, waiting.erase pending.cell, deferred, log ++ events⟩

/-- Go once through the records that wait. -/
def LoadPass.run (sheet : Sheet) (waiting : Std.HashSet Address) (log : Array LogEvent)
    (pending : List PendingRecord) : LoadPass :=
  pending.foldl LoadPass.step ⟨sheet, waiting, [], log⟩

/-- The cells that a record waits for. -/
def PendingRecord.blockers (pending : PendingRecord) (waiting : Std.HashSet Address) :
    List Address :=
  pending.references.filter fun cell => cell != pending.cell && waiting.contains cell

/-- What the cells of the records that are left wait for.  If a cell has several records,
the last of them counts. -/
def blockersOf (waiting : Std.HashSet Address) (left : List PendingRecord) :
    Std.HashMap Address (List Address) :=
  left.foldl (fun blockers pending =>
    blockers.insert pending.cell (PendingRecord.blockers pending waiting)) ∅

/-- Report a cycle of records that wait for each other.  The search for it may begin at any
of them; it begins at the first. -/
def stallEvents (waiting : Std.HashSet Address) : List PendingRecord → Array LogEvent
  | [] => #[]
  | first :: others =>
      match Cycle.from? (blockersOf waiting (first :: others)) first.cell with
      | none => #[]
      | some cycle => #[.stalled cycle]

/-- Go through the records that wait until all are loaded or none can be.  The
passes are counted from `number`. -/
def loadPasses (sheet : Sheet) (waiting : Std.HashSet Address) (log : Array LogEvent)
    (number : Nat) (pending : List PendingRecord) : Outcome :=
  if pending.isEmpty then ⟨sheet, .ok (), log⟩
  else
    let pass := LoadPass.run sheet waiting log pending
    let deferred := pass.deferred.reverse
    let log :=
      pass.log.push (.loadPass number (pending.length - deferred.length) deferred.length)
    if _shorter : deferred.length < pending.length then
      loadPasses pass.sheet pass.waiting log (number + 1) deferred
    else
      { sheet := pass.sheet
        result := .error (.circularDependency (deferred.map PendingRecord.cell))
        log := log ++ stallEvents pass.waiting deferred }
termination_by pending.length
decreasing_by exact _shorter

/-- Load records into a sheet without records. -/
def fill (sheet : Sheet) (records : List Record) : Outcome :=
  match sheet.prepare 1 records with
  | .error fault => .failure sheet fault
  | .ok pending =>
      sheet.loadPasses (Std.HashSet.ofList (pending.map PendingRecord.cell)) #[] 1 pending

/-- The cells that differ between two sheets of the same size, row by row. -/
def differences (old new : Sheet) : List Address :=
  (new.grid.select fun address cell => old.cell? address != some cell).map Prod.fst

/-- Put a loaded sheet in place of another one.  The changes that wait stay in
the queue, followed by the changes of the load and by all cells that differ. -/
def replaceBy (sheet loaded : Sheet) : Sheet :=
  { loaded with
    filePath := sheet.filePath
    changes :=
      (Changes.empty.announceAll
        (sheet.changes.toList ++ loaded.changes.toList ++ sheet.differences loaded)) }

/-- Replace all cells by those of some records.  A load that fails leaves the
sheet as it was. -/
def loadRecords (sheet : Sheet) (records : List Record) : Outcome :=
  let fresh :=
    { blank sheet.grid.rows sheet.grid.columns with operators := sheet.operators }
  let outcome := fresh.fill records
  match outcome.result with
  | .error fault => ⟨sheet, .error fault, outcome.log⟩
  | .ok () => ⟨sheet.replaceBy outcome.sheet, .ok (), outcome.log⟩

end Sheet

end Worksheet
