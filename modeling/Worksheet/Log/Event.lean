import Worksheet.Log.Level
import Worksheet.Sheet.Error

/-!
# Log messages

What operations on sheets report about their progress.  Each event has a level,
a topic and a text.
-/

namespace Worksheet

/-- Something that an operation on a sheet reports. -/
inductive LogEvent where
  /-- A cell got a text whose formula reads this many cells. -/
  | committed (cell : Address) (text : String) (references : Nat)
  /-- These cells are evaluated because of a change of the first of them. -/
  | cascade (root : Address) (order : List Address)
  | evaluated (cell : Address) (value : String)
  | failed (fault : SheetError)
  /-- A pass over the records of a file loaded some and left others for later. -/
  | loadPass (number loaded deferred : Nat)
  /-- The records that are left wait for each other; these are the cells of a cycle. -/
  | stalled (cycle : List Address)
  | loadedWithError (cell : Address) (fault : SheetError)
  | saved (path : String)
  | loaded (path : String)
  deriving DecidableEq, Repr

namespace LogEvent

/-- The level of an event. -/
def level : LogEvent → LogLevel
  | committed _ _ _ => .debug
  | cascade _ _ => .debug
  | evaluated _ _ => .trace
  | failed _ => .warn
  | loadPass _ _ _ => .debug
  | stalled _ => .warn
  | loadedWithError _ _ => .warn
  | saved _ => .info
  | loaded _ => .info

/-- Is the text of an event settled by what has happened?  If records wait for each other in
several cycles, it is left open which of them is reported. -/
def isSettled : LogEvent → Bool
  | stalled _ => false
  | _ => true

/-- Is an event about files rather than about the evaluation of cells? -/
def isAboutFiles : LogEvent → Bool
  | loadPass _ _ _ => true
  | stalled _ => true
  | loadedWithError _ _ => true
  | saved _ => true
  | loaded _ => true
  | _ => false

/-- The topic under which an event is logged. -/
def topic (event : LogEvent) : String :=
  if event.isAboutFiles then "reckon_core::document::io" else "reckon_core::document::recalc"

/-- The text of an event. -/
def message : LogEvent → String
  | committed cell text references =>
      "commit " ++ cell.toString ++ ": " ++ Text.quoted text ++ " (" ++ references.repr ++
        " references)"
  | cascade root order =>
      "cascade from " ++ root.toString ++ ": " ++ Address.joinNames " -> " order
  | evaluated cell value => "evaluated " ++ cell.toString ++ " = " ++ Text.quoted value
  | failed fault => fault.message
  | loadPass number done left =>
      "load pass " ++ number.repr ++ ": " ++ done.repr ++ " loaded, " ++ left.repr ++
        " deferred"
  | stalled cycle => "load stalled on " ++ Address.joinNames " -> " cycle
  | loadedWithError cell fault =>
      "loaded " ++ cell.toString ++ " with error: " ++ fault.message
  | saved path => "saved " ++ path
  | loaded path => "loaded " ++ path

/-- The line that a log shows for an event. -/
def line (event : LogEvent) : String :=
  "[" ++ event.level.name ++ " " ++ event.topic ++ "] " ++ event.message

end LogEvent

end Worksheet
