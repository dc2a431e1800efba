/-!
# Log levels

Messages about the progress of the program have a level.  A threshold lets
through the messages of its own level and of all levels before it; the
threshold `off` lets through none.
-/

namespace Worksheet

/-- Log levels from the most silent threshold to the most talkative one. -/
inductive LogLevel where
  | off
  | error
  | warn
  | info
  | debug
  | trace
  deriving DecidableEq, Repr

namespace LogLevel

/-- All levels in order. -/
def all : List LogLevel :=
  [off, error, warn, info, debug, trace]

/-- The levels that a message can have. -/
def ofMessages : List LogLevel :=
  [error, warn, info, debug, trace]

/-- The place of a level among all levels. -/
def rank : LogLevel → Nat
  | off => 0
  | error => 1
  | warn => 2
  | info => 3
  | debug => 4
  | trace => 5

/-- The name of a level. -/
def name : LogLevel → String
  | off => "OFF"
  | error => "ERROR"
  | warn => "WARN"
  | info => "INFO"
  | debug => "DEBUG"
  | trace => "TRACE"

/-- The level with a name, in letters of either case. -/
def ofName? (name : String) : Option LogLevel :=
  all.find? fun level => level.name.toList == name.toList.map Char.toUpper

/-- Does a threshold let through the messages of a level? -/
def lets (threshold level : LogLevel) : Bool :=
  level.rank ≤ threshold.rank

/-- The level some steps further, or the last one. -/
def raise (level : LogLevel) (steps : Nat) : LogLevel :=
  all.getD (min (level.rank + steps) 5) trace

end LogLevel

end Worksheet
