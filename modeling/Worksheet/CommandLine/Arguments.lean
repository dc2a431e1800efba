/-!
# Arguments

The words after the name of the program on a command line: options, each
perhaps with a value, and at most one file.  They are read from left to right,
and the first one that asks for help or that cannot be understood decides.  Of
options that can be given once only, the last one counts.
-/

namespace Worksheet.CommandLine

/-- What the arguments ask for. -/
structure Arguments where
  /-- The sheet file to open. -/
  file : Option String
  /-- The cells to set, in order, each as a name and a text with `=` between them. -/
  edits : List String
  /-- A formula to evaluate instead of opening a sheet. -/
  command : Option String
  /-- The file to save to. -/
  output : Option String
  /-- The settings file. -/
  settings : Option String
  /-- How often more log messages were asked for. -/
  verbosity : Nat
  deriving DecidableEq, Repr

/-- Nothing is asked for. -/
def Arguments.empty : Arguments :=
  ⟨none, [], none, none, none, 0⟩

/-- The reasons not to run. -/
inductive Refusal where
  | help
  /-- An option stands without its value. -/
  | missingValue (option what : String)
  | unknownOption (argument : String)
  | unexpectedArgument (argument : String)
  deriving DecidableEq, Repr

/-- Options that take a value. -/
inductive ValueOption where
  | set
  | command
  | output
  | settings
  deriving DecidableEq, Repr

namespace ValueOption

/-- The option that an argument names. -/
def ofArgument? (argument : String) : Option ValueOption :=
  if argument = "-s" ∨ argument = "--set" then some set
  else if argument = "-c" ∨ argument = "--command" then some command
  else if argument = "-o" ∨ argument = "--output" then some output
  else if argument = "--config" then some settings
  else none

/-- The long name of an option. -/
def name : ValueOption → String
  | set => "--set"
  | command => "--command"
  | output => "--output"
  | settings => "--config"

/-- What the value of an option is. -/
def valueName : ValueOption → String
  | set => "CELL=TEXT"
  | command => "a formula"
  | output => "a file path"
  | settings => "a file path"

/-- Take over the value of an option. -/
def assign (option : ValueOption) (value : String) (arguments : Arguments) : Arguments :=
  match option with
  | set => { arguments with edits := arguments.edits ++ [value] }
  | command => { arguments with command := some value }
  | output => { arguments with output := some value }
  | settings => { arguments with settings := some value }

end ValueOption

/-- Read the remaining arguments. -/
def Arguments.readFrom (arguments : Arguments) : List String → Except Refusal Arguments
  | [] => .ok arguments
  | argument :: rest =>
      if argument = "-h" ∨ argument = "--help" then .error .help
      else
        match ValueOption.ofArgument? argument with
        | some option =>
            match rest with
            | [] => .error (.missingValue option.name option.valueName)
            | value :: others => (option.assign value arguments).readFrom others
        | none =>
            if argument = "-v" ∨ argument = "--verbose" then
              readFrom { arguments with verbosity := arguments.verbosity + 1 } rest
            else if argument.toList.head? = some '-' then .error (.unknownOption argument)
            else if arguments.file.isNone then
              readFrom { arguments with file := some argument } rest
            else .error (.unexpectedArgument argument)

/-- Read all arguments. -/
def Arguments.read (words : List String) : Except Refusal Arguments :=
  Arguments.empty.readFrom words

/-- The help text, line by line. -/
def usage : List String :=
  [ "Usage: reckon [OPTIONS] [FILE]",
    "",
    "Arguments:",
    "  [FILE]                    Spreadsheet file to open (.rsk)",
    "",
    "Options:",
    "  -s, --set <CELL=TEXT>     Set a cell before printing (can be repeated)",
    "  -c, --command <FORMULA>   Evaluate a constant formula and print the result",
    "  -o, --output <FILE>       Save the sheet to FILE",
    "  --config <FILE>           Read settings from FILE",
    "  -v, --verbose             Log more (can be repeated)",
    "  -h, --help                Print help" ]

namespace Refusal

/-- The exit code: asking for help is no failure. -/
def exitCode : Refusal → Nat
  | help => 0
  | _ => 1

/-- The lines that are shown for a refusal. -/
def lines : Refusal → List String
  | help => usage
  | missingValue option what => ["Error: " ++ option ++ " requires " ++ what]
  | unknownOption argument => ("Error: Unknown option: " ++ argument) :: usage
  | unexpectedArgument argument => ("Error: Unexpected argument: " ++ argument) :: usage

end Refusal

end Worksheet.CommandLine
