import Worksheet.CommandLine.Run

/-!
# The program

The command line around `CommandLine.run`.  The files that a run can ask for are
looked up beforehand, and a file that the run has written is stored afterwards.
-/

namespace Worksheet

/-- The error code of reading from a directory. -/
def directoryCode : UInt32 := 21

/-- What stands at a path, if anything can be read there. -/
def entryOnDisk? (path : String) : IO (Option FileEntry) := do
  try
    return some (.file (← IO.FS.readBinFile path))
  catch
    | .inappropriateType _ code _ => return if code = directoryCode then some .directory else none
    | _ => return none

/-- The paths of the directories that lead to a path, and the path itself. -/
def pathsTo (path : String) : List String :=
  let parts := path.toList.splitOn '/'
  (List.range (parts.length + 1)).map fun size =>
    String.ofList (['/'].intercalate (parts.take size))

/-- Look up what stands at some paths and on the way to them. -/
def filesOnDisk (paths : List String) : IO FileStore := do
  let mut entries := []
  for path in paths.flatMap pathsTo do
    if let some entry ← entryOnDisk? path then
      entries := entries ++ [(path, entry)]
  return .ofList entries

/-- The settings file in the directory for the settings of the user. -/
def userSettingsPath? : IO (Option String) := do
  let directory ←
    match ← IO.getEnv "XDG_CONFIG_HOME" with
    | some path => if path.startsWith "/" then pure (some path) else homeSettings
    | none => homeSettings
  return directory.map (· ++ "/reckon/config.toml")
where
  homeSettings : IO (Option String) := do
    return (← IO.getEnv "HOME").map (· ++ "/.config")

/-- The paths that a run with some arguments can ask for. -/
def pathsFor (words : List String) (settingsPath : Option String) : List String :=
  match CommandLine.Arguments.read words with
  | .error _ => []
  | .ok arguments =>
      [arguments.file, arguments.output, arguments.settings, settingsPath].filterMap id

/-- Store the file at a path if a run has changed it. -/
def storeChanged (before after : FileStore) (path : String) : IO Unit :=
  match before.readBytes path, after.readBytes path with
  | .ok old, .ok new => if old == new then pure () else IO.FS.writeBinFile path new
  | .error _, .ok new => IO.FS.writeBinFile path new
  | _, .error _ => pure ()

/-- Run with the words of a command line.  The result is the exit code. -/
def runOnDisk (words : List String) : IO UInt32 := do
  let settingsPath ← userSettingsPath?
  let paths := pathsFor words settingsPath
  let files ← filesOnDisk paths
  let result := CommandLine.run ⟨words, files, settingsPath⟩
  for line in result.errors do
    IO.eprintln line
  for line in result.output do
    IO.println line
  for path in paths do
    storeChanged files result.files path
  return UInt32.ofNat result.exitCode

end Worksheet

/-- The program. -/
def main (words : List String) : IO UInt32 :=
  Worksheet.runOnDisk words
