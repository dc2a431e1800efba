import Worksheet.File.Path

/-!
# Files

The program reads and writes whole files.  What it can see of the file system
is a table of places, each of a file with its bytes or of a directory.  Reading
and writing fail in the ways in which file systems make them fail, and a failed
write changes nothing.

A path is followed name by name, and every name but the last one has to lead to
a directory.  A directory exists if the table names it or names something below
it; the working directory and the directories around it always exist.
-/

namespace Worksheet

/-- What stands at a place. -/
inductive FileEntry where
  | file (bytes : ByteArray)
  | directory

/-- The files and directories that the program can see. -/
structure FileStore where
  entries : List (Place × FileEntry)

namespace FileStore

/-- No files. -/
def empty : FileStore :=
  ⟨[]⟩

/-- The files and directories with the given paths. -/
def ofList (entries : List (String × FileEntry)) : FileStore :=
  ⟨entries.map fun (path, entry) => ((PathName.ofText path).place, entry)⟩

/-- What stands at a place. -/
def entryAt? (store : FileStore) (place : Place) : Option FileEntry :=
  if place.isAround then some .directory
  else
    match store.entries.lookup place with
    | some entry => some entry
    | none =>
        if store.entries.any fun entry => place.isPrefixOf entry.1 then some .directory
        else none

/-- Look a name up in a directory. -/
def lookUp (store : FileStore) (directory : Place) (name : String) :
    Except FileError (Option FileEntry) :=
  if PathName.maxNameBytes < name.utf8ByteSize then .error .nameTooLong
  else .ok (store.entryAt? (directory.enter name))

/-- Follow names from one directory to another. -/
def follow (store : FileStore) (directory : Place) : List String → Except FileError Place
  | [] => .ok directory
  | name :: rest =>
      match store.lookUp directory name with
      | .error fault => .error fault
      | .ok none => .error .notFound
      | .ok (some (.file _)) => .error .notDirectory
      | .ok (some .directory) => store.follow (directory.enter name) rest

/-- The directory in which the last name of a path is looked up. -/
def directoryOf (store : FileStore) (path : PathName) : Except FileError Place :=
  store.follow path.start path.leading

/-- What a path leads to. -/
def resolve (store : FileStore) (text : String) : Except FileError FileEntry := do
  let path ← PathName.read text
  let directory ← store.directoryOf path
  match path.last? with
  | none => .ok .directory
  | some name =>
      match ← store.lookUp directory name with
      | none => .error .notFound
      | some (.file bytes) =>
          if path.endsWithSlash then .error .notDirectory else .ok (.file bytes)
      | some .directory => .ok .directory

/-- Is there a file or a directory at a path? -/
def contains (store : FileStore) (path : String) : Bool :=
  match store.resolve path with
  | .ok _ => true
  | .error _ => false

/-- The bytes of a file. -/
def readBytes (store : FileStore) (path : String) : Except FileError ByteArray :=
  match store.resolve path with
  | .error fault => .error fault
  | .ok .directory => .error .isDirectory
  | .ok (.file bytes) => .ok bytes

/-- The text of a file. -/
def read (store : FileStore) (path : String) : Except FileError String :=
  match store.readBytes path with
  | .error fault => .error fault
  | .ok bytes =>
      match String.fromUTF8? bytes with
      | some text => .ok text
      | none => .error .notText

/-- The place of the file that is written for a path.  A path that ends with a
slash cannot be written, even if there is nothing yet. -/
def target (store : FileStore) (text : String) : Except FileError Place := do
  let path ← PathName.read text
  let directory ← store.directoryOf path
  match path.last? with
  | none => .error .isDirectory
  | some name =>
      if path.endsWithSlash then .error .isDirectory
      else
        match ← store.lookUp directory name with
        | some .directory => .error .isDirectory
        | _ => .ok (directory.enter name)

/-- Put bytes at a place, instead of what is there. -/
def put (store : FileStore) (place : Place) (bytes : ByteArray) : FileStore :=
  ⟨(place, .file bytes) :: store.entries.filter fun entry => entry.1 != place⟩

/-- Write a text to a file, in place of what it held. -/
def write (store : FileStore) (path text : String) : Except FileError FileStore :=
  match store.target path with
  | .error fault => .error fault
  | .ok place => .ok (store.put place text.toUTF8)

end FileStore

end Worksheet
