import Worksheet.File.Error

/-!
# Paths

A path is a list of names with slashes between them.  It starts at the working
directory, or at the root if a slash comes first.  Following it leads from one
place to the next: the name `.` stays where it is, `..` goes to the directory
around a place, and any other name goes to what bears it.  Several slashes in a
row are as good as one, but a slash at the end asks for a directory.
-/

namespace Worksheet

/-- A place among the files, given by the names that lead there from the working
directory.  No name is `.`.  A first name `/` stands for the root, and names `..`
at the beginning stand for the directories around the working directory. -/
abbrev Place := List String

namespace Place

/-- The working directory. -/
def working : Place := []

/-- The root. -/
def root : Place := ["/"]

/-- The directory around a place.  The root has none but itself. -/
def parent (place : Place) : Place :=
  if place.all (· == "..") then place ++ [".."]
  else if place = root then root
  else place.dropLast

/-- Where a name leads. -/
def enter (place : Place) (name : String) : Place :=
  if name = "." then place
  else if name = ".." then place.parent
  else place ++ [name]

/-- Is a place the working directory, a directory around it, or the root? -/
def isAround (place : Place) : Bool :=
  place.all fun name => name == ".." || name == "/"

end Place

/-- A path, taken apart. -/
structure PathName where
  /-- Where the path starts. -/
  start : Place
  /-- The names between the slashes. -/
  names : List String
  /-- Is the last character a slash? -/
  endsWithSlash : Bool
  deriving DecidableEq, Repr

namespace PathName

/-- The largest number of bytes of a path. -/
def maxBytes : Nat := 4095

/-- The largest number of bytes of a name. -/
def maxNameBytes : Nat := 255

/-- Take a path apart. -/
def ofText (text : String) : PathName :=
  { start := if text.toList.head? = some '/' then Place.root else Place.working
    names := ((text.toList.splitOn '/').filter fun name => !name.isEmpty).map String.ofList
    endsWithSlash := text.toList.getLast? = some '/' }

/-- Take a path apart, unless it cannot lead anywhere. -/
def read (text : String) : Except FileError PathName :=
  if text.toList.contains '\x00' then .error .zeroInName
  else if text.isEmpty then .error .notFound
  else if maxBytes < text.utf8ByteSize then .error .nameTooLong
  else .ok (ofText text)

/-- The names that lead to the directory in which the last name is looked up. -/
def leading (path : PathName) : List String :=
  path.names.dropLast

/-- The last name. -/
def last? (path : PathName) : Option String :=
  path.names.getLast?

/-- The place of a path, if all names on the way are directories. -/
def place (path : PathName) : Place :=
  path.names.foldl Place.enter path.start

end PathName

end Worksheet
