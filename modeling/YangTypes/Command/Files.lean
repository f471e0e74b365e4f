/-!
Files and the paths that lead to them.

A path is followed name by name from the working directory, or from the root if it starts with a
slash. `Files.read` gives the text of the file at its end, or says why there is none.
-/

namespace YangTypes.Command

/-- Why a document cannot be read. -/
inductive ReadFailure where
  | missing
  | notPermitted
  | notDirectory
  | isDirectory
  | nameTooLong
  | other (reason : String)
deriving DecidableEq, Repr

/-- The wording of a failure. -/
def ReadFailure.message : ReadFailure → String
  | missing => "No such file or directory (os error 2)"
  | notPermitted => "Permission denied (os error 13)"
  | notDirectory => "Not a directory (os error 20)"
  | isDirectory => "Is a directory (os error 21)"
  | nameTooLong => "File name too long (os error 36)"
  | other reason => reason

/-- A place among the files: the names that lead to it, from the root or from the working
directory. -/
structure Place where
  absolute : Bool
  names : List String
deriving DecidableEq, Repr

namespace Place

/-- Where a path starts. -/
def start (path : String) : Place := ⟨path.toList.head? = some '/', []⟩

/-- The names in a path. -/
def pathNames (path : String) : List String :=
  (path.toList.splitOnP (· == '/')).map String.ofList

/-- The place below another with a name. -/
def child (place : Place) (name : String) : Place := ⟨place.absolute, place.names ++ [name]⟩

/-- The place above another. The working directory stands in the root. -/
def parent (place : Place) : Place :=
  if place.names.isEmpty then ⟨true, []⟩ else ⟨place.absolute, place.names.dropLast⟩

/-- Whether a place is another or above it. -/
def contains (place other : Place) : Bool :=
  place.absolute == other.absolute && place.names.isPrefixOf other.names

/-- The place that a path names, if there are only directories on the way. -/
def ofPath (path : String) : Place :=
  ⟨(start path).absolute, (pathNames path).filter fun name => name != "" && name != "."⟩

end Place

/-- The texts of files. There are those directories that hold one, the root and the working
directory. -/
abbrev Files := List (Place × String)

namespace Files

/-- Whether there is a file or a directory at a place. -/
def has (files : Files) (place : Place) : Bool :=
  place.names.isEmpty || files.any fun file => place.contains file.1

/-- Follows names from a place on. -/
def follow (files : Files) (place : Place) : List String → Except ReadFailure Place
  | [] => .ok place
  | name :: names =>
    if (files.lookup place).isSome then .error .notDirectory
    else if name = "" ∨ name = "." then follow files place names
    else if name = ".." then follow files place.parent names
    else if 255 < name.utf8ByteSize then .error .nameTooLong
    else if files.has (place.child name) then follow files (place.child name) names
    else .error .missing

/-- Reads the file that a path leads to. -/
def read (files : Files) (path : String) : Except ReadFailure String :=
  if path.isEmpty then .error .missing
  else if 4095 < path.utf8ByteSize then .error .nameTooLong
  else do
    let place ← files.follow (.start path) (Place.pathNames path)
    match files.lookup place with
    | some text => return text
    | none => throw .isDirectory

end Files

end YangTypes.Command
