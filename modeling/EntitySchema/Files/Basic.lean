import EntitySchema.Json.Basic

/-!
# Files

What can be asked of a file system, and why there may be no answer. Nothing here changes a file. A
snapshot holds the answers that were given to some questions, as a file system of its own.
-/

namespace EntitySchema

/-- Why a file or a directory cannot be read. -/
inductive FileFault where
  | notFound
  | notADirectory
  | isADirectory
  /-- The path holds a NUL, which no name does. -/
  | nul
  /-- The bytes are no UTF-8. -/
  | notText
  | other (text : String)
deriving DecidableEq, Repr

def FileFault.message : FileFault → String
  | .notFound => "No such file or directory (os error 2)"
  | .notADirectory => "Not a directory (os error 20)"
  | .isADirectory => "Is a directory (os error 21)"
  | .nul => "file name contained an unexpected NUL byte"
  | .notText => "stream did not contain valid UTF-8"
  | .other text => text

/-- Why the names in a directory cannot be told. A directory that is there may still have an entry
that cannot be read, and then none of its names is told. -/
inductive ListingFault where
  | directory (fault : FileFault)
  | entry (fault : FileFault)
deriving DecidableEq, Repr

def ListingFault.message : ListingFault → String
  | .directory fault => "Failed to read schema directory: " ++ fault.message
  | .entry fault => "Failed to read directory entry: " ++ fault.message

/-- A file system, as far as it is read. -/
structure Files where
  /-- Whether there is anything at a path. -/
  present : String → Bool
  /-- The text of a file. -/
  read : String → Except FileFault String
  /-- The names in a directory, in any order. -/
  list : String → Except ListingFault (List String)

namespace Files

/-- A name in a directory, as a path. -/
def join (dir name : String) : String :=
  if dir.toList.getLast? = some '/' then dir ++ name else dir ++ "/" ++ name

/-- Whether a name ends in `.json` after at least one other character. -/
def isJsonName (name : String) : Bool :=
  let cs := name.toList
  ".json".toList.isSuffixOf cs && 5 < cs.length

end Files

/-- What was read of a file system. What was not asked about is not there. -/
structure Snapshot where
  texts : List (String × Except FileFault String) := []
  /-- The directories that are there, with their names. -/
  dirs : List (String × Except ListingFault (List String)) := []

def Snapshot.files (s : Snapshot) : Files where
  present path := Members.has s.dirs path
  read path := (Members.get? s.texts path).getD (.error .notFound)
  list path := (Members.get? s.dirs path).getD (.error (.directory .notFound))

end EntitySchema
