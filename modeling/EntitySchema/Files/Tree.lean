import EntitySchema.Files.Basic
import EntitySchema.Text.Split

/-!
# Files held in memory

A tree lists the files and directories below a working directory. `files` answers questions about
paths relative to it; a path that leads out of it leads nowhere.
-/

namespace EntitySchema

/-- What stands at a place of a tree. -/
inductive FileNode where
  | file (bytes : List UInt8)
  | directory
deriving DecidableEq, Repr

/-- Files and directories by the names on the way to them. -/
structure FileTree where
  entries : List (List String × FileNode)
deriving DecidableEq, Repr

namespace FileTree

/-- The names on the way of a path; an empty name stands for two slashes in a row or one at an
end. -/
def names (path : List Char) : List String := (Text.splitOn '/' path).map String.ofList

/-- What stands at a place: a node that is listed, or a directory that something listed is in. -/
def node? (t : FileTree) (place : List String) : Option FileNode :=
  match t.entries.find? (·.1 = place) with
  | some entry => some entry.2
  | none => if place = [] ∨ t.entries.any (place.isPrefixOf ·.1) then some .directory else none

/-- Follows names from a place; every place on the way must be a directory. -/
def follow (t : FileTree) (place : List String) : List String → Except FileFault (List String)
  | [] => .ok place
  | name :: rest =>
    match t.node? place with
    | none => .error .notFound
    | some (.file _) => .error .notADirectory
    | some .directory =>
      if name = "" ∨ name = "." then t.follow place rest
      else if name = ".." then
        if place = [] then .error .notFound else t.follow place.dropLast rest
      else t.follow (place ++ [name]) rest

/-- What stands at a path. -/
def lookup (t : FileTree) (path : String) : Except FileFault (List String × FileNode) :=
  let cs := path.toList
  if cs.contains '\x00' then .error .nul
  else if cs = [] ∨ cs.head? = some '/' then .error .notFound
  else do
    let place ← t.follow [] (names cs)
    match t.node? place with
    | some node => .ok (place, node)
    | none => .error .notFound

/-- The names right below a place. -/
def children (t : FileTree) (place : List String) : List String :=
  (t.entries.filterMap fun entry =>
    if place.isPrefixOf entry.1 then (entry.1.drop place.length).head? else none).eraseDups

/-- The tree as a file system. -/
def files (t : FileTree) : Files where
  present path := (t.lookup path).toOption.isSome
  read path := do
    match (← t.lookup path).2 with
    | .directory => .error .isADirectory
    | .file bytes => match String.fromUTF8? ⟨bytes.toArray⟩ with
      | some text => .ok text
      | none => .error .notText
  list path := do
    let (place, node) ← (t.lookup path).mapError .directory
    match node with
    | .directory => .ok (t.children place)
    | .file _ => .error (.directory .notADirectory)

end FileTree

end EntitySchema
