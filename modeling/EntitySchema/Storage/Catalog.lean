import EntitySchema.Storage.Type
import EntitySchema.Text.Split

/-!
# Catalogs

A catalog lists the storage types a compiler knows, each name with its class. A path names one of
them and may go on with modifiers after dots.
-/

namespace EntitySchema

/-- Names and classes, in the order they were registered. -/
structure Catalog where
  entries : List (String × TypeClass)
deriving DecidableEq, Repr

namespace Catalog

def empty : Catalog := ⟨[]⟩

/-- Adds a name, or gives a known one another class. -/
def register (c : Catalog) (name : String) (cls : TypeClass) : Catalog :=
  ⟨Members.insert c.entries name cls⟩

def names (c : Catalog) : List String := Members.keys c.entries

def size (c : Catalog) : Nat := c.entries.length

/-- The types of a relational store. -/
def standard : Catalog where
  entries := [
    ("STRING", .string), ("CHAR", .string), ("TEXT", .string), ("CITEXT", .string),
    ("TINYINT", .integer), ("SMALLINT", .integer), ("MEDIUMINT", .integer),
    ("INTEGER", .integer), ("BIGINT", .integer),
    ("FLOAT", .number), ("REAL", .number), ("DOUBLE", .number), ("DECIMAL", .number),
    ("BOOLEAN", .boolean),
    ("DATE", .temporal), ("DATEONLY", .temporal), ("TIME", .temporal), ("NOW", .constant),
    ("UUID", .other), ("UUIDV1", .constant), ("UUIDV4", .constant),
    ("JSON", .json), ("JSONB", .json), ("BLOB", .binary),
    ("ENUM", .enum), ("ARRAY", .array), ("RANGE", .range),
    ("GEOMETRY", .geometry), ("GEOGRAPHY", .geometry),
    ("INET", .other), ("CIDR", .other), ("MACADDR", .other), ("HSTORE", .other)]

/-! ## Paths -/

/-- Chains the modifiers named by the parts of a path. -/
def chain (t : StorageType) : List String → Option StorageType
  | [] => some t
  | part :: parts => do
    let m ← Modifier.ofName? part
    let t ← (t.modify m).toOption
    chain t parts

/-- The type that a path names. -/
def resolve? (c : Catalog) (path : String) : Option StorageType :=
  match Text.splitOn '.' path.toList with
  | [] => none
  | head :: parts => do
    let name := String.ofList head
    let cls ← Members.get? c.entries name
    chain (.bare name cls) (parts.map String.ofList)

def has (c : Catalog) (path : String) : Bool := (c.resolve? path).isSome

/-- The type that a path names, or an error that names the path. -/
def get (c : Catalog) (path : String) : SchemaResult StorageType :=
  match c.resolve? path with
  | some t => .ok t
  | none => fail (.unknownDataType path)

end Catalog

end EntitySchema
