import EntitySchema.Entity.Basic
import EntitySchema.Property.Column

/-!
# Compiled entities

What becomes of an entity: its columns, the options of its model, and a document that describes a
whole record.
-/

namespace EntitySchema

/-- A compiled entity. -/
structure Artifact where
  name : String
  columns : List (String × Column)
  options : Members
  schema : Json

namespace Artifact

def encode (a : Artifact) : Json := .obj [
  ("name", .str a.name),
  ("columns", .obj (a.columns.map fun c => (c.1, c.2.encode))),
  ("options", .obj a.options),
  ("schema", a.schema)]

/-- The schemas of the properties, if the document has any. -/
def properties? (a : Artifact) : Option Members := (a.schema.get? "properties").bind Json.obj?

/-- The names that the document requires. -/
def required (a : Artifact) : List String :=
  match a.schema.get? "required" with
  | some names => names.strings
  | none => []

end Artifact

end EntitySchema
