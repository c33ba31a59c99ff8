import EntitySchema.Error
import EntitySchema.Json.Basic

/-!
# Directives

Two closed vocabularies stand beside the keywords of a schema. A column directive says something
about the column of one property, a model option about the entity as a whole. A column directive
takes values of certain kinds only.
-/

namespace EntitySchema

/-- A kind of Json value. -/
inductive Kind where
  | any
  | boolean
  | string
  | object
  | array
deriving DecidableEq, Repr

namespace Kind

def name : Kind → String
  | .any => "any"
  | .boolean => "boolean"
  | .string => "string"
  | .object => "object"
  | .array => "array"

def admits : Kind → Json → Bool
  | .any, _ => true
  | .boolean, .bool _ => true
  | .string, .str _ => true
  | .object, .obj _ => true
  | .array, .arr _ => true
  | _, _ => false

end Kind

namespace Directive

/-- The column directives and the kinds of their values. -/
def columns : List (String × List Kind) := [
  ("defaultValue", [.any]),
  ("unique", [.boolean, .string, .object]),
  ("primaryKey", [.boolean]),
  ("autoIncrement", [.boolean]),
  ("autoIncrementIdentity", [.boolean]),
  ("comment", [.string]),
  ("references", [.string, .object]),
  ("onUpdate", [.string]),
  ("onDelete", [.string]),
  ("validate", [.object]),
  ("values", [.array]),
  ("allowNull", [.boolean]),
  ("field", [.string])]

/-- The model options. -/
def options : List String := [
  "tableName", "freezeTableName", "modelName", "timestamps", "paranoid", "underscored",
  "createdAt", "updatedAt", "deletedAt", "version", "engine", "charset", "collate", "comment",
  "initialAutoIncrement", "indexes", "omitNull", "hasTrigger", "schema", "schemaDelimiter"]

def isColumn (key : String) : Bool := Members.has columns key

def isOption (key : String) : Bool := options.contains key

/-- Checks the value of a column directive; other keys may have any value. -/
def check (key : String) (v : Json) : SchemaResult Unit :=
  match Members.get? columns key with
  | none => return ()
  | some kinds =>
    if kinds.any (·.admits v) then return ()
    else fail (.invalidDirective key (" or ".intercalate (kinds.map Kind.name)))

end Directive

end EntitySchema
