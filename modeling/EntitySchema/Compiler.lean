import EntitySchema.Draft7.Compiled
import EntitySchema.Entity.Artifact
import EntitySchema.Settings.Basic

/-!
# Compiling entities

A compiler is a catalog and the storage type that objects and arrays are kept as. `compile` splits
every property of an entity and gathers the halves: the columns, and the document. A model option
goes to the options, any other further key into the document; the keys that the compiler writes
itself win over keys of the same name.

The document is closed: a record with a property that is not listed is refused.
-/

namespace EntitySchema

/-- What storage types are known, and which one keeps objects and arrays. -/
structure Compiler where
  catalog : Catalog
  json : StorageType

namespace Entity

/-- The model options among the further keys. A description serves as the comment when there is
none. -/
def options (e : Entity) : Members :=
  let given := e.rest.filter fun m => Directive.isOption m.1
  match Members.has given "comment", Members.get? e.rest "description" with
  | false, some (.str s) => Members.insert given "comment" (.str s)
  | _, _ => given

/-- The document that describes a record whose properties have these schemas. -/
def document (e : Entity) (properties : Members) : Json :=
  let keywords := e.rest.filter fun m => !Directive.isOption m.1
  .obj (Members.insertAll [("title", .str e.title)] (keywords ++ [
    ("type", .str "object"),
    ("additionalProperties", .bool false),
    ("required", Json.ofStrings e.required),
    ("properties", .obj properties)]))

end Entity

namespace Compiler

/-- The compiler that settings ask for. -/
def ofSettings (s : Settings) : Except SettingsProblem Compiler := do
  return ⟨s.catalog, ← s.check⟩

/-- Splits the properties of an entity, in order. -/
def normalize (c : Compiler) (e : Entity) : SchemaResult (List (String × Property)) :=
  e.properties.mapM fun p => do
    return (p.1, ← Property.normalize c.catalog c.json p.1 p.2 (e.isRequired p.1))

/-- Refuses a document that is no schema. -/
def checkDocument (schema : Json) : SchemaResult Draft7.Compiled :=
  match Draft7.Compiled.compile schema with
  | .ok compiled => return compiled
  | .error reason => fail (.malformedDocument reason)

/-- Compiles an entity, without naming it in errors. -/
def assemble (c : Compiler) (e : Entity) : SchemaResult Artifact := do
  let properties ← c.normalize e
  let schema := e.document (properties.map fun p => (p.1, p.2.schema))
  let _ ← checkDocument schema
  return {
    name := e.title
    columns := properties.map fun p => (p.1, p.2.column)
    options := e.options
    schema := schema }

/-- Compiles an entity. -/
def compile (c : Compiler) (e : Entity) : SchemaResult Artifact :=
  (c.assemble e).mapError (·.inEntity e.title)

end Compiler

end EntitySchema
