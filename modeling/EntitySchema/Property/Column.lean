import EntitySchema.Property.Directive
import EntitySchema.Property.Resolution

/-!
# Columns

`Property.normalize` splits a property into the two halves that a store and a validator need: the
column, and the schema without its directives.

A column takes null when its directive says so; without the directive, when the property is not
required or its schema tolerates null. Only an explicit permission changes the schema: one that does
not tolerate null yet is put into a union with it.
-/

namespace EntitySchema

/-- The default of a column: a value, or a storage type that is a value. -/
inductive ColumnDefault where
  | value (v : Json)
  | type (t : StorageType)

/-- What a store is told about one property. -/
structure Column where
  type : StorageType
  allowNull : Bool
  default : Option ColumnDefault := none
  primaryKey : Option Bool := none
  comment : Option String := none
  values : Option (List Json) := none
  /-- The other directives, as they were given. -/
  options : Members := []

namespace Column

def encodeDefault : ColumnDefault → Json
  | .value v => v
  | .type t => .str t.text

/-- The members of a column; a part that is not given is left out. -/
def members (c : Column) : Members :=
  [("type", Json.str c.type.text), ("allowNull", .bool c.allowNull)]
    ++ (c.default.map fun d => ("defaultValue", encodeDefault d)).toList
    ++ (c.primaryKey.map fun b => ("primaryKey", Json.bool b)).toList
    ++ (c.comment.map fun s => ("comment", Json.str s)).toList
    ++ (c.values.map fun vs => ("values", Json.arr vs)).toList
    ++ c.options

def encode (c : Column) : Json := .obj c.members

end Column

/-- The two halves of a property. -/
structure Property where
  schema : Json
  column : Column

namespace Property

/-- The members of a fragment that are directives. -/
def directivesOf (ms : Members) : Members := ms.filter fun m => Directive.isColumn m.1

/-- The members of a fragment that are not. -/
def validationOf (ms : Members) : Members := ms.filter fun m => !Directive.isColumn m.1

/-- Checks the directives in order. -/
def checkDirectives (ms : Members) : SchemaResult Unit :=
  ms.forM fun m => Directive.check m.1 m.2

/-- A description serves as the comment when there is none. -/
def addComment (validation directives : Members) : Members :=
  match Members.has directives "comment", Members.get? validation "description" with
  | false, some (.str s) => Members.insert directives "comment" (.str s)
  | _, _ => directives

/-- The union of a schema with null. -/
def orNull (schema : Json) : Json :=
  .obj [("anyOf", .arr [schema, .obj [("type", .str "null")]])]

/-- The default that a directive gives: an expression stands for its storage type. -/
def givenDefault (c : Catalog) (v : Json) : SchemaResult ColumnDefault := do
  match ← Descriptor.ofJson? v with
  | some d => return .type (← d.eval c)
  | none => return .value v

/-- The default of a column: the one given, or the empty array for a Json array that must not be
null. -/
def defaultOf (c : Catalog) (given : Option Json) (validation : Members) (type : StorageType)
    (allowNull : Bool) : SchemaResult (Option ColumnDefault) :=
  match given with
  | some v => do return some (← givenDefault c v)
  | none =>
    let isArray := (Members.get? validation "type").bind Json.str? == some "array"
    if !allowNull && type.isJson && isArray then return some (.value (.arr [])) else return none

/-- The directives that a column keeps as they are. -/
def restOf (directives : Members) : Members :=
  ["allowNull", "defaultValue", "values", "primaryKey", "comment"].foldl Members.erase directives

/-- Splits a property, without naming it in errors. -/
def split (c : Catalog) (json : StorageType) (f : Fragment) (required : Bool) :
    SchemaResult Property := do
  checkDirectives f.keywords
  let validation := validationOf f.keywords
  let directives := addComment validation (directivesOf f.keywords)
  let resolution ← resolve c json validation f.dataType
  let permission := (Members.get? directives "allowNull").bind Json.bool?
  let tolerant := isNullTolerant validation
  let allowNull := permission.getD (!required || tolerant)
  let schema := Json.obj validation
  let default ← defaultOf c (Members.get? directives "defaultValue") validation resolution.type
    allowNull
  return {
    schema := if permission == some true && !tolerant then orNull schema else schema
    column := {
      type := resolution.type
      allowNull := allowNull
      default := default
      primaryKey := (Members.get? directives "primaryKey").bind Json.bool?
      comment := (Members.get? directives "comment").bind Json.str?
      values := ((Members.get? directives "values").bind Json.arr?).or resolution.values
      options := restOf directives } }

/-- Splits the property `name`; `required` says whether the entity requires it. -/
def normalize (c : Catalog) (json : StorageType) (name : String) (f : Fragment) (required : Bool) :
    SchemaResult Property :=
  (split c json f required).mapError (·.inProperty name)

end Property

end EntitySchema
