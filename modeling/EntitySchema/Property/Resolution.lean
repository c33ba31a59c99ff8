import EntitySchema.Fragment
import EntitySchema.Text.Case

/-!
# Resolving a storage type

A property that names its storage type has that type. Otherwise the type is derived from the
schema, by the first of these that applies:

1. an `enum` whose values all have the declared type: an enumeration of these values;
2. an `anyOf`, or else an `allOf`, whose branches other than `null` declare one type: the type of
   the first of these branches;
3. the declared type.

A declared type becomes the storage type of its name in upper case, with two exceptions: objects
and arrays are kept as Json, and numbers as integers. A string with a maximal length is sized.
-/

namespace EntitySchema

/-- A storage type, and the values if it is an enumeration. -/
structure Resolution where
  type : StorageType
  values : Option (List Json) := none

namespace Resolution

/-- The declared type that a value has at run time, where null, arrays and objects are alike. -/
def runtimeType : Json → String
  | .num _ => "number"
  | .str _ => "string"
  | .bool _ => "boolean"
  | .null | .arr _ | .obj _ => "object"

/-- The values of `enum`, if they all have the declared type. -/
def enumValues (schema : Members) : Option (List Json) := do
  let declared ← (Members.get? schema "type").bind Json.str?
  let values ← (Members.get? schema "enum").bind Json.arr?
  if values.all fun v => runtimeType v == declared then some values else none

/-- Whether a number sizes a string: it is above zero. -/
def isSize : Json → Bool
  | .num (.int n) => 0 < n
  | .num (.real x) => x.compareInt 0 == .gt
  | _ => false

/-- A storage type by path; an error names the declared type. -/
def named (c : Catalog) (path declared : String) : SchemaResult StorageType :=
  match c.resolve? path with
  | some t => return t
  | none => fail (.unknownDeclaredType (Text.shown declared))

/-- The storage type of a declared type, in a schema that may size it. -/
def ofDeclared (c : Catalog) (json : StorageType) (declared : Option Json) (schema : Members) :
    SchemaResult StorageType :=
  match declared with
  | none => fail (.unknownDeclaredType "undefined")
  | some (.str name) =>
    if name = "object" ∨ name = "array" then return json
    else if name = "number" then named c "INTEGER" name
    else do
      let t ← named c (Text.upper name) name
      match (Members.get? schema "maxLength").filter isSize with
      | some size => if name = "string" then t.call [.literal size] else return t
      | none => return t
  | some v => fail (.unknownDeclaredType v.text)

/-- The storage type of a union: its branches other than null must declare one type. -/
def ofUnion (c : Catalog) (json : StorageType) (keyword : String) (branches : List Json) :
    SchemaResult StorageType :=
  let meaningful := branches.filter fun b => b.getStr? "type" ≠ some "null"
  match meaningful with
  | [] => fail (.emptyUnion keyword)
  | first :: _ =>
    if branches.length < 2 then fail (.emptyUnion keyword)
    else match first.getStr? "type" with
      | none => fail (.mixedUnion keyword)
      | some shared =>
        if meaningful.all fun b => b.getStr? "type" == some shared then
          ofDeclared c json (first.get? "type") (first.obj?.getD [])
        else fail (.mixedUnion keyword)

/-- The branches that decide, and the keyword they stand under. -/
def union? (schema : Members) : Option (String × List Json) :=
  match Members.get? schema "anyOf", Members.get? schema "allOf" with
  | some (.arr branches), _ => some ("anyOf", branches)
  | _, some (.arr branches) => some ("allOf", branches)
  | _, _ => none

/-- The storage type derived from a schema. -/
def derive (c : Catalog) (json : StorageType) (schema : Members) : SchemaResult Resolution :=
  match enumValues schema with
  | some values => do return ⟨← named c "ENUM" "enum", some values⟩
  | none => match union? schema with
    | some (keyword, branches) => do return ⟨← ofUnion c json keyword branches, none⟩
    | none => do return ⟨← ofDeclared c json (Members.get? schema "type") schema, none⟩

end Resolution

/-- The storage type of a property: the one it names, or the one derived from its schema. `json` is
the type that objects and arrays are kept as. -/
def resolve (c : Catalog) (json : StorageType) (schema : Members) (explicit : Option TypeRef) :
    SchemaResult Resolution :=
  match explicit with
  | some r => do return ⟨← r.eval c, none⟩
  | none => Resolution.derive c json schema

end EntitySchema
