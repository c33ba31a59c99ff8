import EntitySchema.Error
import EntitySchema.Json.Basic

/-!
# Editing documents

Derived schemas: every edit takes a document and gives a new one. An edit of a document that is no
object starts from the empty object, and an edit of `required` or `properties` puts an empty list or
an empty object where there is none.

Names are given to an edit as a list, which must not be empty. `Keyword` lists the keywords that can
be set by a name of their own.
-/

namespace EntitySchema.Document

/-- The members of a document; none if it is no object. -/
def members (doc : Json) : Members := doc.obj?.getD []

/-- Sets a key. -/
def set (doc : Json) (key : String) (v : Json) : Json := .obj (Members.insert (members doc) key v)

/-! ## Sections -/

/-- The list under `required`, empty if there is none. -/
def requiredItems (doc : Json) : List Json :=
  ((Members.get? (members doc) "required").bind Json.arr?).getD []

/-- The object under `properties`, empty if there is none. -/
def propertyMembers (doc : Json) : Members :=
  ((Members.get? (members doc) "properties").bind Json.obj?).getD []

def updateRequired (doc : Json) (f : List Json → List Json) : Json :=
  set doc "required" (.arr (f (requiredItems doc)))

def updateProperties (doc : Json) (f : Members → Members) : Json :=
  set doc "properties" (.obj (f (propertyMembers doc)))

/-- The schema of a property. -/
def property? (doc : Json) (name : String) : Option Json :=
  (doc.get? "properties").bind (·.get? name)

/-- The schema of a property that must be there. -/
def property (doc : Json) (name : String) : SchemaResult Json :=
  match property? doc name with
  | some schema => return schema
  | none => fail (.undefinedProperty name)

/-- Refuses an empty list of names. -/
def checkNames (names : List String) (operation : String) : SchemaResult Unit :=
  if names.isEmpty then fail (.emptyArguments operation) else return ()

/-! ## Narrowing -/

/-- The schema of one property. -/
def prop (doc : Json) (name : String) : SchemaResult Json :=
  if name.isEmpty then fail (.emptyArguments "prop") else property doc name

/-- A closed schema of the given properties, all of them required. -/
def closed (names : List String) (properties : Members) : Json := .obj [
  ("type", .str "object"),
  ("additionalProperties", .bool false),
  ("required", Json.ofStrings names),
  ("properties", .obj properties)]

/-- A closed schema of some properties. -/
def props (doc : Json) (names : List String) : SchemaResult Json := do
  checkNames names "props"
  let schemas ← names.mapM fun n => do return (n, ← property doc n)
  return closed names (Members.ofList schemas)

/-! ## Properties -/

/-- Adds or replaces properties. -/
def add (doc : Json) (properties : Members) : Json :=
  updateProperties doc (Members.insertAll · properties)

/-- Whether an entry of `required` is one of some names. -/
def isNamed (names : List String) (entry : Json) : Bool :=
  match entry with
  | .str n => names.contains n
  | _ => false

def dropRequired (doc : Json) (names : List String) : Json :=
  updateRequired doc fun items => items.filter fun entry => !isNamed names entry

/-- Takes out properties, and their names from `required`. `operation` is what the caller calls
this. -/
def remove (operation : String) (doc : Json) (names : List String) : SchemaResult Json := do
  checkNames names operation
  return updateProperties (dropRequired doc names) fun ms => names.foldl Members.erase ms

/-! ## Required names -/

/-- Appends a name to `required`, unless it is there. -/
def appendRequired (items : List Json) (name : String) : List Json :=
  if items.any (isNamed [name]) then items else items ++ [.str name]

/-- Requires properties that the document has. -/
def required (doc : Json) (names : List String) : SchemaResult Json := do
  checkNames names "required"
  names.forM fun n => do let _ ← property doc n
  return updateRequired doc fun items => names.foldl appendRequired items

/-- Replaces `required` by a list as it is. -/
def requiredList (doc : Json) (names : List String) : Json :=
  set doc "required" (Json.ofStrings names)

/-- Takes names out of `required`. `operation` is what the caller calls this. -/
def notRequired (operation : String) (doc : Json) (names : List String) : SchemaResult Json := do
  checkNames names operation
  return dropRequired doc names

/-! ## Keywords -/

/-- The keywords that can be set by name. -/
inductive Keyword where
  | not
  | id
  | reference
  | additionalProperties
  | dependencies
  | dependentRequired
  | dependentSchemas
  | maxProperties
  | minProperties
  | patternProperties
  | propertyNames
  | unevaluatedProperties
  | minLength
  | maxLength
  | pattern
  | format
  | minimum
  | maximum
  | exclusiveMinimum
  | exclusiveMaximum
  | multipleOf
  | items
  | minItems
  | maxItems
  | uniqueItems
  | additionalItems
  | contains
  | minContains
  | maxContains
  | unevaluatedItems
deriving DecidableEq, Repr

/-- The key of a keyword in a document. -/
def Keyword.key : Keyword → String
  | .not => "not"
  | .id => "$id"
  | .reference => "$ref"
  | .additionalProperties => "additionalProperties"
  | .dependencies => "dependencies"
  | .dependentRequired => "dependentRequired"
  | .dependentSchemas => "dependentSchemas"
  | .maxProperties => "maxProperties"
  | .minProperties => "minProperties"
  | .patternProperties => "patternProperties"
  | .propertyNames => "propertyNames"
  | .unevaluatedProperties => "unevaluatedProperties"
  | .minLength => "minLength"
  | .maxLength => "maxLength"
  | .pattern => "pattern"
  | .format => "format"
  | .minimum => "minimum"
  | .maximum => "maximum"
  | .exclusiveMinimum => "exclusiveMinimum"
  | .exclusiveMaximum => "exclusiveMaximum"
  | .multipleOf => "multipleOf"
  | .items => "items"
  | .minItems => "minItems"
  | .maxItems => "maxItems"
  | .uniqueItems => "uniqueItems"
  | .additionalItems => "additionalItems"
  | .contains => "contains"
  | .minContains => "minContains"
  | .maxContains => "maxContains"
  | .unevaluatedItems => "unevaluatedItems"

/-- Sets a keyword. -/
def setKeyword (doc : Json) (k : Keyword) (v : Json) : Json := set doc k.key v

end EntitySchema.Document
