import EntitySchema.Json.Basic
import EntitySchema.Uri.Resource

/-!
# The schema of schemas

A document is a schema when this one has nothing against it. Only the keywords that check something
are listed; their order decides which of several complaints comes first. Of the name that it gives
itself only `resource` is left, since nothing in it refers to that name.
-/

namespace EntitySchema.Draft7.Meta

/-- The name of the schema of schemas. -/
def resource : Uri.Resource :=
  ⟨"http".toList, some "json-schema.org".toList, "/draft-07/schema".toList, none⟩

/-- A schema that is a reference. -/
def ref (place : String) : Json := .obj [("$ref", .str place)]

/-- A schema of one type, and what else is asked of it. -/
def typed (type : String) (more : Members) : Json := .obj (("type", .str type) :: more)

/-- Any schema. -/
def anySchema : Json := ref "#"

def schemaArray : Json := ref "#/definitions/schemaArray"

def count : Json := ref "#/definitions/nonNegativeInteger"

def countFromZero : Json := ref "#/definitions/nonNegativeIntegerDefault0"

def simpleType : Json := ref "#/definitions/simpleTypes"

def stringArray : Json := ref "#/definitions/stringArray"

/-- Either of two schemas. -/
def either (a b : Json) : Json := .obj [("anyOf", .arr [a, b])]

/-- Schemas by name. -/
def schemaMap (more : Members) : Json :=
  typed "object" (("additionalProperties", anySchema) :: more)

def definitions : Members := [
  ("schemaArray", typed "array" [("minItems", .num (.int 1)), ("items", anySchema)]),
  ("nonNegativeInteger", typed "integer" [("minimum", .num (.int 0))]),
  ("nonNegativeIntegerDefault0", .obj [("allOf", .arr [count, .obj []])]),
  ("simpleTypes", .obj [("enum", Json.ofStrings
    ["array", "boolean", "integer", "null", "number", "object", "string"])]),
  ("stringArray", typed "array" [("items", typed "string" []), ("uniqueItems", .bool true)])]

/-- What is asked of the value of each keyword. -/
def keywords : Members := [
  ("$id", typed "string" [("format", .str "uri-reference")]),
  ("$schema", typed "string" [("format", .str "uri")]),
  ("$ref", typed "string" [("format", .str "uri-reference")]),
  ("$comment", typed "string" []),
  ("title", typed "string" []),
  ("description", typed "string" []),
  ("default", .bool true),
  ("readOnly", typed "boolean" []),
  ("writeOnly", typed "boolean" []),
  ("examples", typed "array" [("items", .bool true)]),
  ("multipleOf", typed "number" [("exclusiveMinimum", .num (.int 0))]),
  ("maximum", typed "number" []),
  ("exclusiveMaximum", typed "number" []),
  ("minimum", typed "number" []),
  ("exclusiveMinimum", typed "number" []),
  ("maxLength", count),
  ("minLength", countFromZero),
  ("pattern", typed "string" [("format", .str "regex")]),
  ("additionalItems", anySchema),
  ("items", either anySchema schemaArray),
  ("maxItems", count),
  ("minItems", countFromZero),
  ("uniqueItems", typed "boolean" []),
  ("contains", anySchema),
  ("maxProperties", count),
  ("minProperties", countFromZero),
  ("required", stringArray),
  ("additionalProperties", anySchema),
  ("definitions", schemaMap []),
  ("properties", schemaMap []),
  ("patternProperties", schemaMap [("propertyNames", .obj [("format", .str "regex")])]),
  ("dependencies",
    typed "object" [("additionalProperties", either anySchema stringArray)]),
  ("propertyNames", anySchema),
  ("const", .bool true),
  ("enum", typed "array" [("items", .bool true)]),
  ("type", either simpleType (typed "array"
    [("items", simpleType), ("minItems", .num (.int 1)), ("uniqueItems", .bool true)])),
  ("format", typed "string" []),
  ("contentMediaType", typed "string" []),
  ("contentEncoding", typed "string" []),
  ("if", anySchema),
  ("then", anySchema),
  ("else", anySchema),
  ("allOf", schemaArray),
  ("anyOf", schemaArray),
  ("oneOf", schemaArray),
  ("not", anySchema)]

/-- The whole document. -/
def schema : Json := .obj [
  ("definitions", .obj definitions),
  ("type", Json.ofStrings ["object", "boolean"]),
  ("properties", .obj keywords)]

end EntitySchema.Draft7.Meta
