import EntitySchema.Text.Quoted

/-!
# What can go wrong with an entity

A `SchemaError` is a cause and the place it belongs to: an entity, a property, both or neither. A
place that is known is never overwritten, so the innermost one wins.

Three causes are the misuse of an operation and leave the caller free to go on; all others abort
the compilation of the entity.
-/

namespace EntitySchema

/-- How much is lost. -/
inductive Severity where
  | reject
  | fatal
deriving DecidableEq, Repr

def Severity.text : Severity → String
  | .reject => "REJECT"
  | .fatal => "FATAL"

/-- The causes. Reasons and keywords are texts for people. -/
inductive SchemaProblem where
  /-- A path or a modifier that the catalog does not have. -/
  | unknownDataType (path : String)
  /-- A storage type that cannot be built. -/
  | invalidDataType (reason : String)
  /-- A declared type with no storage type. -/
  | unknownDeclaredType (declared : String)
  /-- Branches of a union that declare different types. -/
  | mixedUnion (keyword : String)
  /-- A union with too few branches. -/
  | emptyUnion (keyword : String)
  /-- A modifier for a fragment that has no storage type. -/
  | missingDataType (modifier : String)
  /-- A directive whose value is of the wrong kind. -/
  | invalidDirective (name expected : String)
  /-- A document that is not a schema. -/
  | malformedDocument (reason : String)
  /-- A file that cannot be read or understood. -/
  | malformedFile (path reason : String)
  /-- A second entity of one title. -/
  | duplicate (title : String)
  /-- A property that the document does not have. -/
  | undefinedProperty (name : String)
  /-- An operation that was given no names. -/
  | emptyArguments (operation : String)
deriving DecidableEq, Repr

namespace SchemaProblem

def code : SchemaProblem → String
  | .unknownDataType _ => "SCHEMA_UNKNOWN_DATA_TYPE"
  | .invalidDataType _ => "SCHEMA_INVALID_DATA_TYPE"
  | .unknownDeclaredType _ => "SCHEMA_UNKNOWN_NATIVE_TYPE"
  | .mixedUnion _ => "SCHEMA_MIXED_UNION_TYPE"
  | .emptyUnion _ => "SCHEMA_EMPTY_UNION"
  | .missingDataType _ => "SCHEMA_MISSING_DATA_TYPE"
  | .invalidDirective _ _ => "SCHEMA_INVALID_DIRECTIVE"
  | .malformedDocument _ => "SCHEMA_MALFORMED_DOCUMENT"
  | .malformedFile _ _ => "SCHEMA_MALFORMED_FILE"
  | .duplicate _ => "SCHEMA_DUPLICATE"
  | .undefinedProperty _ => "SCHEMA_UNDEFINED_PROPERTY"
  | .emptyArguments _ => "SCHEMA_EMPTY_ARGS"

def severity : SchemaProblem → Severity
  | .duplicate _ | .undefinedProperty _ | .emptyArguments _ => .reject
  | _ => .fatal

def message : SchemaProblem → String
  | .unknownDataType path => "Unknown data type: " ++ Text.shown path
  | .invalidDataType reason => "Invalid column data type: " ++ reason
  | .unknownDeclaredType declared => "Invalid column validator type: " ++ declared
  | .mixedUnion keyword => "All items in " ++ Text.shown keyword ++ " must be same type"
  | .emptyUnion keyword => "Invalid number of items in " ++ Text.shown keyword
  | .missingDataType modifier => "Modifier " ++ modifier ++ " requires a preceding data type"
  | .invalidDirective name expected =>
    "Directive " ++ Text.shown name ++ " expects " ++ expected
  | .malformedDocument reason => "Assembled schema is invalid: " ++ reason
  | .malformedFile path reason => "Malformed schema file '" ++ path ++ "': " ++ reason
  | .duplicate title => "Entity " ++ Text.shown title ++ " is already registered"
  | .undefinedProperty name => "Undefined property " ++ Text.shown name
  | .emptyArguments operation =>
    "Method " ++ Text.shown operation ++ " requires at least one argument"

end SchemaProblem

/-- A cause and its place. -/
structure SchemaError where
  problem : SchemaProblem
  entity : Option String := none
  property : Option String := none
deriving DecidableEq, Repr

namespace SchemaError

/-- An error at no place yet; an undefined property is its own place. -/
def of (problem : SchemaProblem) : SchemaError where
  problem := problem
  property := match problem with
    | .undefinedProperty name => some name
    | _ => none

def inEntity (e : SchemaError) (name : String) : SchemaError :=
  { e with entity := e.entity.or (some name) }

def inProperty (e : SchemaError) (name : String) : SchemaError :=
  { e with property := e.property.or (some name) }

def code (e : SchemaError) : String := e.problem.code

def severity (e : SchemaError) : Severity := e.problem.severity

def message (e : SchemaError) : String := e.problem.message

/-- Whether the error aborts a compilation. -/
def isFatal (e : SchemaError) : Bool := e.severity == .fatal

/-- Severity, code, message and place. -/
def text (e : SchemaError) : String :=
  let place := match e.entity, e.property with
    | some entity, some property => " (at " ++ entity ++ "." ++ property ++ ")"
    | some entity, none => " (at " ++ entity ++ ")"
    | none, some property => " (at " ++ property ++ ")"
    | none, none => ""
  "[" ++ e.severity.text ++ "] " ++ e.code ++ ": " ++ e.message ++ place

/-- Naming the place does not change what went wrong. -/
@[simp] theorem problem_inEntity (e : SchemaError) (name : String) :
    (e.inEntity name).problem = e.problem := rfl

@[simp] theorem problem_inProperty (e : SchemaError) (name : String) :
    (e.inProperty name).problem = e.problem := rfl

end SchemaError

/-- The outcome of an operation on entities. -/
abbrev SchemaResult := Except SchemaError

/-- Fails for a cause. -/
def fail {α : Type} (problem : SchemaProblem) : SchemaResult α := .error (.of problem)

end EntitySchema
