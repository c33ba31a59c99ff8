import EntitySchema.Compiler
import EntitySchema.Document
import EntitySchema.Text.Case
import EntitySchema.Validation.Cache

/-!
# Models

A model is a compiled entity with a cache of validators for parts of it: one property, a set of
properties, or the column of one property. Every operation returns the model as it is afterwards,
since it may have compiled a validator or checked a value with one.
-/

namespace EntitySchema

structure Model where
  artifact : Artifact
  cache : Cache

/-- Compiles an entity and starts with an empty cache. -/
def Compiler.define (c : Compiler) (e : Entity) : SchemaResult Model := do
  return ⟨← c.compile e, .empty⟩

/-- Why a value was not accepted: the question made no sense, or the value failed. -/
inductive CheckError where
  | schema (e : SchemaError)
  | invalid (r : Report)
deriving DecidableEq, Repr

namespace Model

def name (m : Model) : String := m.artifact.name

/-- What an instance of the entity is called. -/
def instanceName (m : Model) : String := Text.lowerFirst m.name

/-- The schema of a property. -/
def schemaOf (m : Model) (name : String) : SchemaResult Json :=
  match m.artifact.properties?.bind (Members.get? · name) with
  | some schema => return schema
  | none => .error ((SchemaError.of (.undefinedProperty name)).inEntity m.name)

/-- The schemas of some properties, by name. -/
def schemasOf (m : Model) (names : List String) : SchemaResult Members :=
  names.mapM fun n => do return (n, ← m.schemaOf n)

/-- The validator for a key; errors name the entity. -/
def fetch (m : Model) (key : ValidatorKey) (schema : Json) (label : Option String) :
    SchemaResult Handle × Model :=
  let (answer, cache) := m.cache.getOrCompile key fun _ => Validator.compile schema label
  (answer.result.mapError (·.inEntity m.name), { m with cache := cache })

/-- The validator for one property, labelled with its name. -/
def propValidator (m : Model) (name : String) : SchemaResult Handle × Model :=
  if name.isEmpty then (fail (.emptyArguments "prop_validator"), m)
  else match m.schemaOf name with
    | .ok schema => m.fetch (.prop name) schema (some name)
    | .error e => (.error e, m)

/-- The validator for a set of properties, all of them required. -/
def propsValidator (m : Model) (names : List String) : SchemaResult Handle × Model :=
  if names.isEmpty then (fail (.emptyArguments "props_validator"), m)
  else
    let key := ValidatorKey.ofNames names
    match m.schemasOf key.names with
    | .ok schemas => m.fetch key (Document.closed key.names schemas) none
    | .error e => (.error e, m)

/-- Checks a value with the validator that a request gave. -/
def checkWith (r : SchemaResult Handle × Model) (v : Json) : Except CheckError Unit × Model :=
  match r with
  | (.ok h, m) =>
    let (outcome, cache) := m.cache.validate h v
    (outcome.mapError .invalid, { m with cache := cache })
  | (.error e, m) => (.error (.schema e), m)

/-- Checks a record against the properties it has. -/
def validateProps (m : Model) (v : Json) : Except CheckError Unit × Model :=
  match v with
  | .obj ms => checkWith (m.propsValidator (Members.keys ms)) v
  | v =>
    (.error (.invalid (.ofMessage (m.instanceName ++ " expected an object, got " ++ v.text))), m)

/-- Checks the value of one column, labelled with the instance and the property. -/
def validateColumn (m : Model) (name : String) (v : Json) : Except CheckError Unit × Model :=
  match m.schemaOf name with
  | .ok schema =>
    checkWith (m.fetch (.column name) schema (some (m.instanceName ++ "." ++ name))) v
  | .error e => (.error (.schema e), m)

end Model

end EntitySchema
