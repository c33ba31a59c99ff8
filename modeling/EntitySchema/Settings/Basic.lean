import EntitySchema.TypeExpr.Wire

/-!
# Settings

What a compiler is told beside the entities: the dialect of the store, the storage type for objects
and arrays, further names of storage types, where entity files are, and schemas that entities can
refer to by name.
-/

namespace EntitySchema

/-- The dialect of a store. -/
inductive Dialect where
  | postgres
  | mysql
  | mariadb
  | sqlite
  | mssql
deriving DecidableEq, Repr

namespace Dialect

def all : List Dialect := [.postgres, .mysql, .mariadb, .sqlite, .mssql]

def name : Dialect → String
  | .postgres => "postgres"
  | .mysql => "mysql"
  | .mariadb => "mariadb"
  | .sqlite => "sqlite"
  | .mssql => "mssql"

/-- The storage type of objects and arrays when none is chosen. -/
def jsonType : Dialect → String
  | .postgres => "JSONB"
  | _ => "JSON"

end Dialect

/-- Schemas that can be referred to by name. -/
abbrev SharedSchemas := List (String × Fragment)

structure Settings where
  dialect : Dialect := .postgres
  jsonType : Option String := none
  customTypes : List (String × TypeClass) := []
  schemaDir : Option String := none
  extraSchemas : SharedSchemas := []

/-- Why settings make no sense. -/
inductive SettingsProblem where
  | badTypeName (name : String)
  | badSchema (name : String) (e : SchemaError)
  | notJson (name : String)
  | unknownJson (name : String)
deriving DecidableEq, Repr

def SettingsProblem.message : SettingsProblem → String
  | .badTypeName name => "Invalid custom type name: '" ++ name
    ++ "'. Use uppercase letters, digits and '_'."
  | .badSchema name e => "Invalid extra schema '" ++ name ++ "': " ++ e.message
  | .notJson name => "default_json_type '" ++ name ++ "' is not a JSON type"
  | .unknownJson name => "default_json_type '" ++ name ++ "' is not a known type"

/-- The schemas that are always there: a date. -/
def SharedSchemas.builtin : SharedSchemas :=
  [("DATE", ⟨some (.name "DATE"), [("type", .str "string")]⟩)]

namespace Settings

/-- The standard catalog and the further names. -/
def catalog (s : Settings) : Catalog :=
  s.customTypes.foldl (fun c t => c.register t.1 t.2) .standard

/-- The name of the storage type of objects and arrays. -/
def jsonTypeName (s : Settings) : String := s.jsonType.getD s.dialect.jsonType

/-- The schemas that entities can refer to. -/
def shared (s : Settings) : SharedSchemas := Members.insertAll SharedSchemas.builtin s.extraSchemas

/-- Whether a name can be registered: upper case letters, digits and underscores. -/
def isTypeName (name : String) : Bool :=
  !name.isEmpty && name.toList.all fun c => c.isUpper || c.isDigit || c = '_'

/-- Checks a schema that entities can refer to: its storage type must be known. -/
def checkSchema (c : Catalog) (name : String) (f : Fragment) : Except SettingsProblem Unit :=
  match f.dataType with
  | none => .ok ()
  | some r => match r.eval c with
    | .ok _ => .ok ()
    | .error e => .error (.badSchema name e)

/-- The storage type of objects and arrays. -/
def json (s : Settings) : Except SettingsProblem StorageType :=
  match s.catalog.resolve? s.jsonTypeName with
  | none => .error (.unknownJson s.jsonTypeName)
  | some t => if t.isJson then .ok t else .error (.notJson s.jsonTypeName)

/-- Checks the settings and gives the storage type of objects and arrays. -/
def check (s : Settings) : Except SettingsProblem StorageType := do
  s.customTypes.forM fun t =>
    if isTypeName t.1 then .ok () else .error (.badTypeName t.1)
  s.extraSchemas.forM fun f => checkSchema s.catalog f.1 f.2
  s.json

end Settings

end EntitySchema
