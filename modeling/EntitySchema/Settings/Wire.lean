import EntitySchema.Settings.Basic

/-!
# Settings as Json

An object with a member for each field; members that are not there have their default, and members
of other names are passed over. A list gives the values of the fields in their order instead.
-/

namespace EntitySchema.Settings

inductive Field where
  | dialect
  | jsonType
  | customTypes
  | schemaDir
  | extraSchemas
deriving DecidableEq, Repr

namespace Field

/-- The fields in their order. -/
def all : List Field := [.dialect, .jsonType, .customTypes, .schemaDir, .extraSchemas]

def name : Field → String
  | .dialect => "dialect"
  | .jsonType => "default_json_type"
  | .customTypes => "custom_types"
  | .schemaDir => "schema_dir"
  | .extraSchemas => "extra_schemas"

def ofName? (s : String) : Option Field := all.find? (·.name == s)

end Field

/-- The dialects by name. -/
def dialects : List (String × Dialect) := Dialect.all.map fun d => (d.name, d)

/-- The classes by name. -/
def classes : List (String × TypeClass) := TypeClass.all.map fun c => (c.name, c)

/-- A text that may be missing. -/
def encodeOption : Option String → Json
  | none => .null
  | some s => .str s

def encode (s : Settings) : Json := .obj [
  ("dialect", .str s.dialect.name),
  ("default_json_type", encodeOption s.jsonType),
  ("custom_types", .obj (s.customTypes.map fun t => (t.1, .str t.2.name))),
  ("schema_dir", encodeOption s.schemaDir),
  ("extra_schemas", .obj (s.extraSchemas.map fun f => (f.1, f.2.encode)))]

/-- Reads a value that may be null. -/
def decodeOption (read : Json → Except DecodeError String) :
    Json → Except DecodeError (Option String)
  | .null => .ok none
  | v => do return some (← read v)

/-- Reads the value of a field. -/
def decodeField (s : Settings) (f : Field) (v : Json) : Except DecodeError Settings :=
  match f with
  | .dialect => do return { s with dialect := ← Decode.variant dialects v }
  | .jsonType => do return { s with jsonType := ← decodeOption Decode.string v }
  | .customTypes => do
    let types ← (← Decode.map v).mapM fun m => do return (m.1, ← Decode.variant classes m.2)
    return { s with customTypes := Members.ofList types }
  | .schemaDir => do return { s with schemaDir := ← decodeOption Decode.path v }
  | .extraSchemas => do
    let schemas ← (← Decode.map v).mapM fun m => do return (m.1, ← Fragment.decode m.2)
    return { s with extraSchemas := Members.ofList schemas }

/-- Reads settings. -/
def decode (v : Json) : Except DecodeError Settings :=
  match v with
  | .obj ms => ms.foldlM (fun s m => match Field.ofName? m.1 with
      | some f => s.decodeField f m.2
      | none => .ok s) {}
  | .arr vs => do
    let s ← (Field.all.zip vs).foldlM (fun s m => s.decodeField m.1 m.2) {}
    if vs.length ≤ Field.all.length then return s else .error (.tooLong vs.length)
  | v => .error (.wrongKind v .settings)

end EntitySchema.Settings
