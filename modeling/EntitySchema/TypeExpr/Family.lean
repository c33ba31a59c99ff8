import EntitySchema.Fragment

/-!
# Constructors

A constructor makes a fragment that is tagged with the storage type it stands for. `ARRAY` and
`RANGE` take schemas as arguments; the scalar constructors take literals and pass them on. A scalar
fragment declares the Json type of its family.
-/

namespace EntitySchema.Constructor

def stringFamily : List String := ["STRING", "CHAR", "TEXT", "CITEXT", "DATE", "GEOMETRY", "BLOB"]

def integerFamily : List String := ["TINYINT", "SMALLINT", "MEDIUMINT", "INTEGER", "BIGINT"]

def numberFamily : List String := ["FLOAT", "REAL", "DOUBLE", "DECIMAL"]

/-- The Json type of a scalar constructor. -/
def family? (name : String) : Option String :=
  if name ∈ stringFamily then some "string"
  else if name ∈ integerFamily then some "integer"
  else if name ∈ numberFamily then some "number"
  else none

/-- The constructors that take schemas. -/
def isComposite (name : String) : Bool := name == "ARRAY" || name == "RANGE"

def isKnown (name : String) : Bool := isComposite name || (family? name).isSome

/-- A fragment of a declared type, tagged with an expression. -/
def tagged (type path : String) (args : List Argument) : Fragment :=
  ⟨some (.expr ⟨path, args, {}⟩), [("type", .str type)]⟩

def composite (name : String) (args : List Fragment) : Fragment :=
  tagged "array" name (args.map .schema)

/-- A scalar constructor called with literals. -/
def scalar (name : String) (args : List Json) : SchemaResult Fragment :=
  match family? name with
  | some type => return tagged type name (args.map .literal)
  | none => fail (.unknownDataType name)

/-- A constructor called without arguments. -/
def bare (name : String) : SchemaResult Fragment :=
  if isComposite name then return composite name [] else scalar name []

/-- A schema as an argument: the bare name of a constructor, or a fragment. -/
def schemaArgument (v : Json) : SchemaResult Fragment :=
  let other (v : Json) : SchemaResult Fragment :=
    fail (.invalidDataType (v.text ++ " is not a schema expression"))
  match v with
  | .str name => if isKnown name then bare name else other v
  | .obj _ => Fragment.ofJson v
  | v => other v

/-- Calls a constructor by name. -/
def call (name : String) (args : List Json) : SchemaResult Fragment :=
  if isComposite name then do
    let args ← args.mapM schemaArgument
    return composite name args
  else scalar name args

end EntitySchema.Constructor
