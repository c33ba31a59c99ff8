import EntitySchema.Json.Printer
import EntitySchema.Text.Quoted

/-!
# Json of the wrong shape

The causes for which a Json value is refused where a value of a certain shape is wanted, and their
wording.
-/

namespace EntitySchema

/-- The shapes that can be asked for. -/
inductive Shape where
  | string
  | boolean
  | sequence
  | map
  | path
  | unit
  | variant
  | singleKey
  | fewerElements
  | fragment
  | entity
  | settings
deriving DecidableEq, Repr

def Shape.text : Shape → String
  | .string => "a string"
  | .boolean => "a boolean"
  | .sequence => "a sequence"
  | .map => "a map"
  | .path => "path string"
  | .unit => "unit"
  | .variant => "string or map"
  | .singleKey => "map with a single key"
  | .fewerElements => "fewer elements in array"
  | .fragment => "struct Fragment"
  | .entity => "struct SchemaNode"
  | .settings => "struct CompilerConfig"

/-- Why a value is refused. -/
inductive DecodeError where
  | wrongKind (found : Json) (expected : Shape)
  | notSingleKey
  | tooLong (length : Nat)
  | unknownVariant (name : String) (known : List String)
  | missingField (name : String)
  | duplicateField (name : String)
  /-- Neither a name nor a descriptor. -/
  | noTypeRef
deriving DecidableEq, Repr

namespace DecodeError

/-- What a value is called when it is not what was asked for. -/
def foundText : Json → String
  | .null => "null"
  | .bool b => "boolean `" ++ toString b ++ "`"
  | .num (.int n) => "integer `" ++ toString n ++ "`"
  | .num (.real x) => "floating point `" ++ x.text Json.numberLayout ++ "`"
  | .str s => "string " ++ Text.shown s
  | .arr _ => "sequence"
  | .obj _ => "map"

/-- A list of choices: one, two with "or", or more after "one of". -/
def choices : List String → String
  | [] => "there are no variants"
  | [a] => "expected `" ++ a ++ "`"
  | [a, b] => "expected `" ++ a ++ "` or `" ++ b ++ "`"
  | names => "expected one of " ++ ", ".intercalate (names.map fun n => "`" ++ n ++ "`")

def message : DecodeError → String
  | .wrongKind found expected =>
    "invalid type: " ++ foundText found ++ ", expected " ++ expected.text
  | .notSingleKey => "invalid value: map, expected " ++ Shape.text .singleKey
  | .tooLong n =>
    "invalid length " ++ toString n ++ ", expected " ++ Shape.text .fewerElements
  | .unknownVariant name known => "unknown variant `" ++ name ++ "`, " ++ choices known
  | .missingField name => "missing field `" ++ name ++ "`"
  | .duplicateField name => "duplicate field `" ++ name ++ "`"
  | .noTypeRef => "data did not match any variant of untagged enum DataTypeRef"

end DecodeError

/-! ## Basic shapes -/

namespace Decode

def string (v : Json) : Except DecodeError String :=
  match v with
  | .str s => .ok s
  | v => .error (.wrongKind v .string)

def path (v : Json) : Except DecodeError String :=
  match v with
  | .str s => .ok s
  | v => .error (.wrongKind v .path)

def boolean (v : Json) : Except DecodeError Bool :=
  match v with
  | .bool b => .ok b
  | v => .error (.wrongKind v .boolean)

def sequence (v : Json) : Except DecodeError (List Json) :=
  match v with
  | .arr xs => .ok xs
  | v => .error (.wrongKind v .sequence)

def map (v : Json) : Except DecodeError Members :=
  match v with
  | .obj ms => .ok ms
  | v => .error (.wrongKind v .map)

def strings (v : Json) : Except DecodeError (List String) := do
  (← sequence v).mapM string

/-- What a name stands for. -/
def named {α : Type} (known : List (String × α)) (name : String) : Except DecodeError α :=
  match Members.get? known name with
  | some a => .ok a
  | none => .error (.unknownVariant name (Members.keys known))

/-- One of some names: a string, or an object whose only key is the name and has the value null. -/
def variant {α : Type} (known : List (String × α)) (v : Json) : Except DecodeError α :=
  match v with
  | .str s => named known s
  | .obj [(k, v)] => do
    let a ← named known k
    match v with
    | .null => return a
    | v => .error (.wrongKind v .unit)
  | .obj _ => .error .notSingleKey
  | v => .error (.wrongKind v .variant)

end Decode

end EntitySchema
