import EntitySchema.Fragment

/-!
# Entities

An entity has a title, the names of the properties it requires, its properties, and further keys:
model options and keywords of its schema. Names of properties are distinct, and so are the further
keys.
-/

namespace EntitySchema

/-- The description of one entity. -/
structure Entity where
  title : String
  required : List String
  properties : List (String × Fragment)
  rest : Members
  nodup_properties : (Members.keys properties).Nodup
  nodup_rest : (Members.keys rest).Nodup

namespace Entity

def ofTitle (title : String) : Entity := ⟨title, [], [], [], List.nodup_nil, List.nodup_nil⟩

def isRequired (e : Entity) (name : String) : Bool := e.required.contains name

/-- Adds or replaces a property; a name is listed as required at most once. -/
def addProperty (e : Entity) (name : String) (f : Fragment) (required : Bool) : Entity :=
  { e with
    required := if required && !e.isRequired name then e.required ++ [name] else e.required
    properties := Members.insert e.properties name f
    nodup_properties := Members.nodup_keys_insert e.nodup_properties }

/-- Sets a further key. -/
def setOption (e : Entity) (key : String) (v : Json) : Entity :=
  { e with
    rest := Members.insert e.rest key v
    nodup_rest := Members.nodup_keys_insert e.nodup_rest }

/-! ## As Json -/

def encode (e : Entity) : Json :=
  .obj (Members.ofList (
    ("title", .str e.title) :: ("required", Json.ofStrings e.required)
      :: ("properties", .obj (e.properties.map fun p => (p.1, p.2.encode))) :: e.rest))

/-- What has been read of an entity. -/
structure Parts where
  title : Option String := none
  required : List String := []
  properties : List (String × Fragment) := []
  rest : Members := []

def Parts.finish (p : Parts) : Except DecodeError Entity :=
  match p.title with
  | none => .error (.missingField "title")
  | some title => .ok {
      title := title
      required := p.required
      properties := Members.ofList p.properties
      rest := Members.ofList p.rest
      nodup_properties := Members.nodup_keys_ofList
      nodup_rest := Members.nodup_keys_ofList }

/-- Reads the fragments of an object. -/
def decodeProperties (ms : Members) : Except DecodeError (List (String × Fragment)) :=
  ms.mapM fun m => do return (m.1, ← Fragment.decode m.2)

/-- Reads one member of an entity. -/
def Parts.add (p : Parts) (m : String × Json) : Except DecodeError Parts :=
  if m.1 = "title" then do return { p with title := some (← Decode.string m.2) }
  else if m.1 = "required" then do return { p with required := ← Decode.strings m.2 }
  else if m.1 = "properties" then do
    return { p with properties := ← decodeProperties (← Decode.map m.2) }
  else .ok { p with rest := p.rest ++ [m] }

/-- Reads an entity: its members in order, the first that does not fit is the error. -/
def decode (v : Json) : Except DecodeError Entity :=
  match v with
  | .obj ms => do (← ms.foldlM Parts.add {}).finish
  | v => .error (.wrongKind v .entity)

end Entity

end EntitySchema
