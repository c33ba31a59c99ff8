import EntitySchema.DecodeError
import EntitySchema.TypeExpr.Basic

/-!
# Type expressions and fragments as Json

An expression is an object tagged `"kind": "DataType"` with a `path`, optional `args`, and a member
`true` for each flag. A fragment is an object whose member `dataType` is its storage type and whose
other members are the schema.

An argument is read as an expression if it is one, else as a fragment if it is an object that can
be one, else as a literal.
-/

namespace EntitySchema

/-! ## Encoding -/

def Flags.encode (f : Flags) : Members := f.list.map fun m => (m.name, .bool true)

mutual

def Descriptor.encode : Descriptor → Json
  | ⟨path, [], flags⟩ => .obj (("kind", .str "DataType") :: ("path", .str path) :: flags.encode)
  | ⟨path, a :: as, flags⟩ =>
    .obj (("kind", .str "DataType") :: ("path", .str path) ::
      ("args", .arr (a.encode :: encodeArguments as)) :: flags.encode)

def Argument.encode : Argument → Json
  | .nested d => d.encode
  | .schema f => f.encode
  | .literal v => v

def encodeArguments : List Argument → List Json
  | [] => []
  | a :: as => a.encode :: encodeArguments as

def TypeRef.encode : TypeRef → Json
  | .name n => .str n
  | .expr d => d.encode

def Fragment.encode : Fragment → Json
  | ⟨none, keywords⟩ => .obj keywords
  | ⟨some r, keywords⟩ => .obj (("dataType", r.encode) :: keywords)

end

/-! ## Decoding -/

/-- What has been read of an expression; `flags` holds the members with other keys. -/
structure DescriptorParts where
  tagged : Bool := false
  path : Option String := none
  args : Option (List Argument) := none
  others : Members := []

/-- Reads the flags among the members of an expression; other members do not matter. -/
def Flags.decodeFrom : Members → List Modifier → Flags → Except DecodeError Flags
  | [], _, f => .ok f
  | (k, v) :: ms, seen, f =>
    match Modifier.ofName? k with
    | none => decodeFrom ms seen f
    | some m => do
      if m ∈ seen then .error (.duplicateField k)
      else
        let state ← Decode.boolean v
        decodeFrom ms (m :: seen) (f.set m state)

def DescriptorParts.finish (p : DescriptorParts) : Except DecodeError Descriptor := do
  if !p.tagged then .error (.missingField "kind")
  else
    let some path := p.path | .error (.missingField "path")
    let flags ← Flags.decodeFrom p.others [] {}
    return ⟨path, p.args.getD [], flags⟩

/-- What has been read of a fragment; the storage type may be `some none`, which is a null. -/
structure FragmentParts where
  dataType : Option (Option TypeRef) := none
  keywords : Members := []

def FragmentParts.finish (p : FragmentParts) : Fragment := ⟨p.dataType.join, p.keywords⟩

mutual

/-- Reads the members of an expression. -/
def decodeDescriptorMembers (p : DescriptorParts) :
    List (String × Json) → Except DecodeError DescriptorParts
  | [] => .ok p
  | (k, v) :: ms =>
    if k = "kind" then
      if p.tagged then .error (.duplicateField k)
      else do
        Decode.variant [("DataType", ())] v
        decodeDescriptorMembers { p with tagged := true } ms
    else if k = "path" then
      if p.path.isSome then .error (.duplicateField k)
      else do
        let path ← Decode.string v
        decodeDescriptorMembers { p with path := some path } ms
    else if k = "args" then
      if p.args.isSome then .error (.duplicateField k)
      else match v with
        | .arr xs => decodeDescriptorMembers { p with args := some (decodeArguments xs) } ms
        | v => .error (.wrongKind v .sequence)
    else decodeDescriptorMembers { p with others := p.others ++ [(k, v)] } ms

/-- Reads an argument: an expression, else a fragment, else a literal. -/
def decodeArgument : Json → Argument
  | .obj ms =>
    match (decodeDescriptorMembers {} ms).bind DescriptorParts.finish with
    | .ok d => .nested d
    | .error _ =>
      match decodeFragmentMembers {} ms with
      | .ok p => .schema p.finish
      | .error _ => .literal (Json.settle (.obj ms))
  | v => .literal v.settle

def decodeArguments : List Json → List Argument
  | [] => []
  | x :: xs => decodeArgument x :: decodeArguments xs

/-- Reads the members of a fragment. -/
def decodeFragmentMembers (p : FragmentParts) :
    List (String × Json) → Except DecodeError FragmentParts
  | [] => .ok p
  | (k, v) :: ms =>
    if k = "dataType" then
      if p.dataType.isSome then .error (.duplicateField k)
      else match v with
        | .null => decodeFragmentMembers { p with dataType := some none } ms
        | .str n => decodeFragmentMembers { p with dataType := some (some (.name n)) } ms
        | .obj ds =>
          match (decodeDescriptorMembers {} ds).bind DescriptorParts.finish with
          | .ok d => decodeFragmentMembers { p with dataType := some (some (.expr d)) } ms
          | .error _ => .error .noTypeRef
        | _ => .error .noTypeRef
    else decodeFragmentMembers { p with keywords := Members.insert p.keywords k v.settle } ms

end

/-- Reads an expression. -/
def Descriptor.decode (v : Json) : Except DecodeError Descriptor := do
  let ms ← Decode.map v
  (← decodeDescriptorMembers {} ms).finish

/-- Reads a reference: a name or an expression. -/
def TypeRef.decode : Json → Except DecodeError TypeRef
  | .str n => .ok (.name n)
  | v => match Descriptor.decode v with
    | .ok d => .ok (.expr d)
    | .error _ => .error .noTypeRef

/-- Reads a fragment. -/
def Fragment.decode : Json → Except DecodeError Fragment
  | .obj ms => do return (← decodeFragmentMembers {} ms).finish
  | v => .error (.wrongKind v .fragment)

/-! ## Entry points with errors of their own -/

/-- Whether a value is tagged as an expression. -/
def Descriptor.isTagged (v : Json) : Bool := v.getStr? "kind" == some "DataType"

/-- Reads an expression where one may stand; nothing if the value is not tagged as one. -/
def Descriptor.ofJson? (v : Json) : SchemaResult (Option Descriptor) :=
  if !Descriptor.isTagged v then return none
  else match Descriptor.decode v with
    | .ok d => return some d
    | .error e => fail (.invalidDataType ("malformed descriptor: " ++ e.message))

/-- Reads a fragment that a schema source gives. -/
def Fragment.ofJson (v : Json) : SchemaResult Fragment :=
  match v with
  | .obj _ => match Fragment.decode v with
    | .ok f => return f
    | .error e => fail (.malformedDocument e.message)
  | v => fail (.malformedDocument ("expected a schema object, got " ++ v.text))

end EntitySchema
