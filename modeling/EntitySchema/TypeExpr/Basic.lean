import EntitySchema.Storage.Catalog

/-!
# Type expressions

A type expression (`Descriptor`) names a storage type by a path, gives it arguments, and flags the
modifiers to chain to it. It means a storage type only against a catalog: `Descriptor.eval`.

A `Fragment` is a piece of a schema together with the storage type it was declared with, which is a
plain name or an expression. Fragments are arguments of expressions too, so the types below are
defined together.
-/

namespace EntitySchema

/-- The modifiers an expression asks for. -/
structure Flags where
  unsigned : Bool := false
  zerofill : Bool := false
  binary : Bool := false
deriving DecidableEq, Repr

namespace Flags

def has (f : Flags) : Modifier → Bool
  | .unsigned => f.unsigned
  | .zerofill => f.zerofill
  | .binary => f.binary

def set (f : Flags) (m : Modifier) (state : Bool) : Flags :=
  match m with
  | .unsigned => { f with unsigned := state }
  | .zerofill => { f with zerofill := state }
  | .binary => { f with binary := state }

/-- The modifiers that are set, in the order they are applied. -/
def list (f : Flags) : List Modifier := Modifier.all.filter f.has

theorem has_set (f : Flags) (m n : Modifier) (state : Bool) :
    (f.set m state).has n = if n = m then state else f.has n := by
  cases m <;> cases n <;> simp [set, has]

end Flags

mutual

/-- A path with arguments and flags. -/
structure Descriptor where
  path : String
  args : List Argument
  flags : Flags

/-- An argument: an expression, a fragment that stands for its storage type, or a literal. -/
inductive Argument where
  | nested (d : Descriptor)
  | schema (f : Fragment)
  | literal (v : Json)

/-- A storage type given by name or by an expression. -/
inductive TypeRef where
  | name (n : String)
  | expr (d : Descriptor)

/-- A piece of a schema, and the storage type it was declared with. -/
structure Fragment where
  dataType : Option TypeRef
  keywords : Members

end

namespace StorageType

/-- Chains modifiers, one after the other. -/
def modifyAll (t : StorageType) (ms : List Modifier) : SchemaResult StorageType :=
  ms.foldlM modify t

end StorageType

/-! ## Meaning -/

mutual

/-- The storage type of an expression: the path is looked up, then called with the arguments, from
left to right, if there are any, then the flagged modifiers are chained. -/
def Descriptor.eval (c : Catalog) : Descriptor → SchemaResult StorageType
  | ⟨path, [], flags⟩ => do
    let t ← c.get path
    t.modifyAll flags.list
  | ⟨path, a :: as, flags⟩ => do
    let t ← c.get path
    let b ← a.eval c
    let bs ← evalArguments c as
    let t ← t.call (b :: bs)
    t.modifyAll flags.list

def Argument.eval (c : Catalog) : Argument → SchemaResult TypeArgument
  | .nested d => return .type (← d.eval c)
  | .schema ⟨some r, _⟩ => return .type (← r.eval c)
  | .schema ⟨none, keywords⟩ =>
    fail (.invalidDataType ("type argument " ++ (Json.obj keywords).text ++ " has no data type"))
  | .literal v => return .literal v

def evalArguments (c : Catalog) : List Argument → SchemaResult (List TypeArgument)
  | [] => return []
  | a :: as => do
    let b ← a.eval c
    let bs ← evalArguments c as
    return b :: bs

/-- The storage type of a reference; a name is looked up as a path. -/
def TypeRef.eval (c : Catalog) : TypeRef → SchemaResult StorageType
  | .name n => match c.resolve? n with
    | some t => return t
    | none => fail (.invalidDataType (Text.shown n))
  | .expr d => d.eval c

end

/-! ## Text and promotion -/

namespace Descriptor

/-- An expression without arguments and flags. -/
def ofPath (path : String) : Descriptor := ⟨path, [], {}⟩

def setFlag (d : Descriptor) (m : Modifier) (state : Bool) : Descriptor :=
  { d with flags := d.flags.set m state }

/-- The path, the count of arguments, and the flags. -/
def text (d : Descriptor) : String :=
  let args := if d.args.isEmpty then "" else "(.." ++ toString d.args.length ++ ")"
  d.path ++ args ++ String.join (d.flags.list.map fun m => "." ++ m.name)

end Descriptor

/-- The expression of a reference; a name stands for itself without arguments and flags. -/
def TypeRef.promote : TypeRef → Descriptor
  | .name n => .ofPath n
  | .expr d => d

end EntitySchema
