import EntitySchema.Error
import EntitySchema.Json.Printer
import EntitySchema.Storage.Class

/-!
# Storage types

A storage type is a name of a catalog, the arguments it was called with, and the modifiers chained
to it: `INTEGER(10).UNSIGNED.ZEROFILL`. Calling a type without arguments leaves it as it is, so a
type without arguments is one that was never called.
-/

namespace EntitySchema

mutual

/-- A storage type with its arguments and modifiers. -/
structure StorageType where
  name : String
  cls : TypeClass
  args : List TypeArgument
  modifiers : List Modifier

/-- An argument of a storage type. -/
inductive TypeArgument where
  | literal (v : Json)
  | type (t : StorageType)

end

namespace StorageType

/-- A type as the catalog has it. -/
def bare (name : String) (cls : TypeClass) : StorageType := ⟨name, cls, [], []⟩

def isJson (t : StorageType) : Bool := t.cls == .json

/-! ## Text -/

def modifierChars (ms : List Modifier) : List Char := ms.flatMap fun m => '.' :: m.name.toList

mutual

def chars : StorageType → List Char
  | ⟨name, _, [], modifiers⟩ => name.toList ++ modifierChars modifiers
  | ⟨name, _, a :: as, modifiers⟩ =>
    name.toList ++ '(' :: argumentChars a ++ moreArgumentChars as ++ ')' :: modifierChars modifiers

/-- A string in single quotes, any other literal as compact Json, a type as its text. -/
def argumentChars : TypeArgument → List Char
  | .literal v => match v with
    | .str s => Text.quotedArgumentChars s.toList
    | v => v.chars
  | .type t => chars t

def moreArgumentChars : List TypeArgument → List Char
  | [] => []
  | a :: as => ',' :: ' ' :: argumentChars a ++ moreArgumentChars as

end

def text (t : StorageType) : String := String.ofList t.chars

/-! ## Building -/

/-- Calls a type with arguments. -/
def call (t : StorageType) (args : List TypeArgument) : SchemaResult StorageType :=
  if !t.cls.callable then
    fail (.invalidDataType (t.text ++ " is not a type constructor"))
  else if !t.args.isEmpty || !t.modifiers.isEmpty then
    fail (.invalidDataType (t.text ++ " has already been constructed"))
  else .ok { t with args := args }

/-- Chains a modifier to a type. -/
def modify (t : StorageType) (m : Modifier) : SchemaResult StorageType :=
  if t.cls.supports m then .ok { t with modifiers := t.modifiers ++ [m] }
  else fail (.unknownDataType (t.text ++ "." ++ m.name))

end StorageType

end EntitySchema
