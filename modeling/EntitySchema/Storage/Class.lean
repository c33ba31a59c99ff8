/-!
# Classes of storage types

Every storage type belongs to a class. The class says which modifiers the type takes and whether
it can be called with arguments.
-/

namespace EntitySchema

/-- A refinement that is chained to a storage type. -/
inductive Modifier where
  | unsigned
  | zerofill
  | binary
deriving DecidableEq, Repr

namespace Modifier

/-- The order in which the flags of a type expression are applied. -/
def all : List Modifier := [.unsigned, .zerofill, .binary]

def name : Modifier → String
  | .unsigned => "UNSIGNED"
  | .zerofill => "ZEROFILL"
  | .binary => "BINARY"

def ofName? (s : String) : Option Modifier := all.find? (·.name == s)

theorem ofName?_name (m : Modifier) : ofName? m.name = some m := by cases m <;> decide

theorem name_of_ofName? {s : String} {m : Modifier} (h : ofName? s = some m) : m.name = s := by
  simpa using List.find?_some h

end Modifier

/-- What a storage type holds. -/
inductive TypeClass where
  | string
  | integer
  | number
  | boolean
  | temporal
  | json
  | enum
  | array
  | range
  | geometry
  | binary
  /-- A value rather than a type, such as the current time. -/
  | constant
  | other
deriving DecidableEq, Repr

namespace TypeClass

def all : List TypeClass :=
  [.string, .integer, .number, .boolean, .temporal, .json, .enum, .array, .range, .geometry,
    .binary, .constant, .other]

def name : TypeClass → String
  | .string => "string"
  | .integer => "integer"
  | .number => "number"
  | .boolean => "boolean"
  | .temporal => "temporal"
  | .json => "json"
  | .enum => "enum"
  | .array => "array"
  | .range => "range"
  | .geometry => "geometry"
  | .binary => "binary"
  | .constant => "constant"
  | .other => "other"

def ofName? (s : String) : Option TypeClass := all.find? (·.name == s)

def supports (c : TypeClass) : Modifier → Bool
  | .unsigned | .zerofill => c == .integer || c == .number
  | .binary => c == .string

/-- Whether types of the class can be called with arguments. -/
def callable (c : TypeClass) : Bool := c != .constant

end TypeClass

end EntitySchema
