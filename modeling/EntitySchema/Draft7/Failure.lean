import EntitySchema.Json.Order
import EntitySchema.Json.Pointer
import EntitySchema.Json.Printer
import EntitySchema.Text.Utf8

/-!
# Failures of a check

A failure says where in the value and where in the schema something is wrong, and what.
-/

namespace EntitySchema.Draft7

/-- What a keyword has against a value. -/
inductive Complaint where
  | wrongType (v : Json) (types : List String)
  | notOneOf (v : Json) (values : List Json)
  | notConst (c : Json)
  | belowMinimum (v limit : Json)
  | aboveMaximum (v limit : Json)
  | notAboveMinimum (v limit : Json)
  | notBelowMaximum (v limit : Json)
  | notMultiple (v : Json) (divisor : Number)
  | tooShort (v : Json) (least : Nat)
  | tooLong (v : Json) (most : Nat)
  | noMatch (v : Json) (pattern : String)
  | wrongFormat (v : Json) (format : String)
  | tooFewItems (v : Json) (least : Nat)
  | tooManyItems (v : Json) (most : Nat)
  | notUnique (v : Json)
  | containsNone (v : Json)
  | additionalItems (items : List Json)
  | tooFewProperties (v : Json) (least : Nat)
  | tooManyProperties (v : Json) (most : Nat)
  | missing (name : String)
  | additionalProperties (names : List String)
  | noneValid (v : Json) (keyword : String)
  | severalValid (v : Json)
  | notAllowed (schema v : Json)
  | falseSchema (v : Json)
  | wrongMediaType (v : Json) (type : String)
  | wrongEncoding (v : Json) (encoding : String)
  /-- Decoded bytes that are no text. -/
  | notUtf8 (fault : Text.Utf8.Fault)
deriving DecidableEq, Repr

namespace Complaint

/-- A count with its noun. -/
def counted (n : Nat) (one many : String) : String :=
  toString n ++ " " ++ if n = 1 then one else many

/-- "was" for one and "were" for any other number. -/
def wasWere {α : Type} : List α → String
  | [_] => " was unexpected)"
  | _ => " were unexpected)"

/-- Divisors are written without an exponent, and without a point when they are whole. -/
def divisorLayout : Double.Layout where
  positional _ := true
  point := false

def message : Complaint → String
  | .wrongType v [t] => v.text ++ " is not of type " ++ Json.quoted t
  | .wrongType v ts => v.text ++ " is not of types " ++ ", ".intercalate (ts.map Json.quoted)
  | .notOneOf v values => v.text ++ " is not one of " ++ (Json.arr values).text
  | .notConst c => c.text ++ " was expected"
  | .belowMinimum v limit => v.text ++ " is less than the minimum of " ++ limit.text
  | .aboveMaximum v limit => v.text ++ " is greater than the maximum of " ++ limit.text
  | .notAboveMinimum v limit =>
    v.text ++ " is less than or equal to the minimum of " ++ limit.text
  | .notBelowMaximum v limit =>
    v.text ++ " is greater than or equal to the maximum of " ++ limit.text
  | .notMultiple v divisor =>
    v.text ++ " is not a multiple of " ++ divisor.toDouble.text divisorLayout
  | .tooShort v n => v.text ++ " is shorter than " ++ counted n "character" "characters"
  | .tooLong v n => v.text ++ " is longer than " ++ counted n "character" "characters"
  | .noMatch v p => v.text ++ " does not match \"" ++ p ++ "\""
  | .wrongFormat v f => v.text ++ " is not a \"" ++ f ++ "\""
  | .tooFewItems v n => v.text ++ " has less than " ++ counted n "item" "items"
  | .tooManyItems v n => v.text ++ " has more than " ++ counted n "item" "items"
  | .notUnique v => v.text ++ " has non-unique elements"
  | .containsNone v => "None of " ++ v.text ++ " are valid under the given schema"
  | .additionalItems items =>
    "Additional items are not allowed (" ++ ", ".intercalate (items.map Json.text) ++ wasWere items
  | .tooFewProperties v n => v.text ++ " has less than " ++ counted n "property" "properties"
  | .tooManyProperties v n => v.text ++ " has more than " ++ counted n "property" "properties"
  | .missing name => Json.quoted name ++ " is a required property"
  | .additionalProperties names =>
    "Additional properties are not allowed (" ++
      ", ".intercalate (names.map fun n => "'" ++ n ++ "'") ++ wasWere names
  | .noneValid v keyword =>
    v.text ++ " is not valid under any of the schemas listed in the '" ++ keyword ++ "' keyword"
  | .severalValid v =>
    v.text ++ " is valid under more than one of the schemas listed in the 'oneOf' keyword"
  | .notAllowed schema v => schema.text ++ " is not allowed for " ++ v.text
  | .falseSchema v => "False schema does not allow " ++ v.text
  | .wrongMediaType v t => v.text ++ " is not compliant with " ++ Json.quoted t ++ " media type"
  | .wrongEncoding v e =>
    v.text ++ " is not compliant with " ++ Json.quoted e ++ " content encoding"
  | .notUtf8 fault => fault.message

end Complaint

/-- A complaint, the place in the value it is about, and the place in the schema it comes from. -/
structure Failure where
  instancePath : Pointer
  schemaPath : Pointer
  complaint : Complaint
deriving DecidableEq, Repr

namespace Failure

def message (f : Failure) : String := f.complaint.message

/-- The failure as seen from a value that has this one under `s`. -/
def below (s : Step) (f : Failure) : Failure := { f with instancePath := s :: f.instancePath }

end Failure

/-- A check of values by the part of a schema that stands at a place. -/
abbrev Check := Pointer → Json → List Failure

end EntitySchema.Draft7
