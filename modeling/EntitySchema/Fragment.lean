import EntitySchema.TypeExpr.Wire

/-!
# Fragments

What can be asked of a fragment and done to it. A modifier is set on the storage type of a fragment:
a plain name becomes an expression first. `isNullTolerant` is a test on the text of a schema: it
looks for `null` among the branches of `anyOf` and in `type`.
-/

namespace EntitySchema

namespace Fragment

/-- A fragment without a storage type. -/
def ofKeywords (keywords : Members) : Fragment := ⟨none, keywords⟩

def withType (f : Fragment) (r : TypeRef) : Fragment := { f with dataType := some r }

def get? (f : Fragment) (key : String) : Option Json := Members.get? f.keywords key

/-- The declared type, if it is a single name. -/
def declaredType (f : Fragment) : Option String := (f.get? "type").bind Json.str?

/-- The schema without the storage type. -/
def schema (f : Fragment) : Json := .obj f.keywords

/-- Sets or clears a modifier of the storage type. -/
def setModifier (f : Fragment) (m : Modifier) (state : Bool) : SchemaResult Fragment :=
  match f.dataType with
  | none => fail (.missingDataType m.name)
  | some r => return { f with dataType := some (.expr (r.promote.setFlag m state)) }

end Fragment

/-- Whether a schema names `null` as a branch of `anyOf` or as its own type. -/
def isNullTolerant (schema : Members) : Bool :=
  let branch := match Members.get? schema "anyOf" with
    | some (.arr branches) => branches.any fun b => b.getStr? "type" == some "null"
    | _ => false
  let type := match Members.get? schema "type" with
    | some (.str t) => t == "null"
    | some (.arr ts) => ts.any fun t => t.str? == some "null"
    | _ => false
  branch || type

end EntitySchema
