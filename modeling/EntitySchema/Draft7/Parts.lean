import EntitySchema.Draft7.Reference

/-!
# The parts of a schema

Most keywords of a schema can be read without the others, but not all: `additionalProperties` looks
at `properties`, `if` at `then`. So a schema object is read as a list of parts, one for each member,
and a keyword is given all of them.

What stands under a keyword may be a schema, a list of schemas or schemas by name. A part offers all
three readings; each is a function of the place where the schema stands.

`view` turns a function of the parts of one schema object into one of whole schemas. A `Guide` goes
with it that knows what references mean; on its way it keeps account of what they are relative to.
-/

namespace EntitySchema.Draft7

/-- A member of a schema object, and what it means as a schema, as a list and as a map of
schemas. -/
structure Part (γ : Type) where
  value : Json
  self : Pointer → γ
  items : List (Pointer → γ)
  members : List (String × (Pointer → γ))

/-- The parts of a schema object by keyword. -/
abbrev Parts (γ : Type) := List (String × Part γ)

/-- What references mean at a place, by what they are relative to. -/
structure Guide (γ : Type) where
  base : Reference.Base
  follow : Reference.Base → String → Pointer → γ

variable {γ : Type}

/-- What a reference means at a place. -/
def Guide.lead (g : Guide γ) : String → Pointer → γ := g.follow g.base

/-- The guide for a schema that stands in another one. -/
def Guide.enter (g : Guide γ) (schema : Json) : Guide γ :=
  { g with base := Reference.enter g.base schema }

mutual

/-- The meaning of a schema, given the meaning of one whose parts are understood. A value that is no
object has no parts. -/
def view (node : Guide γ → Json → Parts γ → Pointer → γ) : Guide γ → Json → Pointer → γ
  | g, .obj ms, at_ => node g (.obj ms) (viewParts node g ms) at_
  | g, .arr xs, at_ => node g (.arr xs) [] at_
  | g, .null, at_ => node g .null [] at_
  | g, .bool b, at_ => node g (.bool b) [] at_
  | g, .num n, at_ => node g (.num n) [] at_
  | g, .str s, at_ => node g (.str s) [] at_

def viewItems (node : Guide γ → Json → Parts γ → Pointer → γ) (g : Guide γ) :
    List Json → List (Pointer → γ)
  | [] => []
  | v :: vs => (fun p => view node (g.enter v) v p) :: viewItems node g vs

def viewMembers (node : Guide γ → Json → Parts γ → Pointer → γ) (g : Guide γ) :
    List (String × Json) → List (String × (Pointer → γ))
  | [] => []
  | (k, v) :: ms => (k, fun p => view node (g.enter v) v p) :: viewMembers node g ms

def viewParts (node : Guide γ → Json → Parts γ → Pointer → γ) (g : Guide γ) :
    List (String × Json) → Parts γ
  | [] => []
  | (k, v) :: ms =>
    (k, {
      value := v
      self := fun p => view node (g.enter v) v p
      items := match v with
        | .arr xs => viewItems node g xs
        | _ => []
      members := match v with
        | .obj ns => viewMembers node g ns
        | _ => [] }) :: viewParts node g ms

end

namespace Parts

def get? (ps : Parts γ) (k : String) : Option (Part γ) := Members.get? ps k

/-- The schemas by name under a keyword. -/
def named (ps : Parts γ) (k : String) : List (String × (Pointer → γ)) :=
  match ps.get? k with
  | some part => part.members
  | none => []

/-- Whether `additionalProperties` looks after all properties, whether they are listed, matched by a
pattern or neither. -/
def closesProperties (ps : Parts γ) : Bool :=
  match ps.get? "additionalProperties" with
  | some part => match part.value with
    | .bool false => true
    | .obj _ => true
    | _ => false
  | none => false

end Parts

/-- Whether a value can be a schema at all. -/
def isSchema : Json → Bool
  | .bool _ => true
  | .obj _ => true
  | _ => false

end EntitySchema.Draft7
