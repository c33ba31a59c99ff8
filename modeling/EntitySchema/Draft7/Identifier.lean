import EntitySchema.Draft7.Meta

/-!
# Identifiers

By its `$id` a schema is a resource with a name of its own. The name is relative to that of the
resource that the schema stands in, and what stands in the schema is relative to it in turn. An
`$id` that begins with `#` names the schema as a place in the resource that it stands in. A document
without an `$id` still has a name, which nobody is told.

All names in a document are registered level by level, from the outside in and from left to right.
A name that is given twice means what it was given to last. The schema of schemas has its name in
every document.

Names are looked up in the document alone. Left out are all other documents, so that nothing is
fetched and the schemas of schemas of other drafts are not known, and any change of draft: a
`$schema` in a schema is taken for an annotation. What `Broken` says of a name that is not found
(`noResource`, `notLocal`) is worded here.
-/

namespace EntitySchema.Draft7

namespace Reference

/-- Why a reference leads nowhere, or an identifier names nothing. -/
inductive Broken where
  | badUri (fault : Uri.Fault)
  /-- Something relative to a name that has no directories, or an identifier with a fragment. -/
  | noResource (reference : String)
  /-- The escapes of a pointer stand for bytes that are no text. -/
  | badEscapes (pointer : String)
  | noSuchPlace (pointer : String)
  | notAnIndex (segment pointer : String)
  | badAnchor (name : String)
  | noSuchAnchor (name : String)
  | notLocal (reference : String)
deriving DecidableEq, Repr

def Broken.message : Broken → String
  | .badUri fault => "Invalid URI: " ++ fault.message
  | .noResource r => "Invalid URI: '" ++ r ++ "' names no resource here"
  | .badEscapes p =>
    "Invalid percent encoding in pointer '" ++ p
      ++ "': the decoded bytes do not represent valid UTF-8"
  | .noSuchPlace p => "Pointer '" ++ p ++ "' does not exist"
  | .notAnIndex s p => "Failed to parse array index '" ++ s ++ "' in pointer '" ++ p ++ "'"
  | .badAnchor a => "Anchor '" ++ a ++ "' is invalid"
  | .noSuchAnchor a => "Anchor '" ++ a ++ "' does not exist"
  | .notLocal r => "Resource '" ++ r ++ "' is not present in a registry"

/-! ## What a schema says of itself -/

/-- The name of the resource that a schema stands in, or the reason why it has none. -/
abbrev Base := Except Broken Uri.Resource

/-- The name that a schema gives itself. Beside a `$ref` it does not count. -/
def id? (schema : Json) : Option (List Char) :=
  if (schema.get? "$ref").isSome then none
  else match (schema.getStr? "$id").map String.toList with
    | some ('#' :: _) => none
    | some id => some (id.reverse.dropWhile (· = '#')).reverse
    | none => none

/-- The name that a schema gives itself as a place. -/
def anchor? (schema : Json) : Option (List Char) :=
  match (schema.getStr? "$id").map String.toList with
  | some ('#' :: c :: name) => some (c :: name)
  | _ => none

/-- The resource with a name that is given in another resource. -/
def named (base : Uri.Resource) (id : List Char) : Base :=
  match Uri.read id with
  | .error fault => .error (.badUri fault)
  | .ok parts => match parts.fragment, Uri.resolve base parts.resource with
    | none, some r => .ok r
    | _, _ => .error (.noResource (String.ofList id))

/-- What the references in a schema are relative to; `base` is the resource that it stands in. -/
def enter (base : Base) (schema : Json) : Base :=
  match id? schema with
  | some id => base.bind (named · id)
  | none => base

/-! ## Places in a document -/

/-- A schema, and what the references in it are relative to. -/
structure Spot where
  base : Base
  schema : Json
deriving Repr

/-- The schemas right below a schema. -/
def subschemas (schema : Json) : List Json :=
  (schema.obj?.getD []).flatMap fun m =>
    let named := (m.2.obj?.getD []).map Prod.snd
    if ["additionalItems", "additionalProperties", "contains", "else", "if", "not", "propertyNames",
      "then"].contains m.1 then [m.2]
    else if ["allOf", "anyOf", "oneOf"].contains m.1 then m.2.arr?.getD []
    else if ["definitions", "patternProperties", "properties", "dependencies"].contains m.1 then
      named
    else if m.1 = "items" then m.2.arr?.getD [m.2]
    else []

/-- A schema that stands in another one. -/
def Spot.at (base : Base) (schema : Json) : Spot := ⟨enter base schema, schema⟩

/-- The schemas right below a spot. -/
def Spot.inside (x : Spot) : List Spot := (subschemas x.schema).map (Spot.at x.base)

/-- Some spots and what is below them, level by level; `n` levels are looked at. -/
def survey : Nat → List Spot → List Spot
  | 0, _ => []
  | _, [] => []
  | n + 1, xs => xs ++ survey n (xs.flatMap Spot.inside)

/-- The name of a document that has none. -/
def unnamed : Uri.Resource := ⟨"json-schema".toList, some [], ['/'], none⟩

/-- A whole document. -/
def top (root : Json) : Spot := .at (.ok unnamed) root

/-- All schemas in a document. -/
def spots (root : Json) : List Spot := survey root.depth [top root]

/-! ## Names in a document -/

/-- The name of a spot, if its schema gives itself one. -/
def claim? (x : Spot) : Option Uri.Locator :=
  match x.base with
  | .error _ => none
  | .ok r =>
    if (id? x.schema).isSome then some ⟨r, none⟩
    else (anchor? x.schema).map fun name => ⟨r, some name⟩

/-- Spots by name. -/
abbrev Index := List (Uri.Locator × Spot)

namespace Index

/-- The last spot that has been given a name. -/
def find? (g : Index) (l : Uri.Locator) : Option Spot :=
  ((g.filter fun e => e.1 = l).getLast?).map Prod.snd

/-- The names in a document. -/
def own (root : Json) : Index :=
  let whole := match (top root).base with
    | .ok r => [(⟨r, none⟩, top root)]
    | .error _ => []
  whole ++ (spots root).filterMap fun x => (claim? x).map fun l => (l, x)

end Index

end Reference

open Reference (Spot Index)

/-- The schema of schemas. -/
def Meta.top : Spot := ⟨.ok resource, schema⟩

/-- What the schema of schemas refers to. -/
def Meta.index : Index := [(⟨resource, none⟩, top)]

/-- The names that references in a document may lead to. -/
def Reference.Index.of (root : Json) : Index := Meta.index ++ own root

end EntitySchema.Draft7
