import EntitySchema.Draft7.Identifier
import EntitySchema.Json.Pointer
import EntitySchema.Json.Printer

/-!
# References

A reference names a resource, relative to the one that it stands in, and may name a place in it: by
`/a/b` what the pointer leads to, and by another fragment the schema with that name.

On the way of a pointer other resources may begin. That is seen where the keywords on the way say
that a schema follows, and nowhere else. A reference to another document leads nowhere.
-/

namespace EntitySchema.Draft7.Reference

/-! ## Pointers -/

/-- The index that a segment writes, if it fits into 64 bits. -/
def index? (segment : List Char) : Option Nat :=
  let ds := if segment.head? = some '+' then segment.drop 1 else segment
  if ds.isEmpty || !ds.all Char.isDigit then none
  else some (Text.decimalValue ds) |>.filter (· < Nat.pow 2 64)

/-- What a segment leads to, and by which step; `pointer` is the whole text, for the error. -/
def child (pointer : String) (v : Json) (segment : List Char) : Except Broken (Step × Json) :=
  match v with
  | .arr xs =>
    match index? segment with
    | none => .error (.notAnIndex (String.ofList segment) pointer)
    | some i => match xs[i]? with
      | some x => .ok (.index i, x)
      | none => .error (.noSuchPlace pointer)
  | .obj ms =>
    let k := String.ofList (Pointer.unescape segment)
    match Members.get? ms k with
    | some x => .ok (.key k, x)
    | none => .error (.noSuchPlace pointer)
  | _ => .error (.noSuchPlace pointer)

/-- Whether the keywords on a way say that it ends at a schema. -/
def leadsToSchema : List Step → Bool
  | [] => true
  | .index _ :: way => leadsToSchema way
  | .key k :: way =>
    if k = "items" ∨ k = "dependencies" then true
    else if ["additionalItems", "additionalProperties", "contains", "else", "if", "not",
      "propertyNames", "then"].contains k then leadsToSchema way
    else if ["allOf", "anyOf", "oneOf", "definitions", "patternProperties", "properties"].contains k
    then match way with
      | [] => false
      | _ :: way => leadsToSchema way
    else false

/-- The spot at a value that a way from the beginning of the resource of `x` leads to. -/
def Spot.next (x : Spot) (way : List Step) (v : Json) : Spot :=
  ⟨if leadsToSchema way then enter x.base v else x.base, v⟩

/-- Follows the segments of a pointer; `way` leads to the spot from the beginning of its
resource. -/
def descend (pointer : String) (way : List Step) (x : Spot) : List (List Char) → Except Broken Spot
  | [] => .ok x
  | segment :: rest => do
    let (step, v) ← child pointer x.schema segment
    let way := way ++ [step]
    let y := x.next way v
    let _ ← y.base
    descend pointer (if y.base.toOption = x.base.toOption then way else []) y rest

/-! ## Where a reference leads -/

/-- What a reference names in a resource. -/
def locate (base : Uri.Resource) (reference : String) : Except Broken Uri.Locator :=
  match Uri.read reference.toList with
  | .error fault => .error (.badUri fault)
  | .ok parts => match Uri.resolve base parts.resource with
    | some r => .ok ⟨r, parts.fragment⟩
    | none => .error (.noResource reference)

/-- The place that a locator names in the resource `x`. -/
def placeIn (g : Index) (x : Spot) (l : Uri.Locator) : Except Broken Spot :=
  match l.fragment with
  | none => .ok x
  | some [] => .ok x
  | some ('/' :: rest) =>
    let pointer := String.ofList ('/' :: rest)
    match Uri.decode rest with
    | some decoded => descend pointer [] x (Text.splitOn '/' decoded)
    | none => .error (.badEscapes pointer)
  | some name => match g.find? l with
    | some y => .ok y
    | none =>
      if name.contains '/' then .error (.badAnchor (String.ofList name))
      else .error (.noSuchAnchor (String.ofList name))

/-- What a reference leads to, with the normal form of its name. References with one normal form
lead to one place. -/
def resolve (g : Index) (base : Base) (reference : String) :
    Except Broken (Uri.Locator × Spot) := do
  let l ← locate (← base) reference
  match g.find? ⟨l.resource, none⟩ with
  | some x => return (l.normal, ← placeIn g x l)
  | none => throw (.notLocal reference)

/-- The reference that a schema object holds. -/
def held? (schema : Json) : Option String := schema.getStr? "$ref"

/-! ## Flaws -/

/-- What is wrong with a schema before one looks where its reference leads: it has no name, or its
reference names no resource that is known. -/
def flaw? (g : Index) (x : Spot) : Option Broken :=
  match x.base, held? x.schema with
  | .error b, _ => some b
  | .ok _, none => none
  | .ok base, some r => match locate base r with
    | .error b => some b
    | .ok l => if (g.find? ⟨l.resource, none⟩).isSome then none else some (.notLocal r)

/-- The flaw of a document whose references cannot even be looked up. Resources that are not there
are missed last. -/
def flawIn? (root : Json) : Option Broken :=
  let flaws := (spots root).filterMap (flaw? (.of root))
  (flaws.find? fun b => !(b matches .notLocal _)).or flaws.head?

end EntitySchema.Draft7.Reference
