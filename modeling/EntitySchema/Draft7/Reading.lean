import EntitySchema.Draft7.Refusal

/-!
# Reading a schema

A schema is read in the order of its keywords before values are checked. The first time that a
reference is met, what it leads to is read at the place of the reference, and its failures are
reported there. Later, and for a reference to the whole document, failures are reported at places
counted from the schema that the reference leads to. `planOf` lists the former references with their
places, or says why the schema is refused.

Two references are the same when they have the same normal form.
-/

namespace EntitySchema.Draft7

/-- The places of references whose schemas were read there, with the references. -/
abbrev Plan := List (Pointer × Uri.Locator)

/-- What has been met while a schema is read. -/
structure Reading where
  seen : List Uri.Locator := []
  plan : Plan := []

/-- A step of reading. -/
abbrev Scan := StateT Reading (Except Refusal) Unit

namespace Scan

/-- A step that finds out about references but leaves no schema behind. -/
def discard (s : Scan) : Scan := fun r => do
  let (_, after) ← s.run r
  return ((), { after with plan := r.plan })

/-- A step whose refusals are not told. -/
def silence (s : Scan) : Scan := fun r => (s.run r).mapError fun _ => .untold

end Scan

/-! ## Properties -/

/-- Reads the schemas by name under a keyword. -/
def scanNamed (ps : Parts Scan) (k : String) (place : Pointer) : Scan :=
  (ps.named k).forM fun m => m.2 (place ++ [Step.key k, .key m.1])

/-- Reads the schemas under `patternProperties`. Each of the names must be a pattern. -/
def scanPatterns (part : Part Scan) (place : Pointer) : Scan := do
  Refusal.ofTypes ["object"] part.value
  ((part.value.obj?.getD []).zip part.members).forM fun (m, s) => do
    if (Pattern.parse? m.1).isNone then throw (.complaint (.wrongFormat m.2 "regex"))
    s.2 (place ++ [Step.key "patternProperties", .key m.1])

/-- Reads what `additionalProperties` looks after: the patterns before all else, even if it looks
after none; then they are read for nothing. -/
def scanOthers (ps : Parts Scan) (part : Part Scan) (place : Pointer) : Scan := do
  let self := part.self (place ++ [Step.key "additionalProperties"])
  let listed : Scan := do
    if let some listed := ps.get? "properties" then
      if listed.value.obj?.isNone then throw .untold
    scanNamed ps "properties" place
  match part.value, ps.get? "patternProperties" with
  | .bool false, none => listed
  | .bool false, some patterns => do
    (scanPatterns patterns place).silence
    listed
  | .obj _, none => do
    listed
    self
  | .obj _, some patterns => do
    (scanPatterns patterns place).silence
    self
    listed
  | _, none => pure ()
  | _, some patterns => (scanPatterns patterns place).silence.discard

/-! ## Keywords -/

/-- Reads the schemas under the keyword `k`, or looks at the value of one that holds none. -/
def scanKeyword (ps : Parts Scan) (k : String) (part : Part Scan) (place : Pointer) : Scan := do
  let v := part.value
  let self := part.self (place ++ [Step.key k])
  let items : Scan := part.items.zipIdx.forM fun m => m.1 (place ++ [Step.key k, .index m.2])
  if k = "properties" then
    if !ps.closesProperties then
      Refusal.ofTypes ["object"] v
      scanNamed ps k place
  else if k = "patternProperties" then
    if !ps.closesProperties then scanPatterns part place
  else if k = "additionalProperties" then scanOthers ps part place
  else if k = "items" then
    if isSchema v then self else items
  else if k = "additionalItems" then
    match (ps.get? "items").map Part.value, v with
    | some (.arr _), .obj _ => self
    | _, _ => pure ()
  else if k = "contains" ∨ k = "not" then self
  else if k = "propertyNames" then
    if v.obj?.isSome then self
  else if k = "allOf" ∨ k = "anyOf" ∨ k = "oneOf" then
    Refusal.ofTypes ["array"] v
    items
  else if k = "dependencies" then
    Refusal.ofTypes ["object"] v
    ((v.obj?.getD []).zip part.members).forM fun (m, s) =>
      match m.2 with
      | .arr names => liftM (Refusal.ofStrings names)
      | _ => s.2 (place ++ [Step.key k, .key m.1])
  else if k = "if" then
    let branch (key : String) : Scan :=
      match ps.get? key with
      | some p => p.self (place ++ [Step.key key])
      | none => pure ()
    if (ps.get? "then").isSome || (ps.get? "else").isSome then
      self
      branch "then"
      branch "else"
  else Refusal.checkValue k v

/-! ## Schemas -/

/-- Reads a schema whose parts are understood. -/
def readNode (g : Guide Scan) (schema : Json) (ps : Parts Scan) (place : Pointer) : Scan := do
  Refusal.ofBase g.base
  Refusal.ofTypes ["boolean", "object"] schema
  match Reference.held? schema with
  | some reference => g.lead reference place
  | none =>
    if let some v := schema.get? "$ref" then Refusal.ofTypes ["string"] v
    ps.forM fun p => scanKeyword ps p.1 p.2 place

/-- Reads what a reference leads to, the first time that it is met. -/
def meet (g : Reference.Index) (read : Reference.Spot → Pointer → Scan)
    (base : Reference.Base) (reference : String) (place : Pointer) : Scan := do
  let (key, target) ← (Reference.resolve g base reference).mapError Refusal.broken
  let r ← get
  if reference ≠ "#" ∧ key ∉ r.seen then
    set ({ seen := key :: r.seen, plan := (place, key) :: r.plan } : Reading)
    read target place

/-- Reads a schema; at most `n` references are read within each other. -/
def scan (g : Reference.Index) : Nat → Reference.Spot → Pointer → Scan
  | 0, x, place => view readNode ⟨x.base, meet g fun _ _ => pure ()⟩ x.schema place
  | n + 1, x, place => view readNode ⟨x.base, meet g (scan g n)⟩ x.schema place

/-- A bound on how many schemas there are in a value, where each value on the way to a schema may or
may not be a resource of its own. -/
def room (v : Json) : Nat := Nat.pow 2 v.depth * v.size

/-- A bound on what references in a document may lead to. -/
@[irreducible] def reach (root : Json) : Nat := room Meta.schema + room root

/-- Reads a schema of a document from its beginning. -/
def planOf (root : Json) (x : Reference.Spot) : Except Refusal Plan := do
  let (_, r) ← (scan (.of root) (reach root) x []).run {}
  return r.plan

end EntitySchema.Draft7
