import EntitySchema.Draft7.Reading
import EntitySchema.Proofs.Json.Nesting

/-!
# Schemas inside schemas

`view` hands the parts of a schema object to its meaning. Here the parts are written as a map over
the members (`Parts.of`), so that what a keyword is given can be looked up by name.

`schemasUnder` lists the schemas that stand under a keyword. A schema is deeper than the schemas in
it, which gives an induction over schemas (`schemaInduction`), and `Mentions` says which references
a schema holds at any depth.
-/

namespace EntitySchema

namespace Draft7

/-! ## Parts -/

variable {γ : Type} {node : Guide γ → Json → Parts γ → Pointer → γ} {g : Guide γ}

/-- What a schema means that stands in another one; `g` is the guide in the other one. -/
def inner (node : Guide γ → Json → Parts γ → Pointer → γ) (g : Guide γ) (schema : Json) :
    Pointer → γ :=
  view node (g.enter schema) schema

/-- What a keyword with the value `v` is given. -/
def Part.of (node : Guide γ → Json → Parts γ → Pointer → γ) (g : Guide γ) (v : Json) : Part γ where
  value := v
  self := inner node g v
  items := (v.arr?.getD []).map (inner node g)
  members := (v.obj?.getD []).map fun m => (m.1, inner node g m.2)

@[simp] theorem Part.value_of (v : Json) : (Part.of node g v).value = v := rfl

/-- The parts of an object with the members `ms`. -/
def Parts.of (node : Guide γ → Json → Parts γ → Pointer → γ) (g : Guide γ) (ms : Members) :
    Parts γ :=
  ms.map fun m => (m.1, Part.of node g m.2)

theorem viewItems_eq (vs : List Json) : viewItems node g vs = vs.map (inner node g) := by
  induction vs with
  | nil => rfl
  | cons v vs ih =>
    rw [viewItems, ih, List.map_cons]
    rfl

theorem viewMembers_eq (ms : Members) :
    viewMembers node g ms = ms.map fun m => (m.1, inner node g m.2) := by
  induction ms with
  | nil => rfl
  | cons m ms ih =>
    rw [viewMembers, ih, List.map_cons]
    rfl

theorem viewParts_eq (ms : Members) : viewParts node g ms = Parts.of node g ms := by
  induction ms with
  | nil => rfl
  | cons m ms ih =>
    obtain ⟨k, v⟩ := m
    cases v <;>
      simp only [viewParts, ih, Parts.of, Part.of, List.map_cons, viewItems_eq, viewMembers_eq,
        Json.arr?, Json.obj?, Option.getD_some, Option.getD_none, List.map_nil] <;> rfl

theorem view_obj (ms : Members) (place : Pointer) :
    view node g (.obj ms) place = node g (.obj ms) (Parts.of node g ms) place := by
  rw [view, viewParts_eq]

theorem view_of_obj?_eq_none {v : Json} (h : v.obj? = none) (place : Pointer) :
    view node g v place = node g v [] place := by
  cases v <;> simp_all [view, Json.obj?]

theorem Parts.get?_of (ms : Members) (k : String) :
    (Parts.of node g ms).get? k = (Members.get? ms k).map (Part.of node g) :=
  Members.get?_map _ ms k

theorem Parts.value_get?_of (ms : Members) (k : String) :
    ((Parts.of node g ms).get? k).map Part.value = Members.get? ms k := by
  rw [Parts.get?_of]
  cases Members.get? ms k <;> rfl

/-- The object under a key, empty if there is none. -/
def objectAt (ms : Members) (k : String) : Members := ((Members.get? ms k).bind Json.obj?).getD []

theorem Parts.named_of (ms : Members) (k : String) :
    (Parts.of node g ms).named k = (objectAt ms k).map fun m => (m.1, inner node g m.2) := by
  rw [Parts.named, Parts.get?_of, objectAt]
  cases Members.get? ms k <;> rfl

/-- Whether `additionalProperties` looks after all properties of an object. -/
def closes (ms : Members) : Bool :=
  match Members.get? ms "additionalProperties" with
  | some (.bool false) => true
  | some (.obj _) => true
  | _ => false

theorem Parts.closesProperties_of (ms : Members) :
    (Parts.of node g ms).closesProperties = closes ms := by
  rw [Parts.closesProperties, Parts.get?_of, closes]
  cases Members.get? ms "additionalProperties" with
  | none => rfl
  | some v => rcases v with _ | (_ | _) | _ | _ | _ | _ <;> rfl

/-! ## Subschemas -/

/-- The schemas that stand under the keyword `k`. -/
def schemasUnder (k : String) (v : Json) : List Json :=
  if ["additionalItems", "additionalProperties", "contains", "else", "if", "not", "propertyNames",
    "then"].contains k then [v]
  else if ["allOf", "anyOf", "oneOf"].contains k then v.arr?.getD []
  else if ["definitions", "patternProperties", "properties", "dependencies"].contains k then
    (v.obj?.getD []).map Prod.snd
  else if k = "items" then v.arr?.getD [v]
  else []

theorem mem_schemasUnder_items_self {v : Json} (h : isSchema v = true) :
    v ∈ schemasUnder "items" v := by
  cases v with
  | bool b => exact List.mem_singleton_self _
  | obj ns => exact List.mem_singleton_self _
  | _ => cases h

theorem mem_schemasUnder_items {v s : Json} (h : s ∈ v.arr?.getD []) :
    s ∈ schemasUnder "items" v := by
  cases v with
  | arr xs => exact h
  | _ => cases h

theorem mem_subschemas {ms : Members} {s : Json} :
    s ∈ Reference.subschemas (.obj ms) ↔ ∃ m ∈ ms, s ∈ schemasUnder m.1 m.2 :=
  List.mem_flatMap

theorem mem_subschemas_of_mem {ms : Members} {k : String} {v s : Json} (hm : (k, v) ∈ ms)
    (hs : s ∈ schemasUnder k v) : s ∈ Reference.subschemas (.obj ms) :=
  mem_subschemas.2 ⟨(k, v), hm, hs⟩

theorem mem_subschemas_of_objectAt {ms : Members} {k : String} {m : String × Json}
    (hk : k = "properties" ∨ k = "patternProperties") (hm : m ∈ objectAt ms k) :
    m.2 ∈ Reference.subschemas (.obj ms) := by
  unfold objectAt at hm
  cases hw : Members.get? ms k with
  | none => rw [hw] at hm; cases hm
  | some w =>
    rw [hw] at hm
    refine mem_subschemas_of_mem (Members.mem_of_get? hw) ?_
    rcases hk with rfl | rfl <;> exact List.mem_map_of_mem hm

/-- A schema under a keyword is its value, or right below its value. -/
theorem mem_schemasUnder {k : String} {v s : Json} (h : s ∈ schemasUnder k v) :
    s = v ∨ s ∈ v.children := by
  have item {d : List Json} (hd : ∀ x ∈ d, x = v) (h : s ∈ v.arr?.getD d) :
      s = v ∨ s ∈ v.children := by
    cases v with
    | arr xs => exact .inr h
    | _ => exact .inl (hd s h)
  have itself : ∀ x ∈ [v], x = v := fun _ => List.mem_singleton.1
  unfold schemasUnder at h
  split at h
  · exact .inl (List.mem_singleton.1 h)
  split at h
  · exact item (by simp) h
  split at h
  · cases v with
    | obj ns => exact .inr h
    | _ => cases h
  split at h
  · exact item itself h
  · cases h

theorem depth_lt_of_mem_subschemas {schema s : Json} (h : s ∈ Reference.subschemas schema) :
    s.depth < schema.depth := by
  cases schema with
  | obj ms =>
    obtain ⟨m, hm, hs⟩ := mem_subschemas.1 h
    have member := Json.depth_lt_of_mem_obj hm
    rcases mem_schemasUnder hs with rfl | hs
    · exact member
    · exact Nat.lt_trans (Json.depth_lt_of_mem_children hs) member
  | _ => cases h

/-- What holds of a schema as soon as it holds of the schemas in it holds of every schema. -/
theorem schemaInduction {motive : Json → Prop}
    (h : ∀ schema, (∀ s ∈ Reference.subschemas schema, motive s) → motive schema) (schema : Json) :
    motive schema :=
  h schema fun s _ => schemaInduction h s
termination_by schema.depth
decreasing_by exact depth_lt_of_mem_subschemas ‹_›

/-! ## References -/

/-- A schema, or a schema in it, is the reference `r`. -/
inductive Mentions : Json → String → Prop
  | held {schema : Json} {r : String} : Reference.held? schema = some r → Mentions schema r
  | inside {schema s : Json} {r : String} : s ∈ Reference.subschemas schema → Mentions s r →
      Mentions schema r

theorem held?_eq_none {schema : Json} (h : schema.get? "$ref" = none) :
    Reference.held? schema = none := by
  rw [Reference.held?, Json.getStr?, h]
  rfl

/-- No schema in this one is a reference. -/
def NoReferences (schema : Json) : Prop := ∀ r, ¬ Mentions schema r

theorem NoReferences.held? {schema : Json} (h : NoReferences schema) :
    Reference.held? schema = none :=
  Option.eq_none_iff_forall_ne_some.2 fun r hr => h r (.held hr)

theorem NoReferences.inside {schema s : Json} (h : NoReferences schema)
    (hs : s ∈ Reference.subschemas schema) : NoReferences s :=
  fun r hr => h r (.inside hs hr)

theorem noReferences_iff {schema : Json} : NoReferences schema ↔
    Reference.held? schema = none ∧ ∀ s ∈ Reference.subschemas schema, NoReferences s := by
  refine ⟨fun h => ⟨h.held?, fun s => h.inside⟩, fun ⟨hh, hs⟩ r hr => ?_⟩
  cases hr with
  | held h => rw [hh] at h; cases h
  | inside h hr => exact hs _ h r hr

/-- The references that some schemas and the schemas below them hold, level by level; `n` levels are
looked at. -/
def allHeld : Nat → List Json → List String
  | 0, _ => []
  | _, [] => []
  | n + 1, schemas =>
    schemas.filterMap Reference.held? ++ allHeld n (schemas.flatMap Reference.subschemas)

theorem mem_allHeld {schema : Json} {r : String} (h : Mentions schema r) {n : Nat}
    {schemas : List Json} (hs : schema ∈ schemas) (hn : schema.depth ≤ n) :
    r ∈ allHeld n schemas := by
  -- A reference is found at the level where it stands, and a level lies below the depth.
  induction h generalizing n schemas with
  | @held schema r hr =>
    have := Json.depth_pos schema
    obtain ⟨n, rfl⟩ : ∃ m, n = m + 1 := ⟨n - 1, by omega⟩
    cases schemas with
    | nil => cases hs
    | cons t ts => exact List.mem_append_left _ (List.mem_filterMap.2 ⟨schema, hs, hr⟩)
  | @inside schema s r hin _ ih =>
    have := depth_lt_of_mem_subschemas hin
    obtain ⟨n, rfl⟩ : ∃ m, n = m + 1 := ⟨n - 1, by omega⟩
    cases schemas with
    | nil => cases hs
    | cons t ts =>
      exact List.mem_append_right _ (ih (List.mem_flatMap.2 ⟨schema, hs, hin⟩) (by omega))

/-- Whether a schema is free of references can be computed. -/
theorem noReferences_of_allHeld {schema : Json} (h : allHeld schema.depth [schema] = []) :
    NoReferences schema := fun r hr => by
  have := mem_allHeld hr (List.mem_singleton_self _) (Nat.le_refl _)
  rw [h] at this
  cases this

/-! ## Closed objects -/

/-- An object schema that is no reference, lists some properties and refuses all others. -/
structure ClosedObject (ms schemas : Members) : Prop where
  held : Reference.held? (.obj ms) = none
  nodup : (Members.keys ms).Nodup
  closed : Members.get? ms "additionalProperties" = some (.bool false)
  listed : Members.get? ms "properties" = some (.obj schemas)

theorem ClosedObject.objectAt {ms schemas : Members} (h : ClosedObject ms schemas) :
    objectAt ms "properties" = schemas := by
  rw [Draft7.objectAt, h.listed]
  rfl

end Draft7

end EntitySchema
