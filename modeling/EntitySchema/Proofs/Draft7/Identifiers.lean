import EntitySchema.Proofs.Draft7.Subschema
import EntitySchema.Proofs.Outcome

/-!
# Names in a document

`Contains` says which spots are in a spot, at any depth; these are the ones that a survey of a
document comes to (`mem_spots_iff`). `Refers` says which references they hold, and what these are
relative to.

Where all identifiers in a schema name something beside one resource, they do so beside any resource
that has directories (`Addressed.beside`), and a document without a name has them. So a schema can
be cut out of the document that it stands in, whatever the document is called.
-/

namespace EntitySchema.Draft7

open Reference (Base Spot Index enter)

/-! ## Spots -/

/-- A spot is another one or stands in it. -/
inductive Contains : Spot → Spot → Prop
  | self (x : Spot) : Contains x x
  | inside {x y z : Spot} : y ∈ x.inside → Contains y z → Contains x z

variable {x y z : Spot} {root schema : Json} {base : Base} {r : String}

theorem mem_inside : y ∈ x.inside ↔ ∃ s ∈ Reference.subschemas x.schema, .at x.base s = y :=
  List.mem_map

theorem depth_lt_of_mem_inside (h : y ∈ x.inside) : y.schema.depth < x.schema.depth := by
  obtain ⟨s, hs, rfl⟩ := mem_inside.1 h
  exact depth_lt_of_mem_subschemas hs

theorem Contains.trans (h : Contains x y) (h' : Contains y z) : Contains x z := by
  induction h with
  | self => exact h'
  | inside hin _ ih => exact .inside hin (ih h')

/-- A spot that stands in another one is less deep. -/
theorem Contains.eq_or_depth_lt (h : Contains x y) :
    y = x ∨ y.schema.depth < x.schema.depth := by
  induction h with
  | self => exact .inl rfl
  | inside hin _ ih =>
    have := depth_lt_of_mem_inside hin
    rcases ih with rfl | ih
    · exact .inr this
    · exact .inr (Nat.lt_trans ih this)

theorem mem_survey {n : Nat} {xs : List Spot} (h : Contains x y) (hx : x ∈ xs)
    (hn : x.schema.depth ≤ n) : y ∈ Reference.survey n xs := by
  -- A spot is found at its level, and a level lies below the depth.
  induction h generalizing n xs with
  | self x =>
    have := Json.depth_pos x.schema
    obtain ⟨n, rfl⟩ : ∃ m, n = m + 1 := ⟨n - 1, by omega⟩
    cases xs with
    | nil => cases hx
    | cons t ts => exact List.mem_append_left _ hx
  | @inside x y z hin _ ih =>
    have := depth_lt_of_mem_inside hin
    obtain ⟨n, rfl⟩ : ∃ m, n = m + 1 := ⟨n - 1, by omega⟩
    cases xs with
    | nil => cases hx
    | cons t ts =>
      exact List.mem_append_right _ (ih (List.mem_flatMap.2 ⟨x, hx, hin⟩) (by omega))

theorem contains_of_mem_survey {n : Nat} {xs : List Spot} (h : y ∈ Reference.survey n xs) :
    ∃ x ∈ xs, Contains x y := by
  induction n generalizing xs with
  | zero => cases h
  | succ n ih =>
    cases xs with
    | nil => cases h
    | cons t ts =>
      rcases List.mem_append.1 h with h | h
      · exact ⟨y, h, .self y⟩
      · obtain ⟨z, hz, hy⟩ := ih h
        obtain ⟨x, hx, hin⟩ := List.mem_flatMap.1 hz
        exact ⟨x, hx, .inside hin hy⟩

/-- A survey of a document comes to all spots in it. -/
theorem mem_spots_iff : y ∈ Reference.spots root ↔ Contains (Reference.top root) y := by
  constructor
  · intro h
    obtain ⟨x, hx, hy⟩ := contains_of_mem_survey h
    exact List.mem_singleton.1 hx ▸ hy
  · exact fun h => mem_survey h (List.mem_singleton_self _) (Nat.le_refl _)

/-! ## References -/

/-- The schema at a spot, or one in it, is the reference `r`, relative to `base`. -/
def Refers (x : Spot) (base : Base) (r : String) : Prop :=
  ∃ y, Contains x y ∧ y.base = base ∧ Reference.held? y.schema = some r

theorem Refers.held (h : Reference.held? x.schema = some r) : Refers x x.base r :=
  ⟨x, .self x, rfl, h⟩

theorem Refers.inside (hin : y ∈ x.inside) (h : Refers y base r) : Refers x base r := by
  obtain ⟨z, hz, held⟩ := h
  exact ⟨z, .inside hin hz, held⟩

/-- The references in a spot are found by a survey of it. -/
theorem Refers.exists_mem_survey (h : Refers x base r) :
    ∃ y ∈ Reference.survey x.schema.depth [x], y.base = base ∧
      Reference.held? y.schema = some r := by
  obtain ⟨y, hy, h⟩ := h
  exact ⟨y, mem_survey hy (List.mem_singleton_self _) (Nat.le_refl _), h⟩

theorem Contains.mentions (h : Contains x y) (hr : Reference.held? y.schema = some r) :
    Mentions x.schema r := by
  induction h with
  | self => exact .held hr
  | inside hin _ ih =>
    obtain ⟨s, hs, rfl⟩ := mem_inside.1 hin
    exact .inside hs (ih hr)

/-! ## Two sides -/

/-- What is known of the bases that references in a schema have on two sides. It is known of the
schemas in it as well. -/
def Inherited (T : Json → Base → Base → Prop) : Prop :=
  ∀ s x y, T s x y → ∀ t ∈ Reference.subschemas s, T t (Reference.enter x t) (Reference.enter y t)

theorem inherited_noReferences : Inherited fun s _ _ => NoReferences s := fun _ _ _ h _ => h.inside

/-- The same base on both sides, and something known of all references in the schema. -/
theorem inherited_refers (M : Base → String → Prop) :
    Inherited fun s x y => x = y ∧ ∀ base r, Refers ⟨x, s⟩ base r → M base r := by
  rintro s x y ⟨rfl, h⟩ t ht
  exact ⟨rfl, fun base r hr => h base r (.inside (mem_inside.2 ⟨t, ht, rfl⟩) hr)⟩

/-! ## Resources -/

/-- Whatever names a resource beside the first base names one beside the second. -/
def Beside (b c : Base) : Prop :=
  ∀ r, b = .ok r → ∃ r', c = .ok r' ∧ (r' = r ∨ r'.hasDirectories = true)

theorem Beside.refl (b : Base) : Beside b b := fun r h => ⟨r, h, .inl rfl⟩

/-- A document without a name has directories. -/
theorem beside_unnamed (b : Base) : Beside b (.ok Reference.unnamed) := fun _ _ =>
  ⟨_, rfl, .inr rfl⟩

theorem named_eq_ok {base r : Uri.Resource} {id : List Char} :
    Reference.named base id = .ok r ↔ ∃ parts, Uri.read id = .ok parts ∧ parts.fragment = none ∧
      Uri.resolve base parts.resource = some r := by
  unfold Reference.named
  cases Uri.read id with
  | error fault => simp
  | ok parts =>
    cases hf : parts.fragment with
    | some f => simp [hf]
    | none => cases resolved : Uri.resolve base parts.resource <;> simp [hf, resolved]

theorem Beside.enter {b c : Base} (h : Beside b c) (schema : Json) :
    Beside (enter b schema) (enter c schema) := by
  unfold Reference.enter
  cases Reference.id? schema with
  | none => exact h
  | some id =>
    intro r hr
    obtain ⟨outer, hb, hr⟩ := bind_eq_ok.1 hr
    obtain ⟨outer', rfl, near⟩ := h outer hb
    rcases near with rfl | directories
    · exact ⟨r, hr, .inl rfl⟩
    · obtain ⟨parts, hread, plain, resolved⟩ := named_eq_ok.1 hr
      obtain ⟨r', resolved', near⟩ := Uri.exists_resolve resolved directories
      exact ⟨r', named_eq_ok.2 ⟨parts, hread, plain, resolved'⟩, near⟩

theorem inherited_beside : Inherited fun s x y => NoReferences s ∧ Beside x y :=
  fun _ _ _ ⟨hs, hxy⟩ t ht => ⟨hs.inside ht, hxy.enter t⟩

/-- All identifiers in a schema name a resource. -/
def Addressed (x : Spot) : Prop := ∀ y, Contains x y → ∃ r, y.base = .ok r

theorem Addressed.inside (h : Addressed x) (hin : y ∈ x.inside) : Addressed y :=
  fun z hz => h z (.inside hin hz)

/-- What names resources in one resource names some in another one. -/
theorem Addressed.beside {b c : Base} (h : Addressed ⟨b, schema⟩) (hbc : Beside b c) :
    Addressed ⟨c, schema⟩ := by
  induction schema using schemaInduction generalizing b c with
  | h schema ih =>
    intro y hy
    cases hy with
    | self =>
      obtain ⟨r, hr⟩ := h _ (.self _)
      obtain ⟨r', hr', -⟩ := hbc r hr
      exact ⟨r', hr'⟩
    | inside hin hy =>
      obtain ⟨s, hs, rfl⟩ := mem_inside.1 hin
      have there : Addressed (.at b s) := h.inside (mem_inside.2 ⟨s, hs, rfl⟩)
      exact ih s hs there (hbc.enter s) y hy

end EntitySchema.Draft7
