import EntitySchema.Proofs.Property.Acceptance

/-!
# Columns and null

A column that takes null and a schema that lets null pass are decided apart: the column by a test
on the text of the fragment (`isNullTolerant`), the schema by all its keywords together. Here the
two are compared for a property that is required or says itself that it may be null.

* `nullable_column_admits`: a nullable column belongs to a schema that passes the same values as the
  keywords of the fragment do, null apart. Null passes when the schema was put into a union, and
  otherwise just when the keywords of the fragment let it pass, which the test does not ensure
  (`nullable_column_refusing_null`).
* `required_column_refuses_null`: without a permission, a column that is not nullable belongs to a
  schema that refuses null. The storage type could be derived, so some type other than null is
  declared, by the fragment or by the branches of its union.
* `nullability_of_artifact`: the same test, made on the schema that a compilation emits, tells
  together with the required names whether the column is nullable, unless the fragment forbids null.
  The union that a permission asks for tolerates null, so that the schema then says what the
  directive said.
-/

namespace EntitySchema

open Draft7 (within)

variable {g : Draft7.Guide Draft7.Verdict} {p : Pointer}

/-! ## Nullable columns -/

theorem nullable_column_admits {c : Compiler} {e : Entity} {a : Artifact} {name : String}
    {f : Fragment} (h : c.compile e = .ok a) (hf : Members.get? e.properties name = some f)
    (hn : e.isRequired name = true ∨ f.get? "allowNull" = some (.bool true)) :
    ∃ column s, Members.get? a.columns name = some column ∧ a.schemaAt name = some s ∧
      (column.allowNull = true → ∀ d : Draft7.Scope,
        (∀ v, v ≠ .null → d.admits s v = d.admits (.obj f.validation) v) ∧
        (d.admits s .null = true ↔
          isNullTolerant f.validation = false ∨ d.admits (.obj f.validation) .null = true)) := by
  obtain ⟨x, hsplit, hcol, hs⟩ := Compiler.property_of_compile h hf
  obtain ⟨r, -, -, hnull, hschema⟩ := Property.split_eq_ok hsplit
  refine ⟨x.column, x.schema, hcol, hs, fun hallow d => ?_⟩
  rw [hnull] at hallow
  rw [hschema]
  cases ht : isNullTolerant f.validation with
  | true => simp
  | false =>
    -- Only a permission makes the column nullable, and it puts the schema into the union.
    have hp : f.permission = some true := by
      rcases hn with hreq | hperm
      · cases hp : f.permission with
        | none => simp [hp, hreq, ht] at hallow
        | some b => simpa [hp] using hallow
      · rw [Fragment.permission, hperm]
        rfl
    simp only [hp, beq_self_eq_true, Bool.not_false, Bool.and_self, if_true]
    refine ⟨fun v hv => ?_, by simp [admits_orNull]⟩
    rw [Bool.eq_iff_iff, admits_orNull]
    exact or_iff_left hv

/-- A union of strings and null that declares strings only, so that null passes the union alone. -/
def Fragment.declaredUnion : Fragment :=
  .ofKeywords [("type", .str "string"),
    ("anyOf", .arr [.obj [("type", .str "string")], .obj [("type", .str "null")]])]

/-- The text of a fragment may tolerate null while its keywords together do not. -/
theorem nullable_column_refusing_null : ∃ a column s d,
    Compiler.standard.compile (.ofFragment .declaredUnion) = .ok a ∧
    Members.get? a.columns "p" = some column ∧ column.allowNull = true ∧
    a.schemaAt "p" = some s ∧ Draft7.Compiled.compile s = .ok d ∧ d.accepts .null = false := by
  have run : ((Compiler.standard.compile (.ofFragment .declaredUnion)).toOption.bind fun a =>
      (Members.get? a.columns "p").bind fun column => (a.schemaAt "p").bind fun s =>
        (Draft7.Compiled.compile s).toOption.map fun d => (column.allowNull, d.accepts .null)) =
      some (true, false) := by decide +kernel
  obtain ⟨a, ha, run⟩ := Option.bind_eq_some_iff.1 run
  obtain ⟨column, hc, run⟩ := Option.bind_eq_some_iff.1 run
  obtain ⟨s, hs, run⟩ := Option.bind_eq_some_iff.1 run
  obtain ⟨d, hd, run⟩ := Option.map_eq_some_iff.1 run
  obtain ⟨hallow, hnull⟩ := Prod.mk.inj run
  exact ⟨a, column, s, d, toOption_eq_some.1 ha, hc, hallow, hs, toOption_eq_some.1 hd, hnull⟩

/-- A string that may be null by permission. -/
def Fragment.permittedString : Fragment :=
  .ofKeywords [("type", .str "string"), ("allowNull", .bool true)]

theorem permitted_column_admits_null : ∃ a column s,
    Compiler.standard.compile (.ofFragment .permittedString) = .ok a ∧
    Members.get? a.columns "p" = some column ∧ column.allowNull = true ∧ a.schemaAt "p" = some s ∧
    ∀ d : Draft7.Scope, d.admits s .null = true := by
  obtain ⟨a, column, ha, hc, hallow⟩ := exists_of_columnRun (c := .standard)
    (e := .ofFragment .permittedString) (k := "p") (g := (·.allowNull)) (r := true)
    (by decide +kernel)
  obtain ⟨column', s, hc', hs, h⟩ := nullable_column_admits ha
    (show Members.get? _ "p" = some _ from rfl) (.inl rfl)
  obtain rfl : column' = column := Option.some.inj (hc'.symm.trans hc)
  exact ⟨a, column', s, ha, hc, hallow, hs, fun d => (h hallow d).2.2 (.inl rfl)⟩

/-! ## Columns that are not nullable -/

theorem isNullTolerant_eq_false {ms : Members} (h : isNullTolerant ms = false) :
    (∀ t, Members.get? ms "type" = some (.str t) → t ≠ "null") ∧
    ∀ branches, Members.get? ms "anyOf" = some (.arr branches) →
      ∀ b ∈ branches, b.getStr? "type" ≠ some "null" := by
  obtain ⟨hbranch, htype⟩ := Bool.or_eq_false_iff.1 h
  constructor
  · intro t ht
    rw [ht] at htype
    simpa using htype
  · intro branches hb b hmem
    rw [hb] at hbranch
    simpa using List.any_eq_false.1 hbranch b hmem

/-- A union that a storage type could be derived from refuses null, unless `anyOf` names null. -/
theorem union_refuses_null {c : Catalog} {json t : StorageType} {ms : Members} {k : String}
    {branches : List Json} (hu : Resolution.union? ms = some (k, branches))
    (hd : Resolution.ofUnion c json k branches = .ok t)
    (href : Members.get? ms "$ref" = none) (hbranch : ∀ b ∈ branches, b.get? "$ref" = none)
    (hany : k = "anyOf" → ∀ b ∈ branches, b.getStr? "type" ≠ some "null") :
    within g (.obj ms) p .null ≠ [] := by
  obtain ⟨first, rest, shared, hm, -, hfirst, hshared, -⟩ := Resolution.ofUnion_eq_ok hd
  obtain ⟨hk, hms⟩ := Resolution.union?_eq_some hu
  obtain ⟨hmem, hne⟩ : first ∈ branches ∧ first.getStr? "type" ≠ some "null" := by
    simpa using List.mem_filter.1 (show first ∈ Resolution.meaningful branches from hm ▸ .head _)
  have refuses : ∀ b ∈ Resolution.meaningful branches,
      ∀ q, within (g.enter (.obj ms)) b q .null ≠ [] := fun b hb q =>
    Draft7.check_null_ne_nil (hbranch b (List.mem_filter.1 hb).1) (hshared b hb)
      fun hs => hne (hs ▸ hfirst)
  intro hc
  have union := Draft7.memberCheck_eq_nil (Draft7.held?_eq_none href) hc hms
  rcases hk with rfl | rfl
  · obtain ⟨x, hx, hnil⟩ := Draft7.memberCheck_anyOf_eq_nil.1 union
    have hx : x.1 ∈ branches := List.fst_mem_of_mem_zipIdx hx
    exact refuses x.1 (List.mem_filter.2 ⟨hx, by simpa using hany rfl x.1 hx⟩) _ hnil
  · obtain ⟨i, hi⟩ := List.getElem?_of_mem hmem
    exact refuses first (hm ▸ .head _) _
      (Draft7.memberCheck_allOf_eq_nil.1 union (first, i) (List.mk_mem_zipIdx_iff_getElem?.2 hi))

/-- **A column that is not nullable refuses null**: the schema of a required property whose storage
type is derived, and that says nothing about null itself, refuses null when the column does. -/
theorem required_column_refuses_null {c : Compiler} {e : Entity} {a : Artifact} {name : String}
    {f : Fragment} (h : c.compile e = .ok a) (hf : Members.get? e.properties name = some f)
    (hreq : e.isRequired name = true) (htype : f.dataType = none)
    (hallow : f.get? "allowNull" = none) (href : f.get? "$ref" = none)
    (hbranch : ∀ k ∈ ["anyOf", "allOf"], ∀ branches, f.get? k = some (.arr branches) →
      ∀ b ∈ branches, b.get? "$ref" = none) :
    ∃ column s, Members.get? a.columns name = some column ∧ a.schemaAt name = some s ∧
      (column.allowNull = false → ∀ d : Draft7.Scope, d.admits s .null = false) := by
  obtain ⟨x, hsplit, hcol, hs⟩ := Compiler.property_of_compile h hf
  obtain ⟨r, hr, -, hnull, hschema⟩ := Property.split_eq_ok hsplit
  refine ⟨x.column, x.schema, hcol, hs, fun hn d => ?_⟩
  have permission : f.permission = none := by rw [Fragment.permission, hallow]; rfl
  rw [hnull, permission, hreq] at hn
  obtain ⟨notNull, noBranch⟩ := isNullTolerant_eq_false (by simpa using hn)
  have kept (k : String) (hk : Directive.isColumn k = false) :
      Members.get? f.validation k = f.get? k := by
    rw [Fragment.validation, Property.get?_validationOf, hk]
    rfl
  have noRef : Members.get? f.validation "$ref" = none := by rw [kept _ (by decide), href]
  -- Whatever the storage type came from, the schema or the branches that decide name a type.
  have refuses (g : Draft7.Guide Draft7.Verdict) (p : Pointer) :
      within g (.obj f.validation) p .null ≠ [] := by
    have declared {t : String} (ht : Members.get? f.validation "type" = some (.str t)) :
        within g (.obj f.validation) p .null ≠ [] :=
      Draft7.check_null_ne_nil noRef (Option.bind_eq_some_iff.2 ⟨_, ht, rfl⟩) (notNull t ht)
    rw [htype] at hr
    rcases Resolution.derive_eq_ok hr with
      ⟨values, hv, -⟩ | ⟨k, branches, -, hu, hd, -⟩ | ⟨-, -, hd, -⟩
    · obtain ⟨t, ht, -⟩ := Resolution.enumValues_eq_some hv
      exact declared ht
    · obtain ⟨hk, hget⟩ := Resolution.union?_eq_some hu
      have hkept : f.get? k = some (.arr branches) := by
        rw [← kept k (by rcases hk with rfl | rfl <;> decide), hget]
      refine union_refuses_null hu hd noRef (hbranch k (by simpa using hk) branches hkept) ?_
      rintro rfl
      exact noBranch branches hget
    · obtain ⟨t, ht⟩ := Resolution.ofDeclared_eq_ok hd
      exact declared ht
  rw [hschema, permission]
  exact Bool.eq_false_iff.2 fun hp => refuses _ _ ((d.admits_iff []).1 hp)

/-- A union that asks for two types at once. -/
def Fragment.nullIntersection : Fragment :=
  .ofKeywords [("allOf", .arr [.obj [("type", .str "string")], .obj [("type", .str "null")]])]

theorem required_intersection_refuses_null : ∃ a column s,
    Compiler.standard.compile (.ofFragment .nullIntersection) = .ok a ∧
    Members.get? a.columns "p" = some column ∧ column.allowNull = false ∧ a.schemaAt "p" = some s ∧
    ∀ d : Draft7.Scope, d.admits s .null = false := by
  obtain ⟨a, column, ha, hc, hallow⟩ := exists_of_columnRun (c := .standard)
    (e := .ofFragment .nullIntersection) (k := "p") (g := (·.allowNull)) (r := false)
    (by decide +kernel)
  obtain ⟨column', s, hc', hs, h⟩ := required_column_refuses_null ha
    (show Members.get? _ "p" = some _ from rfl) rfl rfl rfl rfl fun k hk branches hget b hb => by
      obtain rfl | rfl : k = "anyOf" ∨ k = "allOf" := by simpa using hk
      · cases hget
      · cases hget
        obtain rfl | rfl : b = _ ∨ b = _ := by simpa using hb
        all_goals rfl
  obtain rfl : column' = column := Option.some.inj (hc'.symm.trans hc)
  exact ⟨a, column', s, ha, hc, hallow, hs, h hallow⟩

/-! ## Nullability of an artifact -/

theorem Compiler.required_of_compile {c : Compiler} {e : Entity} {a : Artifact}
    (h : c.compile e = .ok a) : a.required = e.required := by
  obtain ⟨schemas, -, hs, -⟩ := schema_of_compile h
  have listed : a.schema.get? "required" = some (Json.ofStrings e.required) := by
    rw [hs, Json.get?]
    simp [Json.obj?, Entity.get?_documentMembers]
  rw [Artifact.required, listed]
  exact Draft7.strings_ofStrings e.required

theorem Fragment.permission_eq_some {f : Fragment} {b : Bool} :
    f.permission = some b ↔ f.get? "allowNull" = some (.bool b) := by
  rw [permission, Option.bind_eq_some_iff]
  constructor
  · rintro ⟨v, hv, hb⟩
    cases v <;> cases hb
    exact hv
  · exact fun h => ⟨_, h, rfl⟩

/-- The schema of a property that may be null by permission tolerates null. -/
theorem exists_tolerant (ms : Members) : ∃ ms', isNullTolerant ms' = true ∧
    (if !isNullTolerant ms then Property.orNull (.obj ms) else .obj ms) = .obj ms' := by
  cases tolerant : isNullTolerant ms with
  | true => exact ⟨ms, tolerant, rfl⟩
  | false =>
    refine ⟨[("anyOf", .arr [.obj ms, .obj [("type", .str "null")]])], ?_, rfl⟩
    simp [isNullTolerant, Members.get?, Json.getStr?, Json.get?, Json.obj?, Json.str?]

/-- **Nullability can be read off.** The column of a property that forbids null is not nullable. Any
other column is nullable exactly when the document does not require the property or its schema, as
emitted, tolerates null. -/
theorem nullability_of_artifact {c : Compiler} {e : Entity} {a : Artifact} {name : String}
    {f : Fragment} (h : c.compile e = .ok a) (hf : Members.get? e.properties name = some f) :
    ∃ column ms, Members.get? a.columns name = some column ∧ a.schemaAt name = some (.obj ms) ∧
      (f.get? "allowNull" = some (.bool false) → column.allowNull = false) ∧
      (f.get? "allowNull" ≠ some (.bool false) →
        (column.allowNull = true ↔ name ∉ a.required ∨ isNullTolerant ms = true)) := by
  obtain ⟨x, hsplit, hcol, hs⟩ := Compiler.property_of_compile h hf
  obtain ⟨r, -, -, hnull, hschema⟩ := Property.split_eq_ok hsplit
  have listed : e.isRequired name = true ↔ name ∈ a.required := by
    rw [Compiler.required_of_compile h, Entity.isRequired, List.contains_iff_mem]
  simp only [ne_eq, ← Fragment.permission_eq_some]
  cases hp : f.permission with
  | none =>
    refine ⟨x.column, f.validation, hcol, by simpa [hschema, hp] using hs, nofun, fun _ => ?_⟩
    rw [hnull, hp, ← listed]
    simp
  | some b =>
    cases b with
    | false =>
      exact ⟨x.column, f.validation, hcol, by simpa [hschema, hp] using hs,
        fun _ => by rw [hnull, hp]; rfl, fun no => absurd rfl no⟩
    | true =>
      obtain ⟨ms, tolerant, hms⟩ := exists_tolerant f.validation
      refine ⟨x.column, ms, hcol, ?_, nofun, fun _ => ?_⟩
      · rw [hs, hschema, ← hms]
        simp [hp]
      · rw [hnull, hp]
        simp [tolerant]

/-- A required string, emitted in a union with null because a permission asks for it. -/
theorem permitted_string_reads_nullable : ∃ a ms,
    Compiler.standard.compile (.ofFragment .permittedString) = .ok a ∧ "p" ∈ a.required ∧
    a.schemaAt "p" = some (.obj ms) ∧ isNullTolerant ms = true := by
  obtain ⟨a, column, ha, hc, hallow⟩ := exists_of_columnRun (c := .standard)
    (e := .ofFragment .permittedString) (k := "p") (g := (·.allowNull)) (r := true)
    (by decide +kernel)
  have required : "p" ∈ a.required := Compiler.required_of_compile ha ▸ List.mem_singleton_self "p"
  obtain ⟨column', ms, hc', hs, -, h⟩ := nullability_of_artifact ha
    (show Members.get? _ "p" = some _ from rfl)
  obtain rfl : column' = column := Option.some.inj (hc'.symm.trans hc)
  exact ⟨a, ms, ha, required, hs, ((h nofun).1 hallow).resolve_left (not_not_intro required)⟩

end EntitySchema
