import EntitySchema.Proofs.Property.Acceptance
import EntitySchema.Proofs.Settings

/-!
# Kinds of values and storage types

The storage type of a column says what kind of values the store keeps in it, and the schema of the
property says which values pass. Where the type is derived from the schema, the two agree
(`accepted_value_has_kind`): whatever the type was derived from, a listed value, a declared type or
a union, the schema checks it as well, and its other keywords can only refuse more.
-/

namespace EntitySchema

/-- A string type that was called with a maximal length. -/
def StorageType.sized (n : Number) : StorageType := ⟨"STRING", .string, [.literal (.num n)], []⟩

namespace Resolution

variable {json : StorageType} {r : Resolution} {v : Json} {ns : Members}

/-- The values that a store can keep in a column with a derived storage type. -/
inductive Fits (json : StorageType) (r : Resolution) : Json → Prop
  | number {n : Number} : r.type = .bare "INTEGER" .integer → Fits json r (.num n)
  | boolean {b : Bool} : r.type = .bare "BOOLEAN" .boolean → Fits json r (.bool b)
  | string {s : String} : r.type = .bare "STRING" .string → Fits json r (.str s)
  | sized {n : Number} {s : String} : r.type = .sized n → Fits json r (.str s)
  | array {xs : List Json} : r.type = json → Fits json r (.arr xs)
  | object {ms : Members} : r.type = json → Fits json r (.obj ms)
  | listed {v w : Json} {values : List Json} : r.type = .bare "ENUM" .enum →
      r.values = some values → w ∈ values → Json.equal v w = true → Fits json r v

/-- A value of a declared type fits the storage type that it becomes. -/
theorem fits_of_ofDeclared {name : String}
    (h : ofDeclared .standard json (some (.str name)) ns = .ok r.type)
    (ht : Draft7.hasType name v = true) (hv : v ≠ .null) : Fits json r v := by
  have boolean : Text.upper "boolean" = "BOOLEAN" := by decide +kernel
  have integer : Text.upper "integer" = "INTEGER" := by decide +kernel
  have standard {path : String} {cls : TypeClass} {t : StorageType}
      (hc : Members.get? Catalog.standard.entries path = some cls) (hp : '.' ∉ path.toList)
      (ht : Catalog.standard.resolve? path = some t) : t = .bare path cls :=
    Option.some.inj (ht.symm.trans (Catalog.resolve?_of_entry hc hp))
  cases v with
  | null => exact absurd rfl hv
  | bool b =>
    obtain rfl : name = "boolean" := by simpa [Draft7.hasType] using ht
    have htype := type_of_plain (by decide) h
    rw [boolean] at htype
    exact .boolean (standard rfl (by decide) htype)
  | num n =>
    obtain rfl | ⟨rfl, -⟩ : name = "number" ∨ name = "integer" ∧ n.isWhole = true := by
      simpa [Draft7.hasType] using ht
    · exact .number (standard rfl (by decide) (type_of_number h))
    · have htype := type_of_plain (by decide) h
      rw [integer] at htype
      exact .number (standard rfl (by decide) htype)
  | str s =>
    obtain rfl : name = "string" := by simpa [Draft7.hasType] using ht
    obtain ⟨u, hu, htype⟩ := type_of_string h
    obtain rfl := standard rfl (by decide) hu
    rcases htype with htype | ⟨n, -, htype⟩
    · exact .string htype
    · exact .sized htype
  | arr xs => exact .array (type_of_object (.inr (by simpa [Draft7.hasType] using ht)) h)
  | obj ms => exact .object (type_of_object (.inl (by simpa [Draft7.hasType] using ht)) h)

/-- A value other than null that passes a schema fits the storage type derived from it. -/
theorem fits_of_admits {d : Draft7.Scope} {ms : Members}
    (h : derive .standard json ms = .ok r)
    (hr : ∀ ns, Decides ms ns → Members.get? ns "$ref" = none) (hv : v ≠ .null)
    (hd : d.admits (.obj ms) v = true) : Fits json r v := by
  rcases derive_admits h hr hv hd with
    ⟨henum, values, hvalues, w, hw, heq⟩ | ⟨name, ns, -, hdeclared, ht, -⟩
  · have entry : Members.get? Catalog.standard.entries "ENUM" = some .enum := rfl
    rw [Catalog.resolve?_of_entry entry (by decide)] at henum
    exact .listed (Option.some.inj henum).symm hvalues hw heq
  · exact fits_of_ofDeclared hdeclared ht hv

end Resolution

/-! ## Columns -/

/-- What a class of storage types says about the kind of a value, if an enumeration lists
`values`. -/
def TypeClass.Holds (values : Option (List Json)) (v : Json) : TypeClass → Prop
  | .integer => ∃ n, v = .num n
  | .boolean => ∃ b, v = .bool b
  | .string => ∃ s, v = .str s
  | .json => (∃ xs, v = .arr xs) ∨ ∃ ms, v = .obj ms
  | .enum => ∃ listed, values = some listed ∧ ∃ w ∈ listed, Json.equal v w = true
  | _ => False

/-- The types that keep different kinds of values belong to different classes. -/
theorem Resolution.Fits.holds {json : StorageType} {r : Resolution} {v : Json}
    (h : r.Fits json v) (hjson : json.cls = .json) : r.type.cls.Holds r.values v := by
  cases h with
  | number htype => rw [htype]; exact ⟨_, rfl⟩
  | boolean htype => rw [htype]; exact ⟨_, rfl⟩
  | string htype => rw [htype]; exact ⟨_, rfl⟩
  | sized htype => rw [htype]; exact ⟨_, rfl⟩
  | array htype => rw [htype, hjson]; exact .inl ⟨_, rfl⟩
  | object htype => rw [htype, hjson]; exact .inr ⟨_, rfl⟩
  | listed htype hvalues hw heq => rw [htype]; exact ⟨_, hvalues, _, hw, heq⟩

/-- What a column with a derived storage type says about a value that is kept in it. -/
structure Column.Keeps (json : StorageType) (column : Column) (v : Json) : Prop where
  known : column.type = .bare "INTEGER" .integer ∨ column.type = .bare "BOOLEAN" .boolean ∨
    column.type = .bare "STRING" .string ∨ (∃ n, column.type = .sized n) ∨ column.type = json ∨
    column.type = .bare "ENUM" .enum
  integer : column.type = .bare "INTEGER" .integer → ∃ n, v = .num n
  boolean : column.type = .bare "BOOLEAN" .boolean → ∃ b, v = .bool b
  string : column.type = .bare "STRING" .string ∨ (∃ n, column.type = .sized n) → ∃ s, v = .str s
  json : column.type = json → (∃ xs, v = .arr xs) ∨ ∃ ms, v = .obj ms
  enum : column.type = .bare "ENUM" .enum → ∃ values, column.values = some values ∧
    ∃ w ∈ values, Json.equal v w = true

theorem Column.keeps_of_fits {json : StorageType} {r : Resolution} {column : Column} {v : Json}
    (h : r.Fits json v) (hjson : json.cls = .json) (htype : column.type = r.type)
    (hvalues : column.values = r.values) : column.Keeps json v := by
  have holds : column.type.cls.Holds column.values v := by
    rw [htype, hvalues]
    exact h.holds hjson
  have kind {t : StorageType} (ht : column.type = t) : t.cls.Holds column.values v := ht ▸ holds
  exact {
    known := by
      rw [htype]
      cases h <;> simp_all
    integer := fun ht => kind ht
    boolean := fun ht => kind ht
    string := fun ht => ht.elim kind fun ⟨_, hn⟩ => kind hn
    json := fun ht => by
      have holds := kind ht
      rw [hjson] at holds
      exact holds
    enum := fun ht => kind ht }

/-- **Kinds of values.** A value other than null that passes the schema of a property is of the kind
that the column of the property keeps, where the storage type is derived from the schema. -/
theorem accepted_value_has_kind {c : Compiler} {e : Entity} {a : Artifact} {name : String}
    {f : Fragment} (h : c.compile e = .ok a) (hcatalog : c.catalog = .standard)
    (hjson : c.json.isJson = true) (hf : Members.get? e.properties name = some f)
    (htype : f.dataType = none) (hvalues : f.get? "values" = none) (hdirect : f.Direct) :
    ∃ column s, Members.get? a.columns name = some column ∧ a.schemaAt name = some s ∧
      ∀ (d : Draft7.Scope) v, v ≠ .null → d.admits s v = true → column.Keeps c.json v := by
  obtain ⟨x, hsplit, hcolumn, hs⟩ := Compiler.property_of_compile h hf
  refine ⟨x.column, x.schema, hcolumn, hs, ?_⟩
  intro d v hv hd
  obtain ⟨r, hr, hrtype, -, -⟩ := Property.split_eq_ok hsplit
  have listed : x.column.values = r.values := by
    rw [Property.values_of_split hsplit hr, hvalues]
    rfl
  rw [htype, hcatalog] at hr
  have fits := Resolution.fits_of_admits hr (fun ns hn => hdirect.decides hn) hv
    (admits_validation hsplit hv hd)
  exact Column.keeps_of_fits fits (by simpa [StorageType.isJson] using hjson) hrtype listed

/-- Settings give a compiler that keeps objects and arrays as Json. -/
theorem Compiler.isJson_of_ofSettings {s : Settings} {c : Compiler}
    (h : Compiler.ofSettings s = .ok c) : c.json.isJson = true :=
  (Compiler.ofSettings_eq_ok.1 h).2.isJson

/-- A union of null and listed numbers, with a permission for null. -/
def Fragment.listedUnion : Fragment :=
  .ofKeywords [("anyOf", .arr [.obj [("type", .str "null")], .obj [("type", .str "number")]]),
    ("enum", .arr [.num (.int 1), .null]), ("allowNull", .bool true)]

theorem listed_union_has_kind : ∃ a column s d, Compiler.ofSettings {} = .ok .standard ∧
    Compiler.standard.compile (.ofFragment .listedUnion) = .ok a ∧
    Members.get? a.columns "p" = some column ∧ column.type = .bare "INTEGER" .integer ∧
    a.schemaAt "p" = some s ∧ Draft7.Compiled.compile s = .ok d ∧
    d.accepts (.num (.int 1)) = true ∧
    ∀ v, v ≠ .null → d.accepts v = true → ∃ n, v = .num n := by
  have settings : Compiler.ofSettings {} = .ok .standard := rfl
  obtain ⟨a, s, d, ha, hs, hd, haccepts⟩ := exists_of_schemaRun (c := .standard)
    (e := .ofFragment .listedUnion) (k := "p") (g := (·.accepts (.num (.int 1)))) (r := true)
    (by decide +kernel)
  have hf : Members.get? (Entity.ofFragment .listedUnion).properties "p" = some .listedUnion := rfl
  have direct : Fragment.listedUnion.Direct := Fragment.direct_of_run rfl (by decide)
  obtain ⟨column, hcolumn, htype⟩ := exists_of_splitRun (g := (·.type))
    (r := .bare "INTEGER" .integer) ha hf rfl
  obtain ⟨column', s', hcolumn', hs', h⟩ := accepted_value_has_kind ha rfl
    (Compiler.isJson_of_ofSettings settings) hf rfl rfl direct
  obtain rfl : column' = column := Option.some.inj (hcolumn'.symm.trans hcolumn)
  obtain rfl : s' = s := Option.some.inj (hs'.symm.trans hs)
  refine ⟨a, column', s', d, settings, ha, hcolumn, htype, hs, hd, haccepts, ?_⟩
  intro v hv hp
  rw [d.accepts_eq, Draft7.Compiled.root_of_compile hd] at hp
  exact (h d.scope v hv hp).integer htype

end EntitySchema
