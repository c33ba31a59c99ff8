import EntitySchema.Proofs.Entity.Compilation

/-!
# Columns and properties

A compilation splits the properties of an entity one by one and puts the halves under the names they
came from. So the columns and the schemas of the document come in the order of the properties, each
pair is what its property is split into (`compiled_halves`), and nothing else in the entity has a
say about it: two entities that agree on a property agree on both of its halves
(`halves_eq_of_agree`).
-/

namespace EntitySchema

variable {c : Compiler} {e e' : Entity} {a a' : Artifact} {name : String}

namespace Compiler

/-- The names of the columns and of the schemas are those of the properties, in order. -/
theorem keys_of_compile (h : c.compile e = .ok a) :
    Members.keys a.columns = Members.keys e.properties ∧
    ∃ schemas, a.properties? = some schemas ∧
      Members.keys schemas = Members.keys e.properties := by
  obtain ⟨schemas, -, -, -, hschemas, hkeys, hcolumns⟩ := schema_of_compile h
  exact ⟨hcolumns, schemas, hschemas, hkeys.trans hcolumns⟩

/-- Both halves of a property are what it is split into. -/
theorem compiled_halves (h : c.compile e = .ok a) {f : Fragment}
    (hf : Members.get? e.properties name = some f) : ∃ p : Property,
      Property.normalize c.catalog c.json name f (e.isRequired name) = .ok p ∧
      Members.get? a.columns name = some p.column ∧ a.schemaAt name = some p.schema := by
  obtain ⟨p, hp, hcolumn, hschema⟩ := property_of_compile h hf
  exact ⟨p, mapError_eq_ok.2 hp, hcolumn, hschema⟩

/-- A name without a property has no column and no schema. -/
theorem halves_of_absent (h : c.compile e = .ok a)
    (hf : Members.get? e.properties name = none) :
    Members.get? a.columns name = none ∧ a.schemaAt name = none := by
  obtain ⟨hcolumns, schemas, hschemas, hkeys⟩ := keys_of_compile h
  have absent : name ∉ Members.keys e.properties := Members.get?_eq_none_iff.1 hf
  constructor
  · rwa [Members.get?_eq_none_iff, hcolumns]
  · rw [Artifact.schemaAt, hschemas]
    rwa [Option.bind_some, Members.get?_eq_none_iff, hkeys]

/-- Two entities that agree on a property agree on its halves. -/
theorem halves_eq_of_agree (h : c.compile e = .ok a) (h' : c.compile e' = .ok a')
    (hf : Members.get? e'.properties name = Members.get? e.properties name)
    (hr : e'.isRequired name = e.isRequired name) :
    Members.get? a'.columns name = Members.get? a.columns name ∧
      a'.schemaAt name = a.schemaAt name := by
  cases hp : Members.get? e.properties name with
  | none =>
    obtain ⟨hcolumn, hschema⟩ := halves_of_absent h hp
    obtain ⟨hcolumn', hschema'⟩ := halves_of_absent h' (hf.trans hp)
    exact ⟨hcolumn'.trans hcolumn.symm, hschema'.trans hschema.symm⟩
  | some f =>
    obtain ⟨p, hnormal, hcolumn, hschema⟩ := compiled_halves h hp
    obtain ⟨p', hnormal', hcolumn', hschema'⟩ := compiled_halves h' (hf.trans hp)
    obtain rfl : p' = p := Except.ok.inj (hnormal'.symm.trans (hr ▸ hnormal))
    exact ⟨hcolumn'.trans hcolumn.symm, hschema'.trans hschema.symm⟩

end Compiler

/-- **Columns and properties.** The columns of a compiled entity and the properties of its document
have the names of its properties, in order and each once. Each pair is what its property is split
into, so it is the same in every entity that agrees on the property and on whether it is
required. -/
theorem columns_match_properties (h : c.compile e = .ok a) :
    (Members.keys a.columns = Members.keys e.properties ∧
      (∃ schemas, a.properties? = some schemas ∧
        Members.keys schemas = Members.keys e.properties) ∧
      (Members.keys e.properties).Nodup) ∧
    (∀ name f, Members.get? e.properties name = some f → ∃ p : Property,
      Property.normalize c.catalog c.json name f (e.isRequired name) = .ok p ∧
      Members.get? a.columns name = some p.column ∧ a.schemaAt name = some p.schema) ∧
    ∀ e' a', c.compile e' = .ok a' → ∀ name,
      Members.get? e'.properties name = Members.get? e.properties name →
      e'.isRequired name = e.isRequired name →
      Members.get? a'.columns name = Members.get? a.columns name ∧
        a'.schemaAt name = a.schemaAt name := by
  obtain ⟨hcolumns, hschemas⟩ := Compiler.keys_of_compile h
  exact ⟨⟨hcolumns, hschemas, e.nodup_properties⟩, fun _ _ => Compiler.compiled_halves h,
    fun _ _ h' _ => Compiler.halves_eq_of_agree h h'⟩

/-- An entity with a further key of the name of one that the compiler writes. -/
def Entity.shadowed : Entity := .withString "properties" (.obj [("q", .obj [])])

/-- Another entity with the same property, behind an optional one and with an option. -/
def Entity.extended : Entity :=
  (((Entity.ofTitle "U").addProperty "q" (.ofKeywords [("type", .str "integer")]) false).addProperty
    "p" (.ofKeywords [("type", .str "string")]) true).setOption "tableName" (.str "u")

theorem shadowed_columns_match : ∃ a a', Compiler.standard.compile .shadowed = .ok a ∧
    Compiler.standard.compile .extended = .ok a' ∧ Members.keys a.columns = ["p"] ∧
    (∃ schemas, a.properties? = some schemas ∧ Members.keys schemas = ["p"]) ∧
    Members.get? a'.columns "p" = Members.get? a.columns "p" ∧
      a'.schemaAt "p" = a.schemaAt "p" := by
  obtain ⟨a, ha⟩ := exists_of_isOk (x := Compiler.standard.compile .shadowed) (by decide +kernel)
  obtain ⟨a', ha'⟩ := exists_of_isOk (x := Compiler.standard.compile .extended) (by decide +kernel)
  obtain ⟨⟨hcolumns, hschemas, -⟩, -, local_⟩ := columns_match_properties ha
  exact ⟨a, a', ha, ha', hcolumns, hschemas, local_ .extended a' ha' "p" rfl rfl⟩

end EntitySchema
