import EntitySchema.Compiler
import EntitySchema.Proofs.Draft7.Subschema
import EntitySchema.Proofs.Outcome

/-!
# What a compiled entity consists of

A compilation that succeeds has split every property (`property_of_compile`) and put the halves
under the names they came from. Its document holds four keys that the compiler writes last, so they
are what the compiler wrote whatever further keys the entity has (`get?_document`).
-/

namespace EntitySchema

/-! ## Documents -/

namespace Entity

/-- The further keys of an entity that are not options of its model. -/
def furtherKeywords (e : Entity) : Members := e.rest.filter fun m => !Directive.isOption m.1

/-- The members of the document of an entity. -/
def documentMembers (e : Entity) (properties : Members) : Members :=
  Members.insertAll [("title", .str e.title)] (e.furtherKeywords ++ [
    ("type", .str "object"),
    ("additionalProperties", .bool false),
    ("required", Json.ofStrings e.required),
    ("properties", .obj properties)])

theorem document_eq (e : Entity) (properties : Members) :
    e.document properties = .obj (e.documentMembers properties) := rfl

theorem get?_furtherKeywords (e : Entity) {k : String} (hk : Directive.isOption k = false) :
    Members.get? e.furtherKeywords k = Members.get? e.rest k := by
  rw [furtherKeywords, Members.get?_filter (fun k => !Directive.isOption k), hk]
  rfl

theorem nodup_furtherKeywords (e : Entity) : (Members.keys e.furtherKeywords).Nodup :=
  Members.nodup_keys_filter _ e.nodup_rest

theorem nodup_documentMembers (e : Entity) (properties : Members) :
    (Members.keys (e.documentMembers properties)).Nodup :=
  Members.nodup_keys_insertAll (by simp [Members.keys])

/-- A key of the document is what the compiler wrote, else a further keyword, else the title. -/
theorem get?_documentMembers (e : Entity) (properties : Members) (k : String) :
    Members.get? (e.documentMembers properties) k =
      if k = "properties" then some (.obj properties)
      else if k = "required" then some (Json.ofStrings e.required)
      else if k = "additionalProperties" then some (.bool false)
      else if k = "type" then some (.str "object")
      else (Members.get? e.furtherKeywords k).or
        (Members.get? [("title", .str e.title)] k) := by
  rw [documentMembers, Members.insertAll_append]
  simp only [Members.insertAll_cons, Members.insertAll_nil, Members.get?_insert,
    Members.get?_insertAll e.nodup_furtherKeywords, eq_comm (b := k)]

/-- A key of the document that the compiler does not write is a further key of the entity. -/
theorem get?_documentMembers_of_option {e : Entity} {properties : Members} {k : String}
    (ho : Directive.isOption k = false)
    (hk : k ∉ ["properties", "required", "additionalProperties", "type", "title"]) :
    Members.get? (e.documentMembers properties) k = Members.get? e.rest k := by
  simp only [List.mem_cons, List.not_mem_nil, or_false, not_or] at hk
  obtain ⟨h₁, h₂, h₃, h₄, h₅⟩ := hk
  rw [get?_documentMembers, if_neg h₁, if_neg h₂, if_neg h₃, if_neg h₄, get?_furtherKeywords e ho,
    Members.get?_cons, if_neg (Ne.symm h₅)]
  exact Option.or_none

/-- The document of an entity is a closed object, unless the entity brings a reference along. -/
theorem closedObject_document {e : Entity} (href : Members.get? e.rest "$ref" = none)
    (properties : Members) : Draft7.ClosedObject (e.documentMembers properties) properties where
  held := Draft7.held?_eq_none <|
    (get?_documentMembers_of_option (by decide) (by decide)).trans href
  nodup := e.nodup_documentMembers properties
  closed := by simp [get?_documentMembers]
  listed := by simp [get?_documentMembers]

end Entity

/-! ## Compilations -/

/-- The schema of a property in the document of a compiled entity. -/
def Artifact.schemaAt (a : Artifact) (name : String) : Option Json :=
  a.properties?.bind (Members.get? · name)

/-- An entity that requires one property. -/
def Entity.ofFragment (f : Fragment) : Entity := (Entity.ofTitle "T").addProperty "p" f true

/-- An entity that requires one string, with a further key. -/
def Entity.withString (key : String) (v : Json) : Entity :=
  (Entity.ofFragment (.ofKeywords [("type", .str "string")])).setOption key v

namespace Compiler

/-- The standard catalog, with objects and arrays kept as binary Json. -/
def standard : Compiler := ⟨.standard, .bare "JSONB" .json⟩

variable {c : Compiler} {e : Entity} {a : Artifact}

theorem compile_eq_ok : c.compile e = .ok a ↔ ∃ ps d, c.normalize e = .ok ps ∧
    Draft7.Compiled.compile (e.document (ps.map fun p => (p.1, p.2.schema))) = .ok d ∧
    a = ⟨e.title, ps.map fun p => (p.1, p.2.column), e.options,
      e.document (ps.map fun p => (p.1, p.2.schema))⟩ := by
  rw [compile, mapError_eq_ok, assemble, bind_eq_ok]
  constructor
  · rintro ⟨ps, hps, h⟩
    obtain ⟨d, hd, h⟩ := bind_eq_ok.1 h
    unfold checkDocument at hd
    split at hd
    · next d hc =>
      cases h
      exact ⟨ps, d, hps, hc, rfl⟩
    · cases hd
  · rintro ⟨ps, d, hps, hd, rfl⟩
    refine ⟨ps, hps, ?_⟩
    simp only [checkDocument, hd]
    rfl

/-- What a compilation and its document come to can be computed. -/
theorem exists_of_run {α : Type} {g : Artifact → Draft7.Compiled → α} {r : α}
    (h : ((c.compile e).toOption.bind fun a =>
      (Draft7.Compiled.compile a.schema).toOption.map (g a)) = some r) :
    ∃ a d, c.compile e = .ok a ∧ Draft7.Compiled.compile a.schema = .ok d ∧ g a d = r := by
  obtain ⟨a, ha, h⟩ := Option.bind_eq_some_iff.1 h
  obtain ⟨d, hd, h⟩ := Option.map_eq_some_iff.1 h
  exact ⟨a, d, toOption_eq_some.1 ha, toOption_eq_some.1 hd, h⟩

/-- The document of a compiled entity, with the schemas of its properties. -/
theorem schema_of_compile (h : c.compile e = .ok a) : ∃ schemas d,
    a.schema = .obj (e.documentMembers schemas) ∧ Draft7.Compiled.compile a.schema = .ok d ∧
    a.properties? = some schemas ∧ Members.keys schemas = Members.keys a.columns ∧
    Members.keys a.columns = Members.keys e.properties := by
  obtain ⟨ps, d, hps, hd, rfl⟩ := compile_eq_ok.1 h
  refine ⟨_, d, Entity.document_eq .., hd, ?_, ?_, ?_⟩
  · simp [Artifact.properties?, Entity.document_eq, Json.get?, Json.obj?,
      Entity.get?_documentMembers]
  · rw [Members.keys_map Property.schema, Members.keys_map Property.column]
  · rw [Members.keys_map Property.column]
    exact (Members.get?_of_mapM hps).1

/-- Both halves of a property of a compiled entity, as it was split. -/
theorem property_of_compile (h : c.compile e = .ok a) {name : String} {f : Fragment}
    (hf : Members.get? e.properties name = some f) : ∃ p : Property,
      Property.split c.catalog c.json f (e.isRequired name) = .ok p ∧
      Members.get? a.columns name = some p.column ∧ a.schemaAt name = some p.schema := by
  obtain ⟨ps, d, hps, hd, rfl⟩ := compile_eq_ok.1 h
  obtain ⟨p, hp, hsplit⟩ := (Members.get?_of_mapM hps).2 name f hf
  refine ⟨p, mapError_eq_ok.1 hsplit, ?_, ?_⟩
  · rw [Members.get?_map Property.column, hp]
    rfl
  · simp [Artifact.schemaAt, Artifact.properties?, Entity.document_eq, Json.get?, Json.obj?,
      Entity.get?_documentMembers, Members.get?_map Property.schema, hp]

end Compiler

/-- What a compilation and one of its columns come to can be computed. -/
theorem exists_of_columnRun {α : Type} {c : Compiler} {e : Entity} {k : String} {g : Column → α}
    {r : α} (h : ((c.compile e).toOption.bind fun a =>
      (Members.get? a.columns k).map g) = some r) :
    ∃ a column, c.compile e = .ok a ∧ Members.get? a.columns k = some column ∧ g column = r := by
  obtain ⟨a, ha, h⟩ := Option.bind_eq_some_iff.1 h
  obtain ⟨column, hc, h⟩ := Option.map_eq_some_iff.1 h
  exact ⟨a, column, toOption_eq_some.1 ha, hc, h⟩

/-- What a column comes to can be computed from its fragment. -/
theorem exists_of_splitRun {α : Type} {c : Compiler} {e : Entity} {a : Artifact} {k : String}
    {f : Fragment} {g : Column → α} {r : α} (h : c.compile e = .ok a)
    (hf : Members.get? e.properties k = some f)
    (hr : (Property.split c.catalog c.json f (e.isRequired k)).toOption.map (g ·.column) = some r) :
    ∃ column, Members.get? a.columns k = some column ∧ g column = r := by
  obtain ⟨x, hsplit, hcolumn, -⟩ := Compiler.property_of_compile h hf
  rw [hsplit] at hr
  exact ⟨x.column, hcolumn, Option.some.inj hr⟩

/-- What the schema of a property says, compiled on its own, can be computed. -/
theorem exists_of_schemaRun {α : Type} {c : Compiler} {e : Entity} {k : String}
    {g : Draft7.Compiled → α} {r : α} (h : ((c.compile e).toOption.bind fun a =>
      (a.schemaAt k).bind fun s => (Draft7.Compiled.compile s).toOption.map g) = some r) :
    ∃ a s d, c.compile e = .ok a ∧ a.schemaAt k = some s ∧ Draft7.Compiled.compile s = .ok d ∧
      g d = r := by
  obtain ⟨a, ha, h⟩ := Option.bind_eq_some_iff.1 h
  obtain ⟨s, hs, h⟩ := Option.bind_eq_some_iff.1 h
  obtain ⟨d, hd, h⟩ := Option.map_eq_some_iff.1 h
  exact ⟨a, s, d, toOption_eq_some.1 ha, hs, toOption_eq_some.1 hd, h⟩

end EntitySchema
