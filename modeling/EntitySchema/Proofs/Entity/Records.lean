import EntitySchema.Proofs.Draft7.Keywords
import EntitySchema.Proofs.Entity.Compilation

/-!
# Records and columns

The document of an entity is a closed object that lists a property for each column. Further keywords
of the entity go into the document as they are, and two of them open it up: a pattern of
`patternProperties` admits keys that no column has, and a `$ref` takes the place of the whole
document. Nothing else does (`accepted_record_has_columns`).
-/

namespace EntitySchema

variable {c : Compiler} {e : Entity} {a : Artifact}

/-- **Records and columns.** A record that the document of an entity accepts is an object, and each
of its keys is the name of a column or matches a pattern that the entity brings along, unless the
entity brings a reference for the whole document. -/
theorem accepted_record_has_columns (h : c.compile e = .ok a)
    (href : Members.get? e.rest "$ref" = none) :
    ∃ d, Draft7.Compiled.compile a.schema = .ok d ∧ ∀ v, d.accepts v = true →
      ∃ ms, v = .obj ms ∧ ∀ k ∈ Members.keys ms, k ∈ Members.keys a.columns ∨
        ∃ pattern ∈ Members.keys (Draft7.objectAt e.rest "patternProperties"),
          Draft7.keyMatches pattern k = true := by
  obtain ⟨schemas, d, hschema, hd, -, hkeys, -⟩ := Compiler.schema_of_compile h
  have document := Entity.closedObject_document href schemas
  refine ⟨d, hd, fun v hv => ?_⟩
  rw [d.accepts_eq, Draft7.Compiled.root_of_compile hd, hschema, Draft7.Scope.admits_iff []] at hv
  have typed := Draft7.memberCheck_eq_nil document.held hv (k := "type") (w := .str "object")
    (by simp [Entity.get?_documentMembers])
  rw [Draft7.memberCheck_type, Draft7.typeCheck_str_eq_nil, Draft7.hasType_object] at typed
  obtain ⟨ms, rfl⟩ := typed
  refine ⟨ms, rfl, fun k hk => ?_⟩
  have closed := Draft7.memberCheck_eq_nil document.held hv document.closed
  rw [Draft7.memberCheck_closed document, List.append_eq_nil_iff, Draft7.report_eq_nil,
    List.isEmpty_iff] at closed
  obtain ⟨w, hw⟩ := Members.exists_get?_of_mem_keys hk
  have known : (k, w) ∉ Draft7.strangers (e.documentMembers schemas) ms :=
    List.eq_nil_iff_forall_not_mem.1 closed.2 _
  rw [Draft7.mem_strangers, document.objectAt, hkeys, not_and, not_and] at known
  have known := known (Members.mem_of_get? hw)
  by_cases hcol : k ∈ Members.keys a.columns
  · exact .inl hcol
  · right
    obtain ⟨m, hm⟩ := List.exists_mem_of_ne_nil _ (known hcol)
    obtain ⟨hm, hmatch⟩ := List.mem_filter.1 hm
    refine ⟨m.1, Members.mem_keys_of_mem ?_, hmatch⟩
    rwa [Draft7.objectAt, Entity.get?_documentMembers_of_option (by decide) (by decide)] at hm

/-- An entity with one column, and a pattern for keys that it has no column for. -/
def Entity.patterned : Entity := .withString "patternProperties" (.obj [("^x", .obj [])])

theorem patterned_record_has_columns : ∃ a d, Compiler.standard.compile .patterned = .ok a ∧
    Draft7.Compiled.compile a.schema = .ok d ∧ ∀ v, d.accepts v = true →
      ∃ ms, v = .obj ms ∧ ∀ k ∈ Members.keys ms, k ∈ Members.keys a.columns ∨
        ∃ pattern ∈ ["^x"], Draft7.keyMatches pattern k = true := by
  obtain ⟨a, ha⟩ := exists_of_isOk (x := Compiler.standard.compile .patterned) (by decide +kernel)
  obtain ⟨d, hd, h⟩ := accepted_record_has_columns ha rfl
  exact ⟨a, d, ha, hd, h⟩

/-- An entity whose document is a reference to a schema that accepts everything. -/
def Entity.opened : Entity :=
  (Entity.withString "definitions" (.obj [("any", .obj [])])).setOption "$ref"
    (.str "#/definitions/any")

/-- A pattern of the entity admits a field without a column, and a reference may even admit a value
that is no object. -/
theorem accepted_record_without_columns :
    (∃ a d, Compiler.standard.compile .patterned = .ok a ∧
      Draft7.Compiled.compile a.schema = .ok d ∧
      d.accepts (.obj [("p", .str ""), ("x", .null)]) = true ∧ "x" ∉ Members.keys a.columns) ∧
    ∃ a d, Compiler.standard.compile .opened = .ok a ∧
      Draft7.Compiled.compile a.schema = .ok d ∧ d.accepts .null = true := by
  constructor
  · obtain ⟨a, d, ha, hd, run⟩ := Compiler.exists_of_run (c := .standard) (e := .patterned)
      (g := fun a d => (d.accepts (.obj [("p", .str ""), ("x", .null)]), Members.keys a.columns))
      (r := (true, ["p"])) (by decide +kernel)
    obtain ⟨hv, hcolumns⟩ := Prod.mk.inj run
    exact ⟨a, d, ha, hd, hv, by rw [hcolumns]; decide⟩
  · exact Compiler.exists_of_run (c := .standard) (e := .opened) (g := fun _ d => d.accepts .null)
      (by decide +kernel)

end EntitySchema
