import EntitySchema.Proofs.Property.Derivation
import EntitySchema.Proofs.Json.Nesting
import EntitySchema.Proofs.Settings.Names
import EntitySchema.Proofs.TypeExpr.Extension

/-!
# Further names of storage types

A name that is registered in addition takes nothing away: settings that make sense still do, and an
entity that compiles has the same artifact (`new_type_is_conservative`). Every stage carries its
successes over to a larger catalog, because each of them passes a failed look-up on as an error, and
the stages that do not look anything up are the same.
-/

namespace EntitySchema

variable {c c' : Catalog} {json : StorageType} {s : Settings} {k k' : Compiler}

/-! ## Properties -/

namespace Resolution

theorem named_carries (h : c.ExtendedBy c') (path declared : String) :
    Carries (named c path declared) (named c' path declared) :=
  fun _ ht => named_eq_ok.2 (h.resolve? (named_eq_ok.1 ht))

theorem ofDeclared_carries (h : c.ExtendedBy c') (declared : Option Json) (schema : Members) :
    Carries (ofDeclared c json declared schema) (ofDeclared c' json declared schema) := by
  unfold ofDeclared
  split
  · exact .refl _
  · split
    · exact .refl _
    · split
      · exact named_carries h _ _
      · exact (named_carries h _ _).bind fun _ => .refl _
  · exact .refl _

theorem ofUnion_carries (h : c.ExtendedBy c') (keyword : String) (branches : List Json) :
    Carries (ofUnion c json keyword branches) (ofUnion c' json keyword branches) := by
  unfold ofUnion
  dsimp only
  split
  · exact .refl _
  · split
    · exact .refl _
    · split
      · exact .refl _
      · split
        · exact ofDeclared_carries h _ _
        · exact .refl _

theorem derive_carries (h : c.ExtendedBy c') (schema : Members) :
    Carries (derive c json schema) (derive c' json schema) := by
  unfold derive
  split
  · exact (named_carries h _ _).bind fun _ => .refl _
  · split
    · exact (ofUnion_carries h _ _).bind fun _ => .refl _
    · exact (ofDeclared_carries h _ _).bind fun _ => .refl _

end Resolution

theorem resolve_carries (h : c.ExtendedBy c') (schema : Members) (explicit : Option TypeRef) :
    Carries (resolve c json schema explicit) (resolve c' json schema explicit) := by
  unfold resolve
  split
  · exact (TypeRef.eval_carries h _).bind fun _ => .refl _
  · exact Resolution.derive_carries h schema

namespace Property

theorem givenDefault_carries (h : c.ExtendedBy c') (v : Json) :
    Carries (givenDefault c v) (givenDefault c' v) := by
  unfold givenDefault
  refine (Carries.refl _).bind fun d => ?_
  cases d with
  | none => exact .refl _
  | some d => exact (Descriptor.eval_carries h d).bind fun _ => .refl _

theorem defaultOf_carries (h : c.ExtendedBy c') (given : Option Json) (validation : Members)
    (t : StorageType) (allowNull : Bool) :
    Carries (defaultOf c given validation t allowNull)
      (defaultOf c' given validation t allowNull) := by
  unfold defaultOf
  split
  · exact (givenDefault_carries h _).bind fun _ => .refl _
  · exact .refl _

theorem split_carries (h : c.ExtendedBy c') (f : Fragment) (required : Bool) :
    Carries (split c json f required) (split c' json f required) :=
  (Carries.refl _).bind fun _ => (resolve_carries h _ _).bind fun _ =>
    (defaultOf_carries h _ _ _ _).bind fun _ => .refl _

end Property

/-! ## Compilers and settings -/

namespace Compiler

/-- Whether another compiler has a larger catalog and keeps objects and arrays alike. -/
structure ExtendedBy (k k' : Compiler) : Prop where
  catalog : k.catalog.ExtendedBy k'.catalog
  json : k.json = k'.json

theorem compile_carries (h : k.ExtendedBy k') (e : Entity) :
    Carries (k.compile e) (k'.compile e) := by
  have normalized : Carries (k.normalize e) (k'.normalize e) := .mapM fun p _ =>
    .bind (h.json ▸ (Property.split_carries h.catalog p.2 _).mapError) fun _ => .refl _
  exact (normalized.bind fun _ => .refl _).mapError

end Compiler

namespace Settings

/-- Settings with a further name of a storage type. -/
def withType (s : Settings) (name : String) (cls : TypeClass) : Settings :=
  { s with customTypes := Members.insert s.customTypes name cls }

theorem catalog_withType {name : String} (h : name ∉ s.catalog.names) (cls : TypeClass) :
    (s.withType name cls).catalog = s.catalog.register name cls := by
  have fresh : name ∉ Members.keys s.customTypes := fun hmem => h (mem_names_catalog.2 (.inr hmem))
  unfold catalog withType
  rw [Members.insert_of_not_mem fresh, List.foldl_append]
  rfl

theorem extendedBy_withType {name : String} (h : name ∉ s.catalog.names) (cls : TypeClass) :
    s.catalog.ExtendedBy (s.withType name cls).catalog := by
  rw [catalog_withType h]
  exact Catalog.extendedBy_register h cls

theorem Gives.withType {name : String} (h : s.Gives json) (hname : isTypeName name = true)
    (hnew : name ∉ s.catalog.names) (cls : TypeClass) : (s.withType name cls).Gives json := by
  have extended := extendedBy_withType hnew cls
  refine ⟨fun t ht => ?_, fun f hf r hr => ?_, extended.resolve? h.resolved, h.isJson⟩
  · rcases Members.mem_of_mem_insert ht with rfl | ht
    · exact hname
    · exact h.names t ht
  · obtain ⟨t, ht⟩ := h.schemas f hf r hr
    exact ⟨t, TypeRef.eval_carries extended r t ht⟩

end Settings

/-- **A further name of a storage type** is conservative: settings that give a compiler still give
one, and it makes the same of every entity that compiled before. -/
theorem new_type_is_conservative {name : String} (hk : Compiler.ofSettings s = .ok k)
    (hname : Settings.isTypeName name = true) (hnew : name ∉ s.catalog.names) (cls : TypeClass) :
    ∃ k', Compiler.ofSettings (s.withType name cls) = .ok k' ∧
      ∀ e a, k.compile e = .ok a → k'.compile e = .ok a := by
  obtain ⟨hcatalog, hgives⟩ := Compiler.ofSettings_eq_ok.1 hk
  refine ⟨⟨(s.withType name cls).catalog, k.json⟩,
    Compiler.ofSettings_eq_ok.2 ⟨rfl, hgives.withType hname hnew cls⟩, ?_⟩
  exact Compiler.compile_carries ⟨hcatalog ▸ Settings.extendedBy_withType hnew cls, rfl⟩

/-- Settings with a storage type of their own and a schema that has it. -/
def Settings.labelled : Settings where
  customTypes := [("LTREE", .string)]
  extraSchemas := [("Path", ⟨some (.name "LTREE"), [("type", .str "string")]⟩)]

/-- An array of what has the storage type of these settings. -/
def Fragment.labels : Fragment :=
  ⟨some (.expr ⟨"ARRAY", [.schema ⟨some (.name "LTREE"), []⟩], {}⟩), [("type", .str "array")]⟩

theorem further_type_keeps_labels : ∃ k k' a, Compiler.ofSettings .labelled = .ok k ∧
    Compiler.ofSettings (Settings.labelled.withType "CUBE" .other) = .ok k' ∧
    k.compile (.ofFragment .labels) = .ok a ∧ k'.compile (.ofFragment .labels) = .ok a := by
  have run : ((Compiler.ofSettings .labelled).toOption.bind fun k =>
      (k.compile (.ofFragment .labels)).toOption).isSome = true := by decide +kernel
  obtain ⟨a, run⟩ := Option.isSome_iff_exists.1 run
  obtain ⟨k, hk, ha⟩ := Option.bind_eq_some_iff.1 run
  have wellFormed : Settings.isTypeName "CUBE" = true := by decide
  obtain ⟨k', hk', keeps⟩ :=
    new_type_is_conservative (toOption_eq_some.1 hk) wellFormed (by decide +kernel) .other
  exact ⟨k, k', a, toOption_eq_some.1 hk, hk', toOption_eq_some.1 ha,
    keeps _ _ (toOption_eq_some.1 ha)⟩

end EntitySchema
