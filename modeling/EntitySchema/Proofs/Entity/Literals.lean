import EntitySchema.Proofs.Entity.Stability
import EntitySchema.Proofs.Property.Derivation
import EntitySchema.Proofs.Settings
import EntitySchema.Proofs.TypeExpr.Literals

/-!
# Objects in storage types

No storage type has an object among its literals, at any depth, except where an argument of the
reference it comes from is malformed (`literal_objects_are_malformed`). This goes for a reference on
its own, for an expression that is given as a default, and for the storage types of columns: a type
that is derived from a schema has at most a number as an argument.
-/

namespace EntitySchema

variable {v : Json}

/-- What stands for the storage type of a property in the Json of an entity. -/
def Entity.propertyType? (v : Json) (name : String) : Option Json :=
  (Entity.property? v name).bind (·.get? "dataType")

theorem StorageType.not_hasLiteral_obj {t : StorageType} {o : Members}
    (h : t.args = [] ∨ ∃ n, t.args = [.literal (.num n)]) : ¬t.HasLiteral (.obj o) := by
  rintro (hx | ⟨hs, -⟩) <;> obtain h | ⟨n, h⟩ := h <;> simp_all

theorem Descriptor.decode_of_ofJson? {d : Descriptor} (h : Descriptor.ofJson? v = .ok (some d)) :
    Descriptor.decode v = .ok d := by
  unfold Descriptor.ofJson? at h
  split at h
  · cases h
  · split at h
    · next hd =>
      cases h
      exact hd
    · cases h

/-- The storage type of a column comes from what stands for it in the Json of the entity, or else
has at most a number as an argument. -/
theorem Column.type_of_compile {s : Settings} {k : Compiler} {e : Entity} {a : Artifact}
    {name : String} {column : Column} (hv : v.Settled) (hk : Compiler.ofSettings s = .ok k)
    (he : Entity.decode v = .ok e) (ha : k.compile e = .ok a)
    (hc : Members.get? a.columns name = some column) :
    (∃ w r, Entity.propertyType? v name = some w ∧ w.Settled ∧ TypeRef.decode w = .ok r ∧
      r.eval k.catalog = .ok column.type) ∨
    (∀ w, Entity.propertyType? v name = some w → w = .null) ∧
      (column.type.args = [] ∨ ∃ n, column.type.args = [.literal (.num n)]) := by
  obtain ⟨f, hf⟩ : ∃ f, Members.get? e.properties name = some f := by
    obtain ⟨-, -, -, -, -, -, hkeys⟩ := Compiler.schema_of_compile ha
    exact Members.exists_get?_of_mem_keys (hkeys ▸ Members.mem_keys_of_get? hc)
  obtain ⟨p, hp, hcolumn, -⟩ := Compiler.property_of_compile ha hf
  obtain ⟨r, hr, htype, -⟩ := Property.split_eq_ok hp
  obtain rfl : column = p.column := Option.some.inj (hc.symm.trans hcolumn)
  obtain ⟨x, hx, hread⟩ := Entity.property_of_decode hv he hf
  have settled : x.Settled := by
    obtain ⟨w, hw, hx⟩ := Option.bind_eq_some_iff.1 hx
    exact (hv.of_get? hw).of_get? hx
  have place : Entity.propertyType? v name = x.get? "dataType" := by
    rw [Entity.propertyType?, hx, Option.bind_some]
  obtain ⟨ms, rfl, hread, -⟩ := Fragment.decode_eq_ok settled hread
  rw [place, htype]
  rcases TypeRef.read?_eq_ok hread with ⟨hnull, hnone⟩ | ⟨w, r', hw, hsome, hdecode⟩
  · -- The type is derived, and the only one not made here is the type of objects and arrays.
    rw [hnone] at hr
    have uncalled := Catalog.args_of_resolve? (Compiler.ofSettings_eq_ok.1 hk).2.resolved
    refine .inr ⟨fun w hw => ?_, Resolution.args_of_derive uncalled hr⟩
    rcases hnull with hno | hnull
    · cases hno.symm.trans hw
    · exact Option.some.inj (hw.symm.trans hnull)
  · rw [hsome] at hr
    obtain ⟨t, ht, hr⟩ := bind_eq_ok.1 hr
    cases hr
    exact .inl ⟨w, r', hw, settled.of_get? hw, hdecode, ht⟩

/-- **Objects in storage types.** An object is a literal of a storage type just when it is a
malformed argument of the reference, the expression or the property that the type comes from. -/
theorem literal_objects_are_malformed (hv : v.Settled) :
    (∀ c r t, TypeRef.decode v = .ok r → r.eval c = .ok t → ∀ o, t.HasLiteral (.obj o) ↔
      v.ArgumentOf (.obj o) ∧ (Json.obj o).IsMalformed) ∧
    (∀ c d t, Descriptor.ofJson? v = .ok (some d) → d.eval c = .ok t → ∀ o, t.HasLiteral (.obj o) ↔
      v.ArgumentOf (.obj o) ∧ (Json.obj o).IsMalformed) ∧
    (∀ s k e a name column, Compiler.ofSettings s = .ok k → Entity.decode v = .ok e →
      k.compile e = .ok a → Members.get? a.columns name = some column →
      ∀ o, column.type.HasLiteral (.obj o) ↔ ∃ w, Entity.propertyType? v name = some w ∧
        w.ArgumentOf (.obj o) ∧ (Json.obj o).IsMalformed) := by
  refine ⟨fun c r t hr ht o => TypeRef.hasLiteral_obj hv hr ht, fun c d t hd ht o => ?_,
    fun s k e a name column hk he ha hc o => ?_⟩
  · exact TypeRef.hasLiteral_obj hv (TypeRef.decode_of_expression (Descriptor.decode_of_ofJson? hd))
      (r := .expr d) ht
  · rcases Column.type_of_compile hv hk he ha hc with ⟨w, r, hw, hs, hr, ht⟩ | ⟨hnull, hargs⟩
    · rw [TypeRef.hasLiteral_obj hs hr ht, hw]
      simp only [Option.some.injEq, exists_eq_left']
    · refine ⟨fun h => (StorageType.not_hasLiteral_obj hargs h).elim, ?_⟩
      rintro ⟨w, hw, hx, -⟩
      obtain rfl := hnull w hw
      rcases hx with hy | ⟨hy, -, -⟩ <;> cases hy

/-- An expression for an array of what an argument stands for. -/
def Json.arrayOf (x : Json) : Json :=
  .obj [("kind", .str "DataType"), ("path", .str "ARRAY"), ("args", .arr [x])]

/-- A fragment with a name as its storage type. -/
def Json.dateFragment : Json := .obj [("type", .str "string"), ("dataType", .str "DATE")]

theorem array_of_fragment_has_no_object : ∃ r t,
    TypeRef.decode (.arrayOf .dateFragment) = .ok r ∧ r.eval .standard = .ok t ∧
    ∀ o, ¬t.HasLiteral (.obj o) := by
  have run : ((TypeRef.decode (.arrayOf .dateFragment)).toOption.bind fun r =>
      (r.eval .standard).toOption).isSome = true := by decide +kernel
  obtain ⟨t, run⟩ := Option.isSome_iff_exists.1 run
  obtain ⟨r, hr, ht⟩ := Option.bind_eq_some_iff.1 run
  refine ⟨r, t, toOption_eq_some.1 hr, toOption_eq_some.1 ht, fun o h => ?_⟩
  have settled : (Json.arrayOf .dateFragment).Settled := by decide +kernel
  obtain ⟨hx, -, w, hw, -, hno⟩ := ((literal_objects_are_malformed settled).1 .standard r t
    (toOption_eq_some.1 hr) (toOption_eq_some.1 ht) o).1 h
  rcases hx with hy | ⟨hy, hstands, hx⟩
  · obtain hy := List.mem_singleton.1 hy
    rw [hy] at hw
    cases hw
    exact hno ⟨_, rfl⟩
  · obtain rfl := List.mem_singleton.1 hy
    rcases hstands with ⟨⟨d, hd⟩, -⟩ | ⟨-, hdate, -⟩
    · cases hd
    · cases hdate
      rcases hx with hy | ⟨hy, -, -⟩ <;> cases hy

/-- A malformed object, whose storage type is a number. -/
def Json.numericType : Json := .obj [("dataType", .num (.int 5))]

/-- A malformed argument is no error: the expression around it has a storage type, which has the
object as an argument. -/
theorem malformed_argument_is_literal : ∃ r t,
    TypeRef.decode (.arrayOf .numericType) = .ok r ∧ r.eval .standard = .ok t ∧
    .literal .numericType ∈ t.args :=
  ⟨_, _, rfl, rfl, List.mem_singleton_self _⟩

end EntitySchema
