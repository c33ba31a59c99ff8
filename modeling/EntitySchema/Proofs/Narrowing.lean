import EntitySchema.Proofs.Draft7.Places
import EntitySchema.Proofs.Draft7.Portable
import EntitySchema.Proofs.Entity.Compilation
import EntitySchema.Proofs.Requests

/-!
# Narrowed validators

A model checks one property in three ways: alone, in a closed object of its own, and as a column.
Each of them compiles the schema of the property apart from the document it was written in. Without
references in it all three mean the same, and what the document means unless another keyword of it
looks at the property (`narrowed_validators_agree`). A reference is looked up in the narrowed schema
instead, where it may lead nowhere, and the other keywords are not part of the narrowed schema
(`narrowed_validators_differ`).
-/

namespace EntitySchema

open Draft7 (Compiled NoReferences Portable SilentAt)

/-! ## The schema of a property in its document -/

section
variable {c : Compiler} {e : Entity} {a : Artifact} {p : String} {s v : Json}

theorem portable_property_of_compile (h : c.compile e = .ok a)
    (href : Members.get? e.rest "$ref" = none) (hs : a.schemaAt p = some s)
    (hr : NoReferences s) : Portable s := by
  obtain ⟨schemas, d, hschema, hd, hproperties, -, -⟩ := Compiler.schema_of_compile h
  rw [Artifact.schemaAt, hproperties] at hs
  rw [hschema] at hd
  exact Draft7.portable_property hd (Entity.closedObject_document href schemas)
    (Members.mem_of_get? hs) hr

/-- The document of an entity has no failures at a property just when the schema of the property has
nothing against the value and the rest of the document leaves the property alone. -/
theorem silentAt_property (h : c.compile e = .ok a) (href : Members.get? e.rest "$ref" = none)
    (hs : a.schemaAt p = some s) (hr : NoReferences s) (f : Draft7.Guide Draft7.Verdict) (q : Pointer) :
    ∃ d, Compiled.compile a.schema = .ok d ∧ ∀ v, SilentAt p (d.failures (.obj [(p, v)])) ↔
      Draft7.check f s q v = [] ∧ d.LeavesAlone p v := by
  obtain ⟨schemas, d, hschema, hd, hproperties, -, -⟩ := Compiler.schema_of_compile h
  rw [Artifact.schemaAt, hproperties] at hs
  have root : d.root = .obj (e.documentMembers schemas) :=
    (Compiled.root_of_compile hd).trans hschema
  have document := Entity.closedObject_document href schemas
  exact ⟨d, hd, fun v => Compiled.silentAt_failures_iff root document hs hr f q⟩

/-- A document leaves a property alone if the entity brings no keyword that could look at it. -/
theorem leavesAlone_of_rest (h : c.compile e = .ok a) {d : Compiled}
    (hd : Compiled.compile a.schema = .ok d)
    (hkeywords : ∀ k ∈ ["dependencies", "allOf", "if"], Members.get? e.rest k = none)
    (hpatterns : ∀ m ∈ Draft7.objectAt e.rest "patternProperties",
      Draft7.keyMatches m.1 p = false) : d.LeavesAlone p v := by
  obtain ⟨schemas, -, hschema, -, -, -, -⟩ := Compiler.schema_of_compile h
  rw [Compiled.LeavesAlone, Compiled.root_of_compile hd, hschema]
  refine Draft7.leavesAlone_of_absent (List.filter_eq_nil_iff.2 fun m hm => ?_) fun k hk => ?_
  · rw [Json.obj?, Option.getD_some, Draft7.objectAt,
      Entity.get?_documentMembers_of_option (by decide) (by decide)] at hm
    rw [hpatterns m hm]
    exact Bool.false_ne_true
  · rw [Json.obj?, Option.getD_some, Entity.get?_documentMembers_of_option, hkeywords k hk]
    all_goals revert k; decide

end

/-! ## Validators -/

section
variable {m : Model} {p : String} {s : Json} {x : Validator}

theorem schemaOf_of_schemaAt (h : m.artifact.schemaAt p = some s) : m.schemaOf p = .ok s := by
  rw [Artifact.schemaAt] at h
  rw [Model.schemaOf, h]
  rfl

theorem grants_propValidator (hm : m.Faithful) (hp : p ≠ "") (hs : m.schemaOf p = .ok s)
    (hx : Validator.compile s (some p) = .ok x) : Model.Grants (m.propValidator p) x := by
  have nonempty : ¬ p.isEmpty = true := by simpa using hp
  unfold Model.propValidator
  rw [if_neg nonempty, hs]
  exact Model.grants_fetch hm (Model.sourceOf_prop hs) hx

theorem ofNames_singleton (name : String) : ValidatorKey.ofNames [name] = .props [name] := by
  rw [ValidatorKey.ofNames, List.mergeSort_singleton]
  rfl

theorem schemasOf_singleton (hs : m.schemaOf p = .ok s) : m.schemasOf [p] = .ok [(p, s)] := by
  rw [Model.schemasOf, List.mapM_cons, hs]
  rfl

theorem grants_propsValidator (hm : m.Faithful) (hs : m.schemaOf p = .ok s)
    (hx : Validator.compile (Document.closed [p] [(p, s)]) none = .ok x) :
    Model.Grants (m.propsValidator [p]) x := by
  have hschemas := schemasOf_singleton hs
  unfold Model.propsValidator
  rw [if_neg (by simp), ofNames_singleton]
  simp only [ValidatorKey.names, hschemas]
  exact Model.grants_fetch hm (Model.sourceOf_props hschemas) hx

theorem validateColumn_eq (hm : m.Faithful) (hs : m.schemaOf p = .ok s)
    (hx : Validator.compile s (some (m.instanceName ++ "." ++ p)) = .ok x) (v : Json) :
    (m.validateColumn p v).1 = (x.validate v).mapError .invalid := by
  unfold Model.validateColumn
  rw [hs]
  exact Model.checkWith_of_grants (Model.grants_fetch hm (Model.sourceOf_column hs) hx) v

end

/-- **Narrowed validators.** The three ways to check a property can always be set up, and they
accept the same values. The document has no failures at a property just when they accept its value
and the rest of the document leaves the property alone. -/
theorem narrowed_validators_agree {c : Compiler} {e : Entity} {m m' : Model}
    (h : c.define e = .ok m) (hm : m.Reaches m') (href : Members.get? e.rest "$ref" = none)
    {p : String} (hp : p ≠ "") {s : Json} (hs : m.artifact.schemaAt p = some s)
    (hr : NoReferences s) :
    ∃ d x y, Compiled.compile m.artifact.schema = .ok d ∧
      Model.Grants (m'.propValidator p) x ∧ Model.Grants (m'.propsValidator [p]) y ∧ ∀ v,
        (x.compiled.accepts v = true ↔ (m'.validateColumn p v).1 = .ok ()) ∧
        (y.compiled.accepts (.obj [(p, v)]) = true ↔ (m'.validateColumn p v).1 = .ok ()) ∧
        (∀ error, (m'.validateColumn p v).1 ≠ .error (.schema error)) ∧
        (SilentAt p (d.failures (.obj [(p, v)])) ↔
          (m'.validateColumn p v).1 = .ok () ∧ d.LeavesAlone p v) := by
  have faithful := hm.keeps.2 (Compiler.faithful_of_define h)
  have schema : m'.schemaOf p = .ok s := schemaOf_of_schemaAt (by rw [hm.keeps.1, hs])
  obtain ⟨a, hcompile, rfl⟩ := Compiler.define_eq_ok.1 h
  have portable := portable_property_of_compile hcompile href hs hr
  have closed : Portable (Document.closed [p] [(p, s)]) :=
    Draft7.portable_closed (by simp) (by simpa using portable)
  obtain ⟨alone, halone⟩ := portable.compiles
  obtain ⟨record, hrecord⟩ := closed.compiles
  -- The three validators differ in their labels and in whether the schema is wrapped up.
  have compiles {schema : Json} {d : Compiled} (hd : Compiled.compile schema = .ok d)
      (label : Option String) : Validator.compile schema label = .ok ⟨d, label⟩ := by
    rw [Validator.compile, hd]
    rfl
  have column := validateColumn_eq faithful schema (compiles halone _)
  have passes (v : Json) : (m'.validateColumn p v).1 = .ok () ↔ alone.accepts v = true := by
    rw [column v, mapError_eq_ok, Validator.validate_eq_ok]
  have own (v : Json) : alone.accepts v = true ↔
      Draft7.within .silent s [.key "properties", .key p] v = [] :=
    Compiled.accepts_iff_of_noReferences halone hr _ _
  obtain ⟨d, hd, hdocument⟩ := silentAt_property hcompile href hs hr (Draft7.Guide.silent.enter s)
    [.key "properties", .key p]
  refine ⟨d, ⟨alone, some p⟩, ⟨record, none⟩, hd,
    grants_propValidator faithful hp schema (compiles halone _),
    grants_propsValidator faithful schema (compiles hrecord _), fun v => ⟨?_, ?_, ?_, ?_⟩⟩
  · exact (passes v).symm
  · rw [passes, own]
    exact (Compiled.accepts_iff_of_noReferences hrecord closed.noReferences _ []).trans
      Draft7.check_closed_singleton
  · intro error
    rw [column v]
    cases Validator.validate _ v with
    | error report => exact fun h => by cases h
    | ok u => exact fun h => by cases h
  · rw [hdocument v, passes, own]
    rfl

theorem narrowed_string_agrees : ∃ m d x y,
    Compiler.standard.define (.withString "minProperties" (.num (.int 1))) = .ok m ∧
    Compiled.compile m.artifact.schema = .ok d ∧
    Model.Grants (m.propValidator "p") x ∧ Model.Grants (m.propsValidator ["p"]) y ∧ ∀ v,
      (x.compiled.accepts v = true ↔ y.compiled.accepts (.obj [("p", v)]) = true) ∧
      ((m.validateColumn "p" v).1 = .ok () ↔ SilentAt "p" (d.failures (.obj [("p", v)]))) := by
  have run : (Compiler.standard.define (.withString "minProperties"
      (.num (.int 1)))).toOption.map (·.artifact.schemaAt "p") =
        some (some (.obj [("type", .str "string")])) := by decide +kernel
  obtain ⟨m, hm, hs⟩ := Option.map_eq_some_iff.1 run
  obtain ⟨d, x, y, hd, hx, hy, h⟩ := narrowed_validators_agree (toOption_eq_some.1 hm) ⟨[], rfl⟩ rfl
    (by decide) hs (Draft7.noReferences_of_allHeld rfl)
  obtain ⟨a, hcompile, rfl⟩ := Compiler.define_eq_ok.1 (toOption_eq_some.1 hm)
  have alone (v : Json) : d.LeavesAlone "p" v := leavesAlone_of_rest hcompile hd (by decide) nofun
  refine ⟨_, d, x, y, toOption_eq_some.1 hm, hd, hx, hy, fun v => ?_⟩
  obtain ⟨hprop, hprops, -, hsilent⟩ := h v
  exact ⟨hprop.trans hprops.symm, (hsilent.trans (and_iff_left (alone v))).symm⟩

/-- An entity whose property refers to a definition. -/
def Entity.referring : Entity :=
  (Entity.ofFragment (.ofKeywords [("type", .str "string"),
    ("$ref", .str "#/definitions/a")])).setOption "definitions"
      (.obj [("a", .obj [("type", .str "string")])])

/-- An entity that asks more of its property in another place. -/
def Entity.refining : Entity :=
  .withString "allOf"
    (.arr [.obj [("properties", .obj [("p", .obj [("minLength", .num (.int 2))])])]])

/-- An entity whose document is a reference. -/
def Entity.replaced : Entity := .withString "$ref" (.str "#/properties/p")

/-- A reference in a property may lead nowhere in the narrowed schema. A further keyword may refuse
a value that the narrowed schema accepts, and a reference for the whole document may be silent about
one that it refuses. -/
theorem narrowed_validators_differ :
    (∃ m error, Compiler.standard.define .referring = .ok m ∧
      (m.propValidator "p").1 = .error error) ∧
    (∃ m d, Compiler.standard.define .refining = .ok m ∧
      Compiled.compile m.artifact.schema = .ok d ∧ (m.validateColumn "p" (.str "a")).1.isOk = true ∧
      ¬ SilentAt "p" (d.failures (.obj [("p", .str "a")]))) ∧
    (∃ m d, Compiler.standard.define .replaced = .ok m ∧
      Compiled.compile m.artifact.schema = .ok d ∧ (m.validateColumn "p" .null).1.isOk = false ∧
      SilentAt "p" (d.failures (.obj [("p", .null)]))) := by
  refine ⟨?_, ?_, ?_⟩
  · obtain ⟨a, -, ha, -, error⟩ := Compiler.exists_of_run (c := .standard) (e := .referring)
      (g := fun a _ => ((Model.mk a .empty).propValidator "p").1.isOk) (r := false)
      (by decide +kernel)
    cases hp : ((Model.mk a .empty).propValidator "p").1 with
    | error error => exact ⟨_, error, Compiler.define_eq_ok.2 ⟨a, ha, rfl⟩, hp⟩
    | ok handle =>
      rw [hp] at error
      cases error
  · obtain ⟨a, d, ha, hd, run⟩ := Compiler.exists_of_run (c := .standard) (e := .refining)
      (g := fun a d => (((Model.mk a .empty).validateColumn "p" (.str "a")).1.isOk,
        (d.failures (.obj [("p", .str "a")])).map (·.instancePath)))
      (r := (true, [[.key "p"]])) (by decide +kernel)
    obtain ⟨accepted, paths⟩ := Prod.mk.inj run
    refine ⟨_, d, Compiler.define_eq_ok.2 ⟨a, ha, rfl⟩, hd, accepted, fun hsilent => ?_⟩
    obtain ⟨x, hx, hpath⟩ := List.mem_map.1 (paths ▸ List.mem_singleton_self [Step.key "p"])
    exact hsilent x hx (hpath ▸ List.prefix_rfl)
  · obtain ⟨a, d, ha, hd, run⟩ := Compiler.exists_of_run (c := .standard) (e := .replaced)
      (g := fun a d => (((Model.mk a .empty).validateColumn "p" .null).1.isOk,
        (d.failures (.obj [("p", .null)])).map (·.instancePath)))
      (r := (false, [[]])) (by decide +kernel)
    obtain ⟨refused, paths⟩ := Prod.mk.inj run
    refine ⟨_, d, Compiler.define_eq_ok.2 ⟨a, ha, rfl⟩, hd, refused, fun x hx => ?_⟩
    have root : x.instancePath = [] := by
      simpa [paths] using List.mem_map_of_mem (f := (·.instancePath)) hx
    rw [root]
    decide

end EntitySchema
