import EntitySchema.Proofs.Draft7.Portable
import EntitySchema.Proofs.Json.Numbers
import EntitySchema.Proofs.Property.Kinds

/-!
# Lengths of strings

A string column is sized by the maximal length of the members that declare its type: those of the
fragment, or those of the first branch of a union that does not declare null. The members that
declare the type have to let a string pass, so that it is no longer than the column is wide, except
in an `anyOf`: there another branch may let the string pass, and the column does not know about its
maximal length (`sized_column_limits_strings`, `narrow_column_admits_long_string`).
-/

namespace EntitySchema

open Draft7.Meta (IsSchema)

variable {c : Compiler} {e : Entity} {a : Artifact} {name : String} {ms ns : Members} {n : Number}
  {d : Draft7.Scope} {t : String}

/-! ## Schemas of properties -/

/-- The schema of a property of a compiled entity is a schema. -/
theorem Compiler.isSchema_schemaAt (h : c.compile e = .ok a) {s : Json}
    (hs : a.schemaAt name = some s) : IsSchema s := by
  obtain ⟨schemas, d, hschema, hd, hproperties, -, -⟩ := schema_of_compile h
  rw [Artifact.schemaAt, hproperties] at hs
  rw [hschema] at hd
  have listed : Members.get? (e.documentMembers schemas) "properties" = some (.obj schemas) := by
    simp [Entity.get?_documentMembers]
  exact Draft7.isSchema_property hd listed (Members.mem_of_get? hs)

/-- The branches of the unions of a schema are schemas. -/
theorem isSchema_of_decides (hn : Decides ms ns) (h : IsSchema (.obj ms)) : IsSchema (.obj ns) := by
  cases hn with
  | own => exact h
  | @branch k branches ns hk hget hmem =>
    have list : Members.get? Draft7.Meta.keywords k = some Draft7.Meta.schemaArray := by
      obtain rfl | rfl : k = "anyOf" ∨ k = "allOf" := by simpa using hk
      · rfl
      · rfl
    have keyword : IsSchema (.obj [(k, .arr branches)]) :=
      Draft7.Meta.isSchema_obj_iff.1 h k _ hget
    exact Draft7.Meta.isSchema_of_mem_schemaArray list keyword hmem

/-- The keywords of a fragment are a schema when the schema of its property is. -/
theorem isSchema_validation {c : Catalog} {json : StorageType} {f : Fragment} {required : Bool}
    {x : Property} (h : Property.split c json f required = .ok x) (hs : IsSchema x.schema) :
    IsSchema (.obj f.validation) := by
  obtain ⟨-, -, -, -, hschema⟩ := Property.split_eq_ok h
  rw [hschema] at hs
  split at hs
  · have list : Members.get? Draft7.Meta.keywords "anyOf" = some Draft7.Meta.schemaArray := rfl
    exact Draft7.Meta.isSchema_of_mem_schemaArray list hs List.mem_cons_self
  · exact hs

/-! ## Limits -/

/-- The maximal length that a schema object gives is at most `n`. -/
def LimitsTo (ms : Members) (n : Number) : Prop :=
  ∃ l, Members.get? ms "maxLength" = some (.num l) ∧ l.value ≤ n.value

/-- The maximal length that a schema object gives is a whole number that is not negative. -/
theorem isCount_maxLength {w : Json} (hs : IsSchema (.obj ns))
    (hl : Members.get? ns "maxLength" = some w) :
    ∃ l : Number, w = .num l ∧ l.isWhole = true ∧ l.lt (.int 0) = false := by
  have count : Members.get? Draft7.Meta.keywords "maxLength" = some Draft7.Meta.count := rfl
  exact Draft7.Meta.isCount_of_isSchema count (Draft7.Meta.isSchema_obj_iff.1 hs _ _ hl)

/-- A string that passes a schema is no longer than the schema says. -/
theorem length_le_of_limitsTo (hs : IsSchema (.obj ns)) (hr : Members.get? ns "$ref" = none)
    (hd : d.admits (.obj ns) (.str t) = true) (h : LimitsTo ns n) : (t.length : ℚ) ≤ n.value := by
  obtain ⟨l, hl, hle⟩ := h
  obtain ⟨l', heq, hwhole, hsign⟩ := isCount_maxLength hs hl
  obtain rfl : l = l' := Json.num.inj heq
  have nonneg : 0 ≤ l.value := by
    by_contra hneg
    have below : l.lt (.int 0) = true := Number.lt_int_iff.2 (by simpa using hneg)
    rw [hsign] at below
    cases below
  obtain ⟨limit, hlimit⟩ := Number.exists_limit hwhole nonneg
  have bound : t.length ≤ limit :=
    Draft7.memberCheck_maxLength_eq_nil.1 (admits_member hr hd hl) limit hlimit
  calc (t.length : ℚ) ≤ limit := by exact_mod_cast bound
    _ ≤ l.value := Number.limit_le_value hlimit nonneg
    _ ≤ n.value := hle

/-- A path names no sized string. -/
theorem Catalog.resolve?_ne_sized {c : Catalog} {path : String} :
    c.resolve? path ≠ some (.sized n) := by
  intro h
  have noArgs : (StorageType.sized n).args = [] := args_of_resolve? h
  cases noArgs

/-- A string type is sized by the maximal length of the members that declare it. -/
theorem limitsTo_of_sized {c : Catalog} {json : StorageType}
    (h : Resolution.ofDeclared c json (some (.str "string")) ns = .ok (.sized n)) :
    LimitsTo ns n := by
  obtain ⟨u, hu, htype | ⟨l, hl, htype⟩⟩ := Resolution.type_of_string h
  · rw [← htype] at hu
    exact absurd hu Catalog.resolve?_ne_sized
  · cases congrArg StorageType.args htype
    exact ⟨n, hl, le_refl _⟩

/-- **Lengths of strings**: where the storage type is derived from the schema, a string that passes
is no longer than its column is wide, unless a branch of an `anyOf` lets it pass that sets no such
limit. -/
theorem sized_column_limits_strings {f : Fragment} (h : c.compile e = .ok a)
    (hf : Members.get? e.properties name = some f) (htype : f.dataType = none)
    (hdirect : f.Direct) :
    ∃ column s, Members.get? a.columns name = some column ∧ a.schemaAt name = some s ∧
      ∀ n, column.type = .sized n → ∀ (d : Draft7.Scope) t, d.admits s (.str t) = true →
        (t.length : ℚ) ≤ n.value ∨ ¬ LimitsTo f.keywords n ∧ ∃ branches ns,
          f.get? "anyOf" = some (.arr branches) ∧ .obj ns ∈ branches ∧
          (d.enter (.obj f.validation)).admits (.obj ns) (.str t) = true ∧ ¬ LimitsTo ns n := by
  obtain ⟨x, hsplit, hcolumn, hs⟩ := Compiler.property_of_compile h hf
  refine ⟨x.column, x.schema, hcolumn, hs, ?_⟩
  intro n hsized d t hd
  obtain ⟨r, hr, hrtype, -, -⟩ := Property.split_eq_ok hsplit
  rw [htype] at hr
  rw [hrtype] at hsized
  have notNull : Json.str t ≠ .null := by simp
  have passes := admits_validation hsplit notNull hd
  have schema := isSchema_validation hsplit (Compiler.isSchema_schemaAt h hs)
  have limited {scope : Draft7.Scope} {ns : Members} {l : Number} (hn : Decides f.validation ns)
      (hp : scope.admits (.obj ns) (.str t) = true) (hl : LimitsTo ns l) : (t.length : ℚ) ≤ l.value :=
    length_le_of_limitsTo (isSchema_of_decides hn schema) (hdirect.decides hn) hp hl
  refine or_iff_not_imp_left.2 ?_
  intro hlong
  rcases derive_admits hr (fun ns hn => hdirect.decides hn) notNull passes with
    ⟨henum, -⟩ | ⟨declared, ns, hn, hdeclared, hstring, hown⟩
  · rw [hsized] at henum
    exact absurd henum Catalog.resolve?_ne_sized
  · obtain rfl : declared = "string" := by simpa [Draft7.hasType] using hstring
    rw [hsized] at hdeclared
    have own : ¬ LimitsTo f.keywords n := by
      intro hl
      have kept : LimitsTo f.validation n := by
        rw [LimitsTo, f.get?_validation (by decide)]
        exact hl
      exact hlong (limited .own passes kept)
    rcases hown with ⟨scope, hp⟩ | ⟨branches, ns', hget, hmem, hp⟩
    · exact absurd (limited hn hp (limitsTo_of_sized hdeclared)) hlong
    · -- The branch that lets the string pass need not be the one that sizes the column.
      have hn' : Decides f.validation ns' := .branch (by decide) hget hmem
      rw [f.get?_validation (by decide)] at hget
      refine ⟨own, branches, ns', hget, hmem, hp, ?_⟩
      intro hl
      exact hlong (limited hn' hp hl)

/-- Short strings, or values of some other type. -/
def Fragment.shortOr (type : String) : Fragment :=
  .ofKeywords [("anyOf", .arr [.obj [("type", .str "string"), ("maxLength", .num (.int 3))],
    .obj [("type", .str type)]])]

/-- A union with null has one branch for strings, and its limit holds. -/
theorem nullable_union_limits_strings : ∃ a column s d,
    Compiler.standard.compile (.ofFragment (.shortOr "null")) = .ok a ∧
    Members.get? a.columns "p" = some column ∧ column.type = .sized (.int 3) ∧
    a.schemaAt "p" = some s ∧ Draft7.Compiled.compile s = .ok d ∧
    d.accepts (.str "abc") = true ∧ ∀ t, d.accepts (.str t) = true → t.length ≤ 3 := by
  obtain ⟨a, s, d, ha, hs, hd, haccepts⟩ := exists_of_schemaRun (c := .standard)
    (e := .ofFragment (.shortOr "null")) (k := "p") (g := (·.accepts (.str "abc"))) (r := true)
    (by decide +kernel)
  have hf : Members.get? (Entity.ofFragment (.shortOr "null")).properties "p" =
    some (.shortOr "null") := rfl
  have direct : (Fragment.shortOr "null").Direct := Fragment.direct_of_run rfl (by decide)
  obtain ⟨column, hcolumn, htype⟩ := exists_of_splitRun (g := (·.type))
    (r := .sized (.int 3)) ha hf rfl
  obtain ⟨column', s', hcolumn', hs', h⟩ := sized_column_limits_strings ha hf rfl direct
  obtain rfl : column' = column := Option.some.inj (hcolumn'.symm.trans hcolumn)
  obtain rfl : s' = s := Option.some.inj (hs'.symm.trans hs)
  refine ⟨a, column', s', d, ha, hcolumn, htype, hs, hd, haccepts, ?_⟩
  intro t ht
  rw [d.accepts_eq, Draft7.Compiled.root_of_compile hd] at ht
  rcases h _ htype d.scope t ht with hle | ⟨-, branches, ns, hget, hmem, hp, hlimit⟩
  · have hle : (t.length : ℚ) ≤ (3 : ℤ) := hle
    exact_mod_cast hle
  · cases hget
    obtain rfl | rfl : ns = [("type", .str "string"), ("maxLength", .num (.int 3))] ∨
        ns = [("type", .str "null")] := by simpa using hmem
    · exact absurd ⟨_, rfl, le_refl _⟩ hlimit
    · have isNull : Draft7.hasType "null" (.str t) = true := hasType_of_admits rfl hp rfl
      cases isNull

/-- Another branch for strings lets a string pass that is longer than its column is wide. -/
theorem narrow_column_admits_long_string : ∃ a column s d,
    Compiler.standard.compile (.ofFragment (.shortOr "string")) = .ok a ∧
    Members.get? a.columns "p" = some column ∧ column.type = .sized (.int 3) ∧
    a.schemaAt "p" = some s ∧ Draft7.Compiled.compile s = .ok d ∧
    d.accepts (.str "abcd") = true ∧ "abcd".length = 4 := by
  obtain ⟨a, s, d, ha, hs, hd, haccepts⟩ := exists_of_schemaRun (c := .standard)
    (e := .ofFragment (.shortOr "string")) (k := "p") (g := (·.accepts (.str "abcd"))) (r := true)
    (by decide +kernel)
  have hf : Members.get? (Entity.ofFragment (.shortOr "string")).properties "p" =
    some (.shortOr "string") := rfl
  obtain ⟨column, hcolumn, htype⟩ := exists_of_splitRun (g := (·.type))
    (r := .sized (.int 3)) ha hf rfl
  exact ⟨a, column, s, d, ha, hcolumn, htype, hs, hd, haccepts, rfl⟩

end EntitySchema
