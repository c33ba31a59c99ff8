import EntitySchema.Proofs.Decimal.Whole
import EntitySchema.Proofs.Property.Lengths

/-!
# The texts of derived storage types

A compiler with the standard catalog derives no more storage types than there are constructors of
`DerivedText` (`derived_type_text`). The resolver would take any declared type that names an entry
of the catalog, and any size above zero, but a schema declares one of seven types, and its maximal
length is a whole number.

The maximal length stands in the text as it would in Json. A whole number may be a binary64, so the
size is not always a numeral (`size_with_point`).
-/

namespace EntitySchema

open Draft7.Meta (IsSchema)

/-- The texts of the storage types that are derived from a schema with the members `ms`; objects and
arrays are kept as `json`. -/
inductive DerivedText (json : String) (ms : Members) : String → Prop
  | json : DerivedText json ms json
  | integer : DerivedText json ms "INTEGER"
  | boolean : DerivedText json ms "BOOLEAN"
  | string : DerivedText json ms "STRING"
  | enum : DerivedText json ms "ENUM"
  | sized {ns : Members} {n : Number} : Decides ms ns →
      Members.get? ns "maxLength" = some (.num n) → WholeText n (Json.numberChars n) →
      DerivedText json ms (String.ofList ("STRING(".toList ++ Json.numberChars n ++ [')']))

namespace StorageType

theorem text_sized (n : Number) :
    (sized n).text = String.ofList ("STRING(".toList ++ Json.numberChars n ++ [')']) := by
  simp [sized, text, chars, argumentChars, moreArgumentChars, modifierChars, Json.chars]

end StorageType

variable {c : Compiler} {e : Entity} {a : Artifact} {name : String} {ms ns : Members} {n : Number}

/-- A schema object declares a known type. -/
theorem mem_typeNames_of_declares {t : String} (hs : IsSchema (.obj ns))
    (ht : Members.get? ns "type" = some (.str t)) : t ∈ Draft7.typeNames :=
  Draft7.Meta.mem_typeNames_of_isSchema (Draft7.Meta.isSchema_obj_iff.1 hs _ _ ht)

/-- The maximal length that sizes a string is a whole number above zero. -/
theorem wholeText_of_isSize {size : Json} (hs : IsSchema (.obj ns))
    (hl : Members.get? ns "maxLength" = some size) (hsize : Resolution.isSize size = true) :
    ∃ n, size = .num n ∧ WholeText n (Json.numberChars n) := by
  obtain ⟨n, rfl, hwhole, -⟩ := isCount_maxLength hs hl
  refine ⟨n, rfl, wholeText_numberChars hwhole ?_⟩
  cases n with
  | int m => exact Int.compare_eq_gt.2 (of_decide_eq_true hsize)
  | real x => exact eq_of_beq hsize

/-- The storage type of a declared type. -/
theorem derivedText_of_ofDeclared {json t : StorageType} {declared : Option Json}
    (hn : Decides ms ns) (hs : IsSchema (.obj ns)) (hd : declared = Members.get? ns "type")
    (h : Resolution.ofDeclared .standard json declared ns = .ok t) :
    DerivedText json.text ms t.text := by
  obtain ⟨name, rfl⟩ := Resolution.ofDeclared_eq_ok h
  have known := mem_typeNames_of_declares hs hd.symm
  rcases Resolution.ofDeclared_str_eq_ok h with ⟨-, rfl⟩ | ⟨-, ht⟩ | ⟨hother, u, hu, ht⟩
  · exact .json
  · rw [Catalog.text_of_resolve? ht]
    exact .integer
  · have text := Catalog.text_of_resolve? hu
    have plain : name = "boolean" ∨ name = "integer" ∨ name = "null" ∨ name = "string" := by
      simp only [Draft7.typeNames, List.mem_cons, List.not_mem_nil, or_false] at known hother
      grind
    rcases ht with rfl | ⟨rfl, size, hl, hsize, rfl⟩
    · rw [text]
      rcases plain with rfl | rfl | rfl | rfl
      · rw [show Text.upper "boolean" = "BOOLEAN" by decide +kernel]
        exact .boolean
      · rw [show Text.upper "integer" = "INTEGER" by decide +kernel]
        exact .integer
      · -- The catalog has no type for null.
        rw [show Text.upper "null" = "NULL" by decide +kernel,
          Catalog.resolve?_of_not_mem (by decide)] at hu
        cases hu
      · rw [show Text.upper "string" = "STRING" by decide +kernel]
        exact .string
    · obtain ⟨n, rfl, hn'⟩ := wholeText_of_isSize hs hl hsize
      have entry : Members.get? Catalog.standard.entries "STRING" = some .string := rfl
      rw [show Text.upper "string" = "STRING" by decide +kernel,
        Catalog.resolve?_of_entry entry (by decide)] at hu
      obtain rfl := Option.some.inj hu
      rw [show { StorageType.bare "STRING" .string with args := [.literal (.num n)] } =
        StorageType.sized n from rfl, StorageType.text_sized]
      exact .sized hn hl hn'

/-- The storage type of a schema. -/
theorem derivedText_of_derive {json : StorageType} {r : Resolution} (hs : IsSchema (.obj ms))
    (h : Resolution.derive .standard json ms = .ok r) : DerivedText json.text ms r.type.text := by
  rcases Resolution.derive_eq_ok h with ⟨_, -, ht, -⟩ | ⟨k, branches, -, hu, ht, -⟩ | ⟨-, -, ht, -⟩
  · rw [Catalog.text_of_resolve? (Resolution.named_eq_ok.1 ht)]
    exact .enum
  · obtain ⟨first, rest, shared, hm, -, hfirst, -, ht⟩ := Resolution.ofUnion_eq_ok ht
    obtain ⟨hk, hget⟩ := Resolution.union?_eq_some hu
    obtain ⟨ns, rfl, -⟩ := exists_members_of_declares hfirst
    have listed : .obj ns ∈ branches := (List.mem_filter.1 (hm ▸ List.mem_cons_self)).1
    have decides : Decides ms ns := .branch (by simpa using hk) hget listed
    exact derivedText_of_ofDeclared decides (isSchema_of_decides decides hs) rfl ht
  · exact derivedText_of_ofDeclared .own hs rfl ht

/-- **Derived storage types.** The column of a property without a storage type of its own has the
type of objects and arrays, or one of few others. Only a string has an argument, which is the text
of a whole number. -/
theorem derived_type_text {s : Settings} {f : Fragment} (hset : Compiler.ofSettings s = .ok c)
    (hcatalog : c.catalog = .standard) (h : c.compile e = .ok a)
    (hf : Members.get? e.properties name = some f) (htype : f.dataType = none) :
    ∃ column, Members.get? a.columns name = some column ∧
      DerivedText s.jsonTypeName f.validation column.type.text := by
  obtain ⟨x, hsplit, hcolumn, hschema⟩ := Compiler.property_of_compile h hf
  refine ⟨x.column, hcolumn, ?_⟩
  obtain ⟨r, hr, hrtype, -, -⟩ := Property.split_eq_ok hsplit
  have schema := isSchema_validation hsplit (Compiler.isSchema_schemaAt h hschema)
  have json : c.json.text = s.jsonTypeName :=
    Catalog.text_of_resolve? (Compiler.ofSettings_eq_ok.1 hset).2.resolved
  rw [htype, hcatalog] at hr
  rw [hrtype, ← json]
  exact derivedText_of_derive schema hr

/-- A string with a maximal length. -/
def Fragment.sizedString (n : Number) : Fragment :=
  .ofKeywords [("type", .str "string"), ("maxLength", .num n)]

theorem size_is_numeral : ∃ a column, Compiler.ofSettings {} = .ok .standard ∧
    Compiler.standard.compile (.ofFragment (.sizedString (.int 40))) = .ok a ∧
    Members.get? a.columns "p" = some column ∧ column.type.text = "STRING(40)" ∧
    DerivedText "JSONB" (Fragment.sizedString (.int 40)).validation "STRING(40)" := by
  have settings : Compiler.ofSettings {} = .ok .standard := rfl
  obtain ⟨a, column, ha, hcolumn, htext⟩ := exists_of_columnRun (c := .standard)
    (e := .ofFragment (.sizedString (.int 40))) (k := "p") (g := (·.type.text))
    (r := "STRING(40)") (by decide +kernel)
  have hf : Members.get? (Entity.ofFragment (.sizedString (.int 40))).properties "p" =
    some (.sizedString (.int 40)) := rfl
  obtain ⟨column', hcolumn', h⟩ := derived_type_text settings rfl ha hf rfl
  obtain rfl : column' = column := Option.some.inj (hcolumn'.symm.trans hcolumn)
  rw [htext] at h
  exact ⟨a, column', settings, ha, hcolumn, htext, h⟩

/-- A maximal length that is written with a point stands in the storage type with its point. -/
theorem size_with_point : ∃ a column, Compiler.ofSettings {} = .ok .standard ∧
    Compiler.standard.compile
      (.ofFragment (.sizedString (.real ⟨false, 6755399441055744, -51⟩))) = .ok a ∧
    Members.get? a.columns "p" = some column ∧ column.type.text = "STRING(3.0)" ∧
    ∀ m, column.type.text ≠ String.ofList ("STRING(".toList ++ Nat.toDigits 10 m ++ [')']) := by
  obtain ⟨a, column, ha, hcolumn, htext⟩ := exists_of_columnRun (c := .standard)
    (e := .ofFragment (.sizedString (.real ⟨false, 6755399441055744, -51⟩))) (k := "p")
    (g := (·.type.text)) (r := "STRING(3.0)") (by decide +kernel)
  refine ⟨a, column, rfl, ha, hcolumn, htext, fun m heq => ?_⟩
  have chars : "STRING(".toList ++ (['3', '.', '0'] ++ [')']) =
      "STRING(".toList ++ Nat.toDigits 10 m ++ [')'] :=
    (congrArg String.toList (htext.symm.trans heq)).trans String.toList_ofList
  rw [List.append_assoc] at chars
  have size := List.append_cancel_right (List.append_cancel_left chars)
  have digits : ∀ c ∈ Nat.toDigits 10 m, c.isDigit = true :=
    fun c hc => Nat.isDigit_of_mem_toDigits (by decide) (by decide) hc
  rw [← size] at digits
  exact absurd (digits '.' (by decide)) (by decide)

end EntitySchema
