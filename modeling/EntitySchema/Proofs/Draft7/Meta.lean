import EntitySchema.Document
import EntitySchema.Proofs.Draft7.Keywords

/-!
# What the schema of schemas asks for

The schema of schemas refers to itself, but only from below a keyword, so a check of a value follows
no more references than the value is deep (`lead_settled`). Hence a value is a schema or not
whatever bound the check had (`isSchema_iff`), and an object is one when each of its members alone
is (`isSchema_obj_iff`).
-/

namespace EntitySchema.Draft7.Meta

open Reference (Base Spot)

/-! ## References -/

/-- The place in the schema of schemas that a fragment names. -/
def locator (fragment : String) : Uri.Locator := ⟨resource, some fragment.toList⟩

/-- The references in the schema of schemas, and what they lead to. -/
def targets : List (String × Uri.Locator × Json) := [
  ("#", locator "", schema),
  ("#/definitions/schemaArray", locator "/definitions/schemaArray",
    typed "array" [("minItems", .num (.int 1)), ("items", anySchema)]),
  ("#/definitions/nonNegativeInteger", locator "/definitions/nonNegativeInteger",
    typed "integer" [("minimum", .num (.int 0))]),
  ("#/definitions/nonNegativeIntegerDefault0", locator "/definitions/nonNegativeIntegerDefault0",
    .obj [("allOf", .arr [count, .obj []])]),
  ("#/definitions/simpleTypes", locator "/definitions/simpleTypes", .obj [("enum", Json.ofStrings
    ["array", "boolean", "integer", "null", "number", "object", "string"])]),
  ("#/definitions/stringArray", locator "/definitions/stringArray",
    typed "array" [("items", typed "string" []), ("uniqueItems", .bool true)])]

def references : List String := targets.map Prod.fst

/-- A schema in the schema of schemas. -/
def spot (schema : Json) : Spot := ⟨.ok resource, schema⟩

/-- Whether some names are all the references in a spot can be computed. -/
theorem mem_of_refers {s : Json} {names : List String} {base : Base} {r : String}
    (all : ((Reference.survey s.depth [spot s]).all fun y => y.base.toOption = some resource ∧
      (Reference.held? y.schema).all names.contains) = true) (h : Refers (spot s) base r) :
    base = .ok resource ∧ r ∈ names := by
  obtain ⟨y, hy, rfl, hr⟩ := h.exists_mem_survey
  obtain ⟨hbase, held⟩ := of_decide_eq_true (List.all_eq_true.1 all y hy)
  rw [hr] at held
  exact ⟨toOption_eq_some.1 hbase, List.contains_iff_mem.1 held⟩

theorem mem_references {base : Base} {r : String} (h : Refers top base r) :
    base = .ok resource ∧ r ∈ references :=
  mem_of_refers (by decide +kernel) h

/-- Where each of them leads can be computed. -/
theorem resolve_eq_ok {r : String} {l : Uri.Locator} {s : Json} (h : (r, l, s) ∈ targets) :
    Reference.resolve index (.ok resource) r = .ok (l, spot s) := by
  have run : (targets.all fun t => (Reference.resolve index (.ok resource) t.1).toOption.map
      (fun x => (x.1, x.2.base.toOption, x.2.schema)) =
        some (t.2.1, some resource, t.2.2)) = true := by
    decide +kernel
  have found := of_decide_eq_true (List.all_eq_true.1 run _ h)
  obtain ⟨⟨l', ⟨base, s'⟩⟩, hx, hxs⟩ := Option.map_eq_some_iff.1 found
  simp only [Prod.mk.injEq] at hxs
  obtain ⟨rfl, hbase, rfl⟩ := hxs
  rw [toOption_eq_some.1 hx, spot, toOption_eq_some.1 hbase]

theorem resolve_root : Reference.resolve index (.ok resource) "#" = .ok (locator "", top) :=
  resolve_eq_ok (List.mem_of_getElem? (i := 0) rfl)

theorem resolve_schemaArray :
    Reference.resolve index (.ok resource) "#/definitions/schemaArray" =
      .ok (locator "/definitions/schemaArray",
        spot (typed "array" [("minItems", .num (.int 1)), ("items", anySchema)])) :=
  resolve_eq_ok (List.mem_of_getElem? (i := 1) rfl)

theorem resolve_nonNegativeInteger :
    Reference.resolve index (.ok resource) "#/definitions/nonNegativeInteger" =
      .ok (locator "/definitions/nonNegativeInteger",
        spot (typed "integer" [("minimum", .num (.int 0))])) :=
  resolve_eq_ok (List.mem_of_getElem? (i := 2) rfl)

theorem resolve_countFromZero :
    Reference.resolve index (.ok resource) "#/definitions/nonNegativeIntegerDefault0" =
      .ok (locator "/definitions/nonNegativeIntegerDefault0",
        spot (.obj [("allOf", .arr [count, .obj []])])) :=
  resolve_eq_ok (List.mem_of_getElem? (i := 3) rfl)

theorem resolve_simpleTypes :
    Reference.resolve index (.ok resource) "#/definitions/simpleTypes" =
      .ok (locator "/definitions/simpleTypes", spot (.obj [("enum", Json.ofStrings
        ["array", "boolean", "integer", "null", "number", "object", "string"])])) :=
  resolve_eq_ok (List.mem_of_getElem? (i := 4) rfl)

theorem resolve_stringArray :
    Reference.resolve index (.ok resource) "#/definitions/stringArray" =
      .ok (locator "/definitions/stringArray",
        spot (typed "array" [("items", typed "string" []), ("uniqueItems", .bool true)])) :=
  resolve_eq_ok (List.mem_of_getElem? (i := 5) rfl)

/-- Values that are nested no deeper than `d`. -/
abbrev Shallow (d : Nat) (v : Json) : Prop := v.depth ≤ d

theorem shallow_of_mem_arr {d : Nat} {xs : List Json} {x : Json} (hv : Shallow (d + 1) (.arr xs))
    (hx : x ∈ xs) : Shallow d x :=
  Nat.le_of_lt_succ (Nat.lt_of_lt_of_le (Json.depth_lt_of_mem_arr hx) hv)

theorem shallow_of_mem_obj {d : Nat} {ms : Members} {m : String × Json}
    (hv : Shallow (d + 1) (.obj ms)) (hm : m ∈ ms) : Shallow d m.2 :=
  Nat.le_of_lt_succ (Nat.lt_of_lt_of_le (Json.depth_lt_of_mem_obj hm) hv)

theorem hereditary_shallow (d : Nat) : Hereditary (Shallow d) where
  item hv hx := Nat.le_of_lt (Nat.lt_of_lt_of_le (Json.depth_lt_of_mem_arr hx) hv)
  member hv hm := Nat.le_of_lt (Nat.lt_of_lt_of_le (Json.depth_lt_of_mem_obj hm) hv)
  name hv _ := Nat.le_trans (by simp only [Json.depth]; omega) hv

variable {f g : Guide Verdict} {a b : Base → String → Check} {d n m : Nat} {r : String}
  {ms : Members}

/-- A document of this form tells about a value what the schemas in it tell about its members. -/
theorem told_document {P : Json → Prop} {definitions type : Json} {keywords : Members}
    (h : SimilarIn TellSame P f g
      [("definitions", definitions), ("type", type), ("properties", .obj keywords)])
    (p q : Pointer) {v : Json} (hv : ∀ ns, v = .obj ns → ∀ n ∈ ns, P n.2) :
    told (check f (.obj [("definitions", definitions), ("type", type),
      ("properties", .obj keywords)]) p v) =
    told (check g (.obj [("definitions", definitions), ("type", type),
      ("properties", .obj keywords)]) q v) := by
  rw [check_obj rfl, check_obj rfl]
  simp only [List.flatMap_cons, List.flatMap_nil, List.append_nil, told_append]
  exact congr_arg₂ _ rfl (congr_arg₂ _ (told_typeCheck ..)
    (similar_propertiesCheck tolerance_told h _ _ hv))

/-- The schema of schemas follows references only to check what is in a value. -/
theorem alike_schema
    (h : ∀ r ∈ references, Alike (Shallow d) (a (.ok resource) r) (b (.ok resource) r)) :
    Alike (Shallow (d + 1)) (check ⟨.ok resource, a⟩ schema) (check ⟨.ok resource, b⟩ schema) := by
  intro p q v hv
  have inside : ∀ s ∈ Reference.subschemas schema,
      Alike (Shallow d) (within ⟨.ok resource, a⟩ s) (within ⟨.ok resource, b⟩ s) := by
    refine fun s hs => check_alike (hereditary_shallow d) fun base r hr => ?_
    obtain ⟨rfl, known⟩ := mem_references (.inside (mem_inside.2 ⟨s, hs, rfl⟩) hr)
    exact h r known
  refine told_document inside p q ?_
  rintro ns rfl x hx
  exact shallow_of_mem_obj hv hx

theorem alike_schemaArray
    (h : ∀ r ∈ references, Alike (Shallow d) (a (.ok resource) r) (b (.ok resource) r)) :
    Alike (Shallow (d + 1))
      (check ⟨.ok resource, a⟩ (typed "array" [("minItems", .num (.int 1)), ("items", anySchema)]))
      (check ⟨.ok resource, b⟩
        (typed "array" [("minItems", .num (.int 1)), ("items", anySchema)])) := by
  intro p q v hv
  have inside : SimilarIn TellSame (Shallow d) ⟨.ok resource, a⟩ ⟨.ok resource, b⟩
      [("type", .str "array"), ("minItems", .num (.int 1)), ("items", anySchema)] := by
    intro s hs p q v hv
    obtain rfl : s = anySchema := List.mem_singleton.1 hs
    rw [within_of_plain rfl, within_of_plain rfl, anySchema, ref, check_obj_of_held rfl,
      check_obj_of_held rfl]
    exact h "#" (by decide) p q v hv
  rw [typed, check_obj rfl, check_obj rfl]
  simp only [List.flatMap_cons, List.flatMap_nil, List.append_nil, told_append]
  refine congr_arg₂ _ (told_typeCheck ..) (congr_arg₂ _ (told_sizeCheck ..) ?_)
  refine similar_itemsCheck tolerance_told inside (by simp) _ _ ?_
  rintro xs rfl x hx
  exact shallow_of_mem_arr hv hx

/-- References that may be followed as often as a value is deep tell all they have to tell. -/
theorem lead_settled (hn : d < n) (hm : d < m) (hr : r ∈ references) :
    Alike (Shallow d) (lead index n (.ok resource) r) (lead index m (.ok resource) r) := by
  induction d generalizing n m r with
  | zero => exact fun _ _ v hv => absurd (Json.depth_pos v) (Nat.not_lt_of_le hv)
  | succ d ih =>
    obtain ⟨n, rfl⟩ : ∃ k, n = k + 1 := ⟨n - 1, by omega⟩
    obtain ⟨m, rfl⟩ : ∃ k, m = k + 1 := ⟨m - 1, by omega⟩
    have below : ∀ r ∈ references,
        Alike (Shallow d) (lead index n (.ok resource) r) (lead index m (.ok resource) r) :=
      fun r hr => ih (by omega) (by omega) hr
    have plain {r : String} {l : Uri.Locator} {s : Json}
        (hr : Reference.resolve index (.ok resource) r = .ok (l, spot s))
        (hs : NoReferences s) : Alike (Shallow (d + 1)) (lead index (n + 1) (.ok resource) r)
          (lead index (m + 1) (.ok resource) r) := fun p q v _ => by
      rw [lead_succ_ok hr, lead_succ_ok hr]
      exact hs.check_told ..
    simp only [references, targets, List.map_cons, List.map_nil, List.mem_cons, List.not_mem_nil,
      or_false] at hr
    rcases hr with rfl | rfl | rfl | rfl | rfl | rfl
    · rw [lead_succ_ok resolve_root, lead_succ_ok resolve_root]
      exact alike_schema below
    · rw [lead_succ_ok resolve_schemaArray, lead_succ_ok resolve_schemaArray]
      exact alike_schemaArray below
    · exact plain resolve_nonNegativeInteger (noReferences_of_allHeld rfl)
    · -- The one definition that refers to another one, for the value itself.
      rw [lead_succ_ok resolve_countFromZero, lead_succ_ok resolve_countFromZero]
      refine check_alike (hereditary_shallow _) fun base r hr => ?_
      obtain ⟨rfl, only⟩ : base = .ok resource ∧ r ∈ ["#/definitions/nonNegativeInteger"] :=
        mem_of_refers (by decide +kernel) hr
      obtain rfl := List.mem_singleton.1 only
      obtain ⟨n, rfl⟩ : ∃ k, n = k + 1 := ⟨n - 1, by omega⟩
      obtain ⟨m, rfl⟩ : ∃ k, m = k + 1 := ⟨m - 1, by omega⟩
      rw [lead_succ_ok resolve_nonNegativeInteger, lead_succ_ok resolve_nonNegativeInteger]
      exact fun p q v _ => (noReferences_of_allHeld rfl).check_told ..
    · exact plain resolve_simpleTypes (noReferences_of_allHeld rfl)
    · exact plain resolve_stringArray (noReferences_of_allHeld rfl)

/-! ## Schemas -/

/-- A value that the schema of schemas has nothing against. -/
def IsSchema (v : Json) : Prop := complaints v = []

/-- What references in the schema of schemas mean; at most `n` are followed within each other. -/
abbrev guide (n : Nat) : Guide Verdict := ⟨.ok resource, lead index n⟩

theorem isSchema_iff {v : Json} (hn : v.depth ≤ n) (p : Pointer) :
    IsSchema v ↔ check (guide n) schema p v = [] := by
  obtain ⟨d, hd⟩ : ∃ d, v.depth = d + 1 := ⟨v.depth - 1, by have := Json.depth_pos v; omega⟩
  have bound : v.depth ≤ v.depth * schema.size :=
    Nat.le_mul_of_pos_right _ (by rw [Json.size_eq]; omega)
  have same := alike_schema (d := d)
    (fun r hr => lead_settled (n := v.depth * schema.size) (m := n) (by omega) (by omega) hr)
    p p v (by omega)
  rw [IsSchema, complaints, List.map_eq_nil_iff, ← told_eq_nil, told_failuresAt (q := p)]
  exact (congrArg (· = []) same).to_iff.trans told_eq_nil

theorem check_document_eq_nil {definitions : Json} {keywords : Members} {p : Pointer} :
    check f (.obj [("definitions", definitions), ("type", Json.ofStrings ["object", "boolean"]),
      ("properties", .obj keywords)]) p (.obj ms) = [] ↔
    ∀ m ∈ keywords, ∀ w, Members.get? ms m.1 = some w →
      within f m.2 (p ++ [Step.key "properties", .key m.1]) w = [] := by
  rw [check_obj_eq_nil rfl]
  simp only [List.forall_mem_cons, List.not_mem_nil, false_implies, implies_true, and_true]
  rw [memberCheck_type, typeCheck_eq_nil, memberCheck_properties_eq_nil rfl]
  exact ⟨fun h => h.2.2, fun h => ⟨rfl, ⟨"object", by decide, rfl⟩, h⟩⟩

/-- An object is a schema when each of its keywords has a value that fits it. -/
theorem isSchema_iff_keywords (hn : (Json.obj ms).depth ≤ n) : IsSchema (.obj ms) ↔
    ∀ m ∈ keywords, ∀ w, Members.get? ms m.1 = some w → within (guide n) m.2 [] w = [] := by
  rw [isSchema_iff hn [], schema, check_document_eq_nil]
  exact forall₄_congr fun m _ w _ => check_lead_eq_nil ..

/-- An object is a schema when each of its members alone is. -/
theorem isSchema_obj_iff : IsSchema (.obj ms) ↔
    ∀ k w, Members.get? ms k = some w → IsSchema (.obj [(k, w)]) := by
  have alone {k : String} {w : Json} (hw : Members.get? ms k = some w) :
      IsSchema (.obj [(k, w)]) ↔ ∀ m ∈ keywords, m.1 = k →
        within (guide (Json.obj ms).depth) m.2 [] w = [] := by
    have : (Json.obj [(k, w)]).depth ≤ (Json.obj ms).depth := by
      have := Json.depth_lt_of_mem_obj (Members.mem_of_get? hw)
      simp only [Json.depth, Json.depthMembers] at this ⊢
      omega
    rw [isSchema_iff_keywords this]
    simp only [Members.get?_singleton]
    refine forall₂_congr fun m _ => ⟨fun h hk => h w ⟨hk.symm, rfl⟩, ?_⟩
    rintro h x ⟨hk, rfl⟩
    exact h hk.symm
  rw [isSchema_iff_keywords (Nat.le_refl _)]
  constructor
  · intro h k w hw
    rw [alone hw]
    rintro m hm rfl
    exact h m hm w hw
  · intro h m hm w hw
    exact (alone hw).1 (h _ w hw) m hm rfl

/-! ## Keywords with schemas -/

/-- A reference means what it leads to. -/
theorem within_ref {l : Uri.Locator} {s : Json}
    (hr : Reference.resolve index (.ok resource) r = .ok (l, spot s)) :
    within (guide (n + 1)) (ref r) = check (guide n) s := by
  funext p v
  rw [within_of_plain rfl, ref, check_obj_of_held rfl]
  exact congrFun₂ (lead_succ_ok hr n) p v

theorem within_anySchema_eq_nil {v : Json} (hn : v.depth ≤ n) (p : Pointer) :
    within (guide (n + 1)) anySchema p v = [] ↔ IsSchema v := by
  rw [anySchema, within_ref resolve_root, isSchema_iff hn p]

theorem nodup_keywords : (Members.keys keywords).Nodup := by decide +kernel

/-- A keyword alone is a schema when its value fits it. -/
theorem isSchema_single_iff {k : String} {s w : Json} (hk : Members.get? keywords k = some s)
    (hn : (Json.obj [(k, w)]).depth ≤ n) :
    IsSchema (.obj [(k, w)]) ↔ within (guide n) s [] w = [] := by
  rw [isSchema_iff_keywords hn]
  constructor
  · exact fun h => h (k, s) (Members.mem_of_get? hk) w (if_pos rfl)
  · intro h m hm x hx
    obtain ⟨hkm, rfl⟩ := Members.get?_singleton.1 hx
    have := Members.get?_of_mem nodup_keywords hm
    rw [← hkm, hk] at this
    exact Option.some.inj this ▸ h

theorem check_schemaMap_eq_nil {p : Pointer} {ns : Members} :
    check f (schemaMap []) p (.obj ns) = [] ↔
      ∀ n ∈ ns, within f anySchema (p ++ [Step.key "additionalProperties"]) n.2 = [] := by
  rw [schemaMap, typed, check_obj_eq_nil rfl]
  simp only [List.forall_mem_cons, List.not_mem_nil, false_implies, implies_true, and_true]
  rw [memberCheck_type, typeCheck_str_eq_nil, anySchema, ref, memberCheck_others,
    List.flatMap_eq_nil_iff]
  refine Iff.trans (and_iff_right rfl) (forall₂_congr fun n _ => ?_)
  rw [closedFailures_of_stranger rfl rfl, memberFailures, List.map_eq_nil_iff]

theorem isSchema_properties_iff {ps : Members} : IsSchema (.obj [("properties", .obj ps)]) ↔
    ∀ m ∈ ps, IsSchema m.2 := by
  have fits : Members.get? keywords "properties" = some (schemaMap []) := rfl
  rw [isSchema_single_iff fits (Nat.le_succ _), within_of_plain rfl, check_schemaMap_eq_nil]
  refine forall₂_congr fun m hm => within_anySchema_eq_nil ?_ _
  have := Json.depth_lt_of_mem_obj hm
  simp only [Json.depth, Json.depthMembers] at this ⊢
  omega

/-- Where a list of schemas is asked for, an array holds schemas. -/
theorem isSchema_of_mem_schemaArray {k : String} {xs : List Json} {x : Json}
    (hk : Members.get? keywords k = some schemaArray) (h : IsSchema (.obj [(k, .arr xs)]))
    (hx : x ∈ xs) : IsSchema x := by
  have bound : (Json.obj [(k, .arr xs)]).depth ≤ Json.depthItems xs + 2 := by
    simp only [Json.depth, Json.depthMembers]
    omega
  rw [isSchema_single_iff hk bound, schemaArray, within_ref resolve_schemaArray, typed,
    check_obj_eq_nil rfl] at h
  have items := h ("items", anySchema) (by simp)
  rw [memberCheck_items_eq_nil rfl] at items
  exact (within_anySchema_eq_nil (Json.depth_le_of_mem_items hx) _).1 (items x hx)

/-- Where a count is asked for, a value is a whole number that is not negative. -/
theorem isCount_of_isSchema {k : String} (hk : Members.get? keywords k = some count) {w : Json}
    (h : IsSchema (.obj [(k, w)])) : ∃ n : Number, w = .num n ∧ n.isWhole = true ∧
      n.lt (.int 0) = false := by
  rw [isSchema_single_iff hk (Nat.le_succ _), count, within_ref resolve_nonNegativeInteger, typed,
    check_obj_eq_nil rfl] at h
  have type := h ("type", .str "integer") (by simp)
  rw [memberCheck_type, typeCheck_str_eq_nil, hasType_integer] at type
  obtain ⟨n, rfl, hn⟩ := type
  have minimum := h ("minimum", .num (.int 0)) (by simp)
  exact ⟨n, rfl, hn, by simpa using report_eq_nil.1 minimum⟩

/-- A type that is declared by its name is one of the known types. -/
theorem mem_typeNames_of_isSchema {t : String} (h : IsSchema (.obj [("type", .str t)])) :
    t ∈ typeNames := by
  have fits : Members.get? keywords "type" = some (either simpleType (typed "array"
    [("items", simpleType), ("minItems", .num (.int 1)), ("uniqueItems", .bool true)])) := rfl
  rw [isSchema_single_iff fits (Nat.le_succ _), either, within_of_plain rfl, check_obj_eq_nil rfl,
    List.forall_mem_singleton, memberCheck_anyOf_eq_nil] at h
  obtain ⟨x, hx, hnil⟩ := h
  have which : x.1 = simpleType ∨ x.1 = typed "array"
      [("items", simpleType), ("minItems", .num (.int 1)), ("uniqueItems", .bool true)] := by
    simpa [Json.arr?] using List.fst_mem_of_mem_zipIdx hx
  rcases which with named | listed
  · rw [named, simpleType, within_ref resolve_simpleTypes, check_obj_eq_nil rfl,
      List.forall_mem_singleton] at hnil
    obtain ⟨w, hw, heq⟩ := memberCheck_enum_eq_nil.1 hnil
    obtain ⟨name, hname, rfl⟩ := List.mem_map.1 hw
    obtain rfl : t = name := by simpa [Json.equal] using heq
    exact hname
  · rw [listed, typed, within_of_plain rfl, check_obj_eq_nil rfl] at hnil
    have type := hnil ("type", .str "array") (by simp)
    rw [memberCheck_type, typeCheck_str_eq_nil] at type
    cases type

theorem pairwiseDistinct_strings {alike : Json → Json → Bool}
    (ha : ∀ a b : String, alike (.str a) (.str b) = (a == b)) {names : List String} :
    Json.pairwiseDistinct alike (names.map .str) = true ↔ names.Nodup := by
  induction names with
  | nil => simp [Json.pairwiseDistinct]
  | cons a rest ih =>
    have first : ((rest.map Json.str).all fun y => !alike (.str a) y) = true ↔ a ∉ rest := by
      rw [List.all_map, List.all_eq_true]
      simp only [Function.comp_apply, ha, Bool.not_eq_true', beq_eq_false_iff_ne]
      exact ⟨fun h hmem => h a hmem rfl, fun h b hb hab => h (hab ▸ hb)⟩
    rw [List.map_cons, Json.pairwiseDistinct, Bool.and_eq_true, first, ih, List.nodup_cons]

theorem allDistinct_strings {names : List String} :
    Json.allDistinct (names.map .str) = true ↔ names.Nodup := by
  unfold Json.allDistinct
  split
  · exact pairwiseDistinct_strings fun _ _ => rfl
  · exact pairwiseDistinct_strings fun _ _ => rfl

/-- Names can be required just when they are distinct. -/
theorem isSchema_required {names : List String} :
    IsSchema (.obj [("required", Json.ofStrings names)]) ↔ names.Nodup := by
  have fits : Members.get? keywords "required" = some stringArray := rfl
  rw [isSchema_single_iff fits (Nat.le_succ _), stringArray, within_ref resolve_stringArray, typed,
    check_obj_eq_nil rfl]
  simp only [List.forall_mem_cons, List.not_mem_nil, false_implies, implies_true, and_true]
  rw [memberCheck_type, typeCheck_str_eq_nil]
  have strings (f : Guide Verdict) (ms : Members) :
      memberCheck f ms ("items", typed "string" []) [] (Json.ofStrings names) = [] := by
    rw [Json.ofStrings, memberCheck_items_eq_nil rfl]
    intro x hx
    obtain ⟨name, -, rfl⟩ := List.mem_map.1 hx
    rw [typed, within_of_plain rfl, check_obj_eq_nil rfl, List.forall_mem_singleton,
      memberCheck_type, typeCheck_str_eq_nil]
    rfl
  rw [and_iff_right (show hasType "array" (Json.ofStrings names) = true from rfl),
    and_iff_right (strings _ _)]
  exact report_eq_nil.trans allDistinct_strings

/-- A closed object is a schema when its properties are. -/
theorem isSchema_closed {names : List String} {ps : Members} (hn : names.Nodup)
    (h : ∀ m ∈ ps, IsSchema m.2) : IsSchema (Document.closed names ps) := by
  rw [Document.closed, isSchema_obj_iff]
  intro k w hw
  have hm := Members.mem_of_get? hw
  simp only [List.mem_cons, List.not_mem_nil, or_false, Prod.mk.injEq] at hm
  rcases hm with ⟨rfl, rfl⟩ | ⟨rfl, rfl⟩ | ⟨rfl, rfl⟩ | ⟨rfl, rfl⟩
  · show complaints _ = []
    decide +kernel
  · show complaints _ = []
    decide +kernel
  · exact isSchema_required.2 hn
  · exact isSchema_properties_iff.2 h

end EntitySchema.Draft7.Meta
