import EntitySchema.Proofs.Draft7.Following

/-!
# When a schema has nothing against a value

A schema object without a reference has nothing against a value when none of its keywords has
(`check_obj_eq_nil`). The lemmas after it say for some keywords when that is.
-/

namespace EntitySchema.Draft7

variable {f : Guide Verdict} {ms : Members} {w v : Json} {p : Pointer}

/-- What the member `k` of the object `ms` has against a value. -/
abbrev memberCheck (f : Guide Verdict) (ms : Members) (m : String × Json) : Check :=
  keyword (Parts.of checkNode f ms) m.1 (Part.of checkNode f m.2)

theorem check_obj_eq_nil (h : Reference.held? (.obj ms) = none) :
    check f (.obj ms) p v = [] ↔ ∀ m ∈ ms, memberCheck f ms m p v = [] := by
  rw [check_obj h, List.flatMap_eq_nil_iff]

/-- A schema object that has nothing against a value has nothing against it by any keyword. -/
theorem memberCheck_eq_nil (h : Reference.held? (.obj ms) = none) (hc : check f (.obj ms) p v = [])
    {k : String} (hm : Members.get? ms k = some w) : memberCheck f ms (k, w) p v = [] :=
  (check_obj_eq_nil h).1 hc _ (Members.mem_of_get? hm)

/-! ## Types -/

theorem memberCheck_type : memberCheck f ms ("type", w) p v = typeCheck w p v := rfl

theorem typeCheck_eq_nil : typeCheck w p v = [] ↔ ∃ t ∈ typesOf w, hasType t v = true := by
  rw [typeCheck, report_eq_nil, List.any_eq_true]

theorem typeCheck_str_eq_nil {t : String} : typeCheck (.str t) p v = [] ↔ hasType t v = true := by
  simp [typeCheck_eq_nil, typesOf]

theorem hasType_null {t : String} : hasType t .null = true ↔ t = "null" := by
  simp [hasType]

theorem hasType_object : hasType "object" v = true ↔ ∃ ns, v = .obj ns := by
  cases v <;> simp [hasType]

theorem hasType_integer : hasType "integer" v = true ↔ ∃ n, v = .num n ∧ n.isWhole = true := by
  cases v <;> simp [hasType]

/-- A schema that declares a type has something against values that do not have it. -/
theorem hasType_of_check_eq_nil {t : String} (hr : w.get? "$ref" = none)
    (ht : w.getStr? "type" = some t) (hc : check f w p v = []) : hasType t v = true := by
  cases w with
  | obj ms =>
    obtain ⟨x, hx, hs⟩ := Option.bind_eq_some_iff.1 ht
    cases x <;> cases hs
    exact typeCheck_str_eq_nil.1 (memberCheck_eq_nil (held?_eq_none hr) hc hx)
  | _ => cases ht

/-- A schema that declares a type other than null refuses null. -/
theorem check_null_ne_nil {t : String} (hr : w.get? "$ref" = none) (ht : w.getStr? "type" = some t)
    (hn : t ≠ "null") : check f w p .null ≠ [] := by
  intro hc
  have typed : hasType t .null = true := hasType_of_check_eq_nil hr ht hc
  exact hn (hasType_null.1 typed)

/-! ## Listed values -/

theorem memberCheck_enum_eq_nil {values : List Json} :
    memberCheck f ms ("enum", .arr values) p v = [] ↔ ∃ x ∈ values, Json.equal v x = true := by
  show report _ (values.any (Json.equal v)) _ = [] ↔ _
  rw [report_eq_nil, List.any_eq_true]

theorem memberCheck_const_eq_nil :
    memberCheck f ms ("const", w) p v = [] ↔ Json.equalConst w v = true := report_eq_nil

/-! ## Strings -/

/-- A number that sets no limit lets every string pass. -/
theorem memberCheck_maxLength_eq_nil {l : Number} {s : String} :
    memberCheck f ms ("maxLength", .num l) p (.str s) = [] ↔
      ∀ n, l.toLimit? = some n → s.length ≤ n := by
  show sizeCheck "maxLength" "string" (fun n l => n ≤ l) .tooLong (.num l) p (.str s) = [] ↔ _
  simp only [sizeCheck, sizeAs, if_true]
  cases hl : l.toLimit? with
  | none => simp
  | some n => simp [report_eq_nil]

/-! ## Arrays -/

theorem memberCheck_items_eq_nil {xs : List Json} (hw : isSchema w = true) :
    memberCheck f ms ("items", w) p (.arr xs) = [] ↔
      ∀ x ∈ xs, within f w (p ++ [Step.key "items"]) x = [] := by
  show (if isSchema w then _ else _) = [] ↔ _
  rw [if_pos hw, List.flatMap_eq_nil_iff]
  simp only [itemFailures, List.map_eq_nil_iff]
  constructor
  · intro h x hx
    obtain ⟨i, hi⟩ := List.getElem?_of_mem hx
    exact h (x, i) (List.mk_mem_zipIdx_iff_getElem?.2 hi)
  · exact fun h x hx => h x.1 (List.fst_mem_of_mem_zipIdx hx)

/-! ## Properties -/

theorem memberCheck_properties_eq_nil {ns : Members} (hc : closes ms = false) :
    memberCheck f ms ("properties", w) p (.obj ns) = [] ↔
      ∀ m ∈ objectAt ms "properties", ∀ x, Members.get? ns m.1 = some x →
        within f m.2 (p ++ [Step.key "properties", .key m.1]) x = [] := by
  show propertiesCheck (Parts.of checkNode f ms) p (.obj ns) = [] ↔ _
  simp only [propertiesCheck, Parts.closesProperties_of, hc, Bool.false_eq_true, if_false,
    Parts.named_of, List.flatMap_map, List.flatMap_eq_nil_iff]
  refine forall₂_congr fun m _ => ?_
  cases Members.get? ns m.1 with
  | none => simp
  | some x =>
    show memberFailures (within f m.2 _) m.1 x = [] ↔ _
    rw [memberFailures, List.map_eq_nil_iff]
    exact ⟨fun h _ hx => Option.some.inj hx ▸ h, fun h => h x rfl⟩

theorem memberCheck_properties_of_closes (hc : closes ms = true) :
    memberCheck f ms ("properties", w) p v = [] := by
  show propertiesCheck (Parts.of checkNode f ms) p v = []
  unfold propertiesCheck
  rw [Parts.closesProperties_of, hc]
  cases v <;> rfl

theorem memberCheck_patternProperties_of_closes (hc : closes ms = true) :
    memberCheck f ms ("patternProperties", w) p v = [] := by
  show patternPropertiesCheck (Parts.of checkNode f ms) p v = []
  unfold patternPropertiesCheck
  rw [Parts.closesProperties_of, hc]
  cases v <;> rfl

/-! ## Members of objects -/

/-- A listed member is checked by its own schema before the patterns that match it. -/
theorem closedFailures_listed {k : String} {o : Option Verdict}
    (hl : Members.get? (objectAt ms "properties") k = some w) :
    closedFailures (Parts.of checkNode f ms) p o k v =
      memberFailures (within f w (p ++ [Step.key "properties", .key k])) k v ++
        (matching (Parts.of checkNode f ms) p k).flatMap fun d => memberFailures d k v := by
  simp only [closedFailures, listedFailures_of, hl]
  rfl

theorem closedFailures_of_listed {k : String} {o : Option Verdict}
    (hl : Members.get? (objectAt ms "properties") k = some w) (hp : patternsFor ms k = []) :
    closedFailures (Parts.of checkNode f ms) p o k v =
      memberFailures (within f w (p ++ [Step.key "properties", .key k])) k v := by
  rw [closedFailures_listed hl, matching_of, hp]
  exact List.append_nil _

/-- A member that is not listed and that no pattern matches is left to the others. -/
theorem closedFailures_of_stranger {k : String} {s : Verdict}
    (hl : Members.get? (objectAt ms "properties") k = none) (hp : patternsFor ms k = []) :
    closedFailures (Parts.of checkNode f ms) p (some s) k v = memberFailures s k v := by
  simp only [closedFailures, listedFailures_of, hl, matching_of, hp]
  rfl

/-- A schema for the other members looks after all of them. -/
theorem memberCheck_others {ns os : Members} :
    memberCheck f ms ("additionalProperties", .obj os) p (.obj ns) =
      ns.flatMap fun n => closedFailures (Parts.of checkNode f ms) p
        (some (within f (.obj os) (p ++ [Step.key "additionalProperties"]))) n.1 n.2 := rfl

/-! ## Closed objects -/

/-- The members that neither `properties` lists nor a pattern matches. -/
def strangers (ms ns : Members) : Members :=
  ns.filter fun n => !Members.has (objectAt ms "properties") n.1 && (patternsFor ms n.1).isEmpty

/-- A closed object complains about its members one by one, and then about the strangers. -/
theorem memberCheck_closed {schemas ns : Members} (h : ClosedObject ms schemas) :
    memberCheck f ms ("additionalProperties", .bool false) p (.obj ns) =
      (ns.flatMap fun n => closedFailures (Parts.of checkNode f ms) p none n.1 n.2) ++
        report (p ++ [Step.key "additionalProperties"]) (strangers ms ns).isEmpty
          (.additionalProperties (Members.keys (strangers ms ns))) := by
  show additionalPropertiesCheck (Parts.of checkNode f ms) (Part.of checkNode f (.bool false))
    p (.obj ns) = _
  have listed : ((Parts.of checkNode f ms).get? "properties").isNone = false := by
    rw [Parts.get?_of, h.listed]
    rfl
  simp only [additionalPropertiesCheck, Part.value_of, listed, Bool.false_and, Bool.false_eq_true,
    if_false, unlisted_of]
  rfl

theorem mem_strangers {ns : Members} {n : String × Json} : n ∈ strangers ms ns ↔
    n ∈ ns ∧ n.1 ∉ Members.keys (objectAt ms "properties") ∧ patternsFor ms n.1 = [] := by
  rw [strangers, List.mem_filter, Bool.and_eq_true, List.isEmpty_iff, Bool.not_eq_true',
    Members.has, ← Bool.not_eq_true, Members.get?_isSome_iff]

/-! ## Required names -/

theorem strings_ofStrings (names : List String) : (Json.ofStrings names).strings = names := by
  show (names.map Json.str).filterMap Json.str? = names
  rw [List.filterMap_map]
  exact List.filterMap_some

theorem memberCheck_required_eq_nil {names : List String} {ns : Members} :
    memberCheck f ms ("required", Json.ofStrings names) p (.obj ns) = [] ↔
      ∀ name ∈ names, name ∈ Members.keys ns := by
  show missingFailures _ (Json.ofStrings names).strings ns = [] ↔ _
  rw [strings_ofStrings, missingFailures, List.flatMap_eq_nil_iff]
  simp only [report_eq_nil, Members.has, Members.get?_isSome_iff]

/-! ## Combinations -/

theorem memberCheck_anyOf_eq_nil : memberCheck f ms ("anyOf", w) p v = [] ↔
    ∃ x ∈ (w.arr?.getD []).zipIdx, within f x.1 (p ++ [Step.key "anyOf", .index x.2]) v = [] := by
  show anyOfCheck (Part.of checkNode f w) p v = [] ↔ _
  rw [anyOfCheck, report_eq_nil, branches_of, List.any_map, List.any_eq_true]
  simp only [Function.comp_apply, List.isEmpty_iff]

theorem memberCheck_allOf_eq_nil : memberCheck f ms ("allOf", w) p v = [] ↔
    ∀ x ∈ (w.arr?.getD []).zipIdx, within f x.1 (p ++ [Step.key "allOf", .index x.2]) v = [] := by
  show allOfCheck (Part.of checkNode f w) p v = [] ↔ _
  rw [allOfCheck, branches_of, List.flatMap_map, List.flatMap_eq_nil_iff]

theorem memberCheck_oneOf_eq_nil : memberCheck f ms ("oneOf", w) p v = [] ↔
    ((w.arr?.getD []).zipIdx.countP fun x =>
      (within f x.1 (p ++ [Step.key "oneOf", .index x.2]) v).isEmpty) = 1 := by
  show oneOfCheck (Part.of checkNode f w) p v = [] ↔ _
  have count :
      ((branches (Part.of checkNode f w) p "oneOf").filter fun s => (s v).isEmpty).length =
      (w.arr?.getD []).zipIdx.countP fun x =>
        (within f x.1 (p ++ [Step.key "oneOf", .index x.2]) v).isEmpty := by
    rw [← List.countP_eq_length_filter, branches_of, List.countP_map]
    rfl
  rw [← count, oneOfCheck, List.length_eq_one_iff]
  split
  · simp [*]
  · simp [*]
  · next hnone hmany => simp_all

theorem memberCheck_not_eq_nil : memberCheck f ms ("not", w) p v = [] ↔
    within f w (p ++ [Step.key "not"]) v ≠ [] := by
  show report _ (!(within f w (p ++ [Step.key "not"]) v).isEmpty) _ = [] ↔ _
  rw [report_eq_nil, Bool.not_eq_true', ← Bool.not_eq_true, List.isEmpty_iff]

/-- The keyword that has a say after `if`. -/
def branchKey (passed : Bool) : String := if passed then "then" else "else"

theorem memberCheck_if_eq_nil : memberCheck f ms ("if", w) p v = [] ↔
    ∀ k, k = branchKey (within f w (p ++ [Step.key "if"]) v).isEmpty →
      ∀ s, Members.get? ms k = some s → within f s (p ++ [Step.key k]) v = [] := by
  rw [forall_eq]
  show ifCheck (Parts.of checkNode f ms) (Part.of checkNode f w) p v = [] ↔ _
  unfold ifCheck branchKey
  simp only [Parts.get?_of]
  show (if (within f w (p ++ [Step.key "if"]) v).isEmpty = true then _ else _) = [] ↔ _
  split
  · cases Members.get? ms "then" with
    | none => exact ⟨fun _ => nofun, fun _ => rfl⟩
    | some s => exact ⟨fun h _ hs => Option.some.inj hs ▸ h, fun h => h s rfl⟩
  · cases Members.get? ms "else" with
    | none => exact ⟨fun _ => nofun, fun _ => rfl⟩
    | some s => exact ⟨fun h _ hs => Option.some.inj hs ▸ h, fun h => h s rfl⟩

/-! ## Combinations in a scope -/

namespace Scope

variable {d : Scope}

/-- Whether a value passes does not depend on the place. -/
theorem isEmpty_within (p : Pointer) : (within (d.guide v) w p v).isEmpty = d.admits w v := by
  rw [Bool.eq_iff_iff, List.isEmpty_iff, ← d.admits_iff]

theorem allOf_iff :
    memberCheck (d.guide v) ms ("allOf", w) p v = [] ↔
      ∀ b ∈ w.arr?.getD [], d.admits b v = true := by
  have names := List.zipIdx_map_fst 0 (w.arr?.getD [])
  simp only [memberCheck_allOf_eq_nil, ← d.admits_iff]
  rw [← List.forall_mem_map (f := Prod.fst) (P := (d.admits · v = true)), names]

theorem anyOf_iff :
    memberCheck (d.guide v) ms ("anyOf", w) p v = [] ↔
      ∃ b ∈ w.arr?.getD [], d.admits b v = true := by
  simp only [memberCheck_anyOf_eq_nil, ← d.admits_iff]
  constructor
  · rintro ⟨x, hx, h⟩
    exact ⟨x.1, List.fst_mem_of_mem_zipIdx hx, h⟩
  · rintro ⟨b, hb, h⟩
    obtain ⟨i, hi⟩ := List.getElem?_of_mem hb
    exact ⟨(b, i), List.mk_mem_zipIdx_iff_getElem?.2 hi, h⟩

theorem oneOf_iff :
    memberCheck (d.guide v) ms ("oneOf", w) p v = [] ↔
      (w.arr?.getD []).countP (d.admits · v) = 1 := by
  have names := List.zipIdx_map_fst 0 (w.arr?.getD [])
  rw [memberCheck_oneOf_eq_nil]
  simp only [isEmpty_within]
  rw [← names, List.countP_map, names]
  rfl

theorem not_iff :
    memberCheck (d.guide v) ms ("not", w) p v = [] ↔
      d.admits w v = false := by
  rw [memberCheck_not_eq_nil, Ne, ← d.admits_iff, Bool.not_eq_true]

theorem if_iff :
    memberCheck (d.guide v) ms ("if", w) p v = [] ↔
      ∀ s, Members.get? ms (branchKey (d.admits w v)) = some s → d.admits s v = true := by
  simp only [memberCheck_if_eq_nil, isEmpty_within, ← d.admits_iff, forall_eq]

end Scope

end EntitySchema.Draft7
