import EntitySchema.Proofs.Draft7.Keywords

/-!
# Where in a value failures are

Most keywords complain about the value as a whole, so their failures are at its root
(`keyword_atRoot`). The others, `applicators`, pass on what schemas say about what is in the value,
or about the value itself.

A closed object has no failures at a member just when the schema that lists the member has nothing
against it and the other keywords leave it alone (`silentAt_check_iff`).
-/

namespace EntitySchema.Draft7

/-- All failures are about the value as a whole. -/
def AtRoot (fs : List Failure) : Prop := ∀ x ∈ fs, x.instancePath = []

theorem atRoot_nil : AtRoot [] := nofun

theorem atRoot_singleton {place : Pointer} {c : Complaint} : AtRoot [⟨[], place, c⟩] :=
  fun _ hx => (List.mem_singleton.1 hx).symm ▸ rfl

theorem atRoot_report {place : Pointer} {ok : Bool} {c : Complaint} :
    AtRoot (report place ok c) := by
  unfold report
  split
  · exact atRoot_nil
  · exact atRoot_singleton

theorem atRoot_flatMap {α : Type} {xs : List α} {h : α → List Failure}
    (hx : ∀ a ∈ xs, AtRoot (h a)) : AtRoot (xs.flatMap h) := by
  intro y hy
  obtain ⟨a, ha, hy⟩ := List.mem_flatMap.1 hy
  exact hx a ha y hy

/-! ## Keywords that complain about the value as a whole -/

/-- The keywords that pass on what schemas say. -/
def applicators : List String :=
  ["items", "additionalItems", "properties", "patternProperties", "additionalProperties",
    "propertyNames", "dependencies", "allOf", "if"]

variable {ps : Parts Verdict} {part : Part Verdict} {w v : Json} {p : Pointer} {k : String}

theorem boundCheck_atRoot {name : String} {fails : Number → Number → Bool}
    {complaint : Json → Json → Complaint} : AtRoot (boundCheck name fails complaint w p v) := by
  unfold boundCheck
  split
  · exact atRoot_report
  · exact atRoot_nil

theorem multipleCheck_atRoot : AtRoot (multipleCheck w p v) := by
  unfold multipleCheck
  split
  · exact atRoot_report
  · exact atRoot_nil

theorem sizeCheck_atRoot {name type : String} {ok : Nat → Nat → Bool}
    {complaint : Json → Nat → Complaint} : AtRoot (sizeCheck name type ok complaint w p v) := by
  unfold sizeCheck
  split
  · split
    · exact atRoot_report
    · exact atRoot_nil
  · exact atRoot_nil

theorem patternCheck_atRoot : AtRoot (patternCheck w p v) := by
  unfold patternCheck
  split
  · exact atRoot_report
  · exact atRoot_nil

theorem formatCheck_atRoot : AtRoot (formatCheck w p v) := by
  unfold formatCheck
  split
  · exact atRoot_report
  · exact atRoot_nil

theorem mediaTypeCheck_atRoot : AtRoot (mediaTypeCheck ps w p v) := by
  unfold mediaTypeCheck
  split
  · split
    · exact atRoot_report
    · split
      · exact atRoot_singleton
      · split
        · exact atRoot_singleton
        · exact atRoot_report
    · exact atRoot_nil
  · exact atRoot_nil

theorem encodingCheck_atRoot : AtRoot (encodingCheck ps w p v) := by
  unfold encodingCheck
  split
  · split
    · exact atRoot_nil
    · exact atRoot_report
  · exact atRoot_nil

theorem uniqueCheck_atRoot : AtRoot (uniqueCheck w p v) := by
  unfold uniqueCheck
  split
  · exact atRoot_report
  · exact atRoot_nil

theorem containsCheck_atRoot : AtRoot (containsCheck part p v) := by
  unfold containsCheck
  split
  · exact atRoot_report
  · exact atRoot_nil

theorem requiredCheck_atRoot : AtRoot (requiredCheck w p v) := by
  unfold requiredCheck
  split
  · exact atRoot_flatMap fun _ _ => atRoot_report
  · exact atRoot_nil

theorem oneOfCheck_atRoot : AtRoot (oneOfCheck part p v) := by
  unfold oneOfCheck
  dsimp only
  split
  · exact atRoot_singleton
  · exact atRoot_nil
  · exact atRoot_singleton

theorem atRoot_ite {c : Prop} [Decidable c] {s t : Check} (hs : c → AtRoot (s p v))
    (ht : ¬c → AtRoot (t p v)) : AtRoot ((if c then s else t) p v) := by
  split
  · exact hs ‹_›
  · exact ht ‹_›

/-- A keyword that passes nothing on complains about the value as a whole. -/
theorem keyword_atRoot (hk : k ∉ applicators) : AtRoot (keyword ps k part p v) := by
  have passed (hin : k ∈ applicators) {s : Check} : AtRoot (s p v) := absurd hin hk
  unfold keyword
  refine atRoot_ite (fun _ => atRoot_report) fun _ => ?_
  refine atRoot_ite (fun _ => atRoot_report) fun _ => ?_
  refine atRoot_ite (fun _ => atRoot_report) fun _ => ?_
  refine atRoot_ite (fun _ => boundCheck_atRoot) fun _ => ?_
  refine atRoot_ite (fun _ => boundCheck_atRoot) fun _ => ?_
  refine atRoot_ite (fun _ => boundCheck_atRoot) fun _ => ?_
  refine atRoot_ite (fun _ => boundCheck_atRoot) fun _ => ?_
  refine atRoot_ite (fun _ => multipleCheck_atRoot) fun _ => ?_
  refine atRoot_ite (fun _ => sizeCheck_atRoot) fun _ => ?_
  refine atRoot_ite (fun _ => sizeCheck_atRoot) fun _ => ?_
  refine atRoot_ite (fun _ => patternCheck_atRoot) fun _ => ?_
  refine atRoot_ite (fun _ => formatCheck_atRoot) fun _ => ?_
  refine atRoot_ite (fun _ => mediaTypeCheck_atRoot) fun _ => ?_
  refine atRoot_ite (fun _ => encodingCheck_atRoot) fun _ => ?_
  refine atRoot_ite (fun h => passed (h ▸ by decide)) fun _ => ?_
  refine atRoot_ite (fun h => passed (h ▸ by decide)) fun _ => ?_
  refine atRoot_ite (fun _ => sizeCheck_atRoot) fun _ => ?_
  refine atRoot_ite (fun _ => sizeCheck_atRoot) fun _ => ?_
  refine atRoot_ite (fun _ => uniqueCheck_atRoot) fun _ => ?_
  refine atRoot_ite (fun _ => containsCheck_atRoot) fun _ => ?_
  refine atRoot_ite (fun _ => sizeCheck_atRoot) fun _ => ?_
  refine atRoot_ite (fun _ => sizeCheck_atRoot) fun _ => ?_
  refine atRoot_ite (fun _ => requiredCheck_atRoot) fun _ => ?_
  refine atRoot_ite (fun h => passed (h ▸ by decide)) fun _ => ?_
  refine atRoot_ite (fun h => passed (h ▸ by decide)) fun _ => ?_
  refine atRoot_ite (fun h => passed (h ▸ by decide)) fun _ => ?_
  refine atRoot_ite (fun h => passed (h ▸ by decide)) fun _ => ?_
  refine atRoot_ite (fun h => passed (h ▸ by decide)) fun _ => ?_
  refine atRoot_ite (fun h => passed (h ▸ by decide)) fun _ => ?_
  refine atRoot_ite (fun _ => atRoot_report) fun _ => ?_
  refine atRoot_ite (fun _ => oneOfCheck_atRoot) fun _ => ?_
  refine atRoot_ite (fun _ => atRoot_report) fun _ => ?_
  exact atRoot_ite (fun h => passed (h ▸ by decide)) fun _ => atRoot_nil

theorem additionalItemsCheck_atRoot (hv : v.arr? = none) :
    AtRoot (additionalItemsCheck ps part p v) := by
  unfold additionalItemsCheck
  dsimp only
  split
  · exact atRoot_singleton
  · cases hv
  · exact atRoot_nil

/-! ## Strings -/

variable {f : Guide Verdict} {ms ns : Members} {t : String}

theorem allOfCheck_atRoot (h : ∀ s ∈ schemasUnder "allOf" w, ∀ p, AtRoot (within f s p v)) :
    AtRoot (allOfCheck (Part.of checkNode f w) p v) := by
  unfold allOfCheck
  rw [branches_of, List.flatMap_map]
  exact atRoot_flatMap fun x hx => h x.1 (List.fst_mem_of_mem_zipIdx hx) _

theorem ifCheck_atRoot (h : ∀ k, k = "then" ∨ k = "else" → ∀ s, Members.get? ms k = some s →
      ∀ p, AtRoot (within f s p v)) :
    AtRoot (ifCheck (Parts.of checkNode f ms) part p v) := by
  unfold ifCheck
  simp only [Parts.get?_of]
  split
  · cases hs : Members.get? ms "then" with
    | none => exact atRoot_nil
    | some s => exact h _ (.inl rfl) s hs _
  · cases hs : Members.get? ms "else" with
    | none => exact atRoot_nil
    | some s => exact h _ (.inr rfl) s hs _

/-- Nothing is in a string, so all failures about a string are at its root. -/
theorem check_str_atRoot (h : ∀ base r p, AtRoot (f.follow base r p (.str t))) (schema : Json)
    (p : Pointer) : AtRoot (check f schema p (.str t)) := by
  induction schema using schemaInduction generalizing f p with
  | h schema ih =>
    have inside : ∀ s ∈ Reference.subschemas schema, ∀ p, AtRoot (within f s p (.str t)) :=
      fun s hs p => ih s hs (f := f.enter s) h p
    cases ho : schema.obj? with
    | none =>
      by_cases hf : schema = .bool false
      · rw [hf]
        exact atRoot_singleton
      · rw [check_of_not_schema ho hf]
        exact atRoot_nil
    | some ms =>
      obtain rfl : schema = .obj ms := by cases schema <;> cases ho; rfl
      cases hr : Reference.held? (.obj ms) with
      | some r =>
        rw [check_obj_of_held hr]
        exact h _ r p
      | none =>
        rw [check_obj hr]
        refine atRoot_flatMap fun m hm => ?_
        obtain ⟨k, w⟩ := m
        by_cases hk : k ∈ applicators
        · simp only [applicators, List.mem_cons, List.not_mem_nil, or_false] at hk
          rcases hk with rfl | rfl | rfl | rfl | rfl | rfl | rfl | rfl | rfl
          · exact atRoot_nil
          · exact additionalItemsCheck_atRoot rfl
          · exact atRoot_nil
          · exact atRoot_nil
          · exact atRoot_nil
          · exact atRoot_nil
          · exact atRoot_nil
          · exact allOfCheck_atRoot fun s hs => inside s (mem_subschemas_of_mem hm hs)
          · exact ifCheck_atRoot fun k hk s hs =>
              inside s (mem_subschemas_of_mem (Members.mem_of_get? hs) (by
                rcases hk with rfl | rfl <;> exact List.mem_cons_self))
        · exact keyword_atRoot hk

theorem lead_str_atRoot (g : Reference.Index) (n : Nat) (base : Reference.Base) (r : String)
    (p : Pointer) : AtRoot (lead g n base r p (.str t)) := by
  induction n generalizing base r p with
  | zero => exact atRoot_nil
  | succ n ih =>
    cases h : Reference.resolve g base r with
    | error b =>
      rw [lead_succ_error h]
      exact atRoot_nil
    | ok found =>
      rw [lead_succ_ok h]
      exact check_str_atRoot ih _ p

/-! ## Closed objects -/

theorem propertyNamesCheck_atRoot (h : ∀ name p, AtRoot (within f w p (.str name))) :
    AtRoot (propertyNamesCheck (Part.of checkNode f w) p (.obj ns)) := by
  unfold propertyNamesCheck
  dsimp only
  split
  · exact atRoot_report
  · exact atRoot_flatMap fun m _ => h m.1 _

/-- A keyword of an object that asks neither for the members nor for more about the object complains
about the object as a whole. -/
theorem memberCheck_obj_atRoot {base : Reference.Base} {g : Reference.Index} {n : Nat}
    (hk : k ∉ ["properties", "patternProperties", "additionalProperties", "dependencies", "allOf",
      "if"]) : AtRoot (memberCheck ⟨base, lead g n⟩ ms (k, w) p (.obj ns)) := by
  by_cases ha : k ∈ applicators
  · have hk : k = "items" ∨ k = "additionalItems" ∨ k = "propertyNames" := by
      simp only [applicators, List.mem_cons, List.not_mem_nil, or_false, not_or] at ha hk
      tauto
    rcases hk with rfl | rfl | rfl
    · exact atRoot_nil
    · exact additionalItemsCheck_atRoot rfl
    · exact propertyNamesCheck_atRoot fun name p => check_str_atRoot (lead_str_atRoot g n) w p
  · exact keyword_atRoot ha

/-- No failure is at the member `k` of a value or inside it. -/
def SilentAt (k : String) (fs : List Failure) : Prop :=
  ∀ x ∈ fs, ¬ [Step.key k] <+: x.instancePath

theorem AtRoot.silentAt {fs : List Failure} (h : AtRoot fs) (k : String) : SilentAt k fs := by
  intro x hx hp
  rw [h x hx] at hp
  cases List.prefix_nil.1 hp

theorem silentAt_append {fs gs : List Failure} :
    SilentAt k (fs ++ gs) ↔ SilentAt k fs ∧ SilentAt k gs := List.forall_mem_append

theorem silentAt_flatMap {α : Type} {xs : List α} {h : α → List Failure} :
    SilentAt k (xs.flatMap h) ↔ ∀ a ∈ xs, SilentAt k (h a) := by
  simp only [SilentAt, List.mem_flatMap]
  exact ⟨fun H a ha x hx => H x ⟨a, ha, hx⟩, fun H x ⟨a, ha, hx⟩ => H a ha x hx⟩

theorem silentAt_memberFailures {d : Verdict} : SilentAt k (memberFailures d k v) ↔ d v = [] := by
  constructor
  · intro h
    refine List.eq_nil_iff_forall_not_mem.2 fun x hx => ?_
    exact h _ (List.mem_map_of_mem hx) (List.cons_prefix_cons.2 ⟨rfl, List.nil_prefix⟩)
  · intro h
    rw [memberFailures, h]
    exact atRoot_nil.silentAt k

theorem silentAt_told {fs gs : List Failure} (h : told fs = told gs) :
    SilentAt k fs ↔ SilentAt k gs := by
  have paths (hs : List Failure) :
      SilentAt k hs ↔ ∀ t ∈ told hs, ¬ [Step.key k] <+: t.1 := by
    simp [SilentAt, told]
  rw [paths, paths, h]

/-- No keyword of an object but its list of properties has something against the member `k` with the
value `v`, or against what is in it. -/
structure LeavesAlone (f : Guide Verdict) (ms : Members) (p : Pointer) (k : String)
    (v : Json) : Prop where
  patterns : ∀ m ∈ patternsFor ms k,
    within f m.2 (p ++ [Step.key "patternProperties", .key m.1]) v = []
  keywords : ∀ j ∈ ["dependencies", "allOf", "if"], ∀ w, Members.get? ms j = some w →
    SilentAt k (memberCheck f ms (j, w) p (.obj [(k, v)]))

theorem leavesAlone_of_absent (hp : patternsFor ms k = [])
    (hk : ∀ j ∈ ["dependencies", "allOf", "if"], Members.get? ms j = none) :
    LeavesAlone f ms p k v where
  patterns := by
    rw [hp]
    exact nofun
  keywords j hj w hw := by
    rw [hk j hj] at hw
    cases hw

section
variable {schemas : Members} {s : Json} {base : Reference.Base}
  {g : Reference.Index} {n : Nat}

theorem silentAt_closed (ho : ClosedObject ms schemas) (hs : Members.get? schemas k = some s) :
    SilentAt k (memberCheck f ms ("additionalProperties", .bool false) p (.obj [(k, v)])) ↔
      within f s (p ++ [Step.key "properties", .key k]) v = [] ∧
      ∀ m ∈ patternsFor ms k,
        within f m.2 (p ++ [Step.key "patternProperties", .key m.1]) v = [] := by
  have listed : Members.get? (objectAt ms "properties") k = some s := by rw [ho.objectAt, hs]
  rw [memberCheck_closed ho, silentAt_append, and_iff_left (atRoot_report.silentAt k),
    silentAt_flatMap, List.forall_mem_singleton, closedFailures_listed listed, silentAt_append,
    silentAt_memberFailures, matching_of, silentAt_flatMap, List.forall_mem_map]
  simp only [silentAt_memberFailures]

/-- A closed object has no failures at a member just when the schema that lists the member has
nothing against its value and the other keywords leave it alone. -/
theorem silentAt_check_iff (ho : ClosedObject ms schemas) (hs : Members.get? schemas k = some s) :
    SilentAt k (check ⟨base, lead g n⟩ (.obj ms) p (.obj [(k, v)])) ↔
      within ⟨base, lead g n⟩ s [] v = [] ∧ LeavesAlone ⟨base, lead g n⟩ ms p k v := by
  have own : within ⟨base, lead g n⟩ s [] v = [] ↔
      within ⟨base, lead g n⟩ s (p ++ [Step.key "properties", .key k]) v = [] :=
    check_lead_eq_nil ..
  rw [check_obj ho.held, silentAt_flatMap, own]
  constructor
  · intro h
    obtain ⟨own, patterns⟩ := (silentAt_closed ho hs).1 (h _ (Members.mem_of_get? ho.closed))
    exact ⟨own, patterns, fun j _ w hw => h _ (Members.mem_of_get? hw)⟩
  · rintro ⟨own, patterns, keywords⟩ ⟨j, w⟩ hm
    show SilentAt k (memberCheck ⟨base, lead g n⟩ ms (j, w) p (.obj [(k, v)]))
    have hw := Members.get?_of_mem ho.nodup hm
    have closes : closes ms = true := by rw [closes, ho.closed]
    by_cases hj : j ∈ ["properties", "patternProperties", "additionalProperties", "dependencies",
      "allOf", "if"]
    · simp only [List.mem_cons, List.not_mem_nil, or_false] at hj
      rcases hj with rfl | rfl | rfl | rfl | rfl | rfl
      · rw [memberCheck_properties_of_closes closes]
        exact atRoot_nil.silentAt k
      · rw [memberCheck_patternProperties_of_closes closes]
        exact atRoot_nil.silentAt k
      · obtain rfl : w = .bool false := Option.some.inj (hw.symm.trans ho.closed)
        exact (silentAt_closed ho hs).2 ⟨own, patterns⟩
      · exact keywords _ (by decide) w hw
      · exact keywords _ (by decide) w hw
      · exact keywords _ (by decide) w hw
    · exact (memberCheck_obj_atRoot hj).silentAt k

/-- The document has nothing against a field but what its list of properties has. -/
def Compiled.LeavesAlone (c : Compiled) (k : String) (v : Json) : Prop :=
  Draft7.LeavesAlone ((c.scope.enter c.root).guide (.obj [(k, v)])) (c.root.obj?.getD []) [] k v

theorem Compiled.silentAt_failures_iff {c : Compiled} (hc : c.root = .obj ms)
    (ho : ClosedObject ms schemas) (hs : Members.get? schemas k = some s)
    (hr : NoReferences s) (f : Guide Verdict) (q : Pointer) :
    SilentAt k (c.failures (.obj [(k, v)])) ↔ check f s q v = [] ∧ c.LeavesAlone k v := by
  rw [silentAt_told (c.told_failures [] _), LeavesAlone, hc]
  exact (silentAt_check_iff ho hs).trans (and_congr_left' (hr.check_eq_nil ..))

end

end EntitySchema.Draft7
