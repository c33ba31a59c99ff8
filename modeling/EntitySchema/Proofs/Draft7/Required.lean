import EntitySchema.Proofs.Draft7.Following
import EntitySchema.Proofs.Draft7.Rearranged

/-!
# Objects with another list of required names

No keyword looks at `required`. So an object in which another list of distinct names is required
compiles if the object does (`Requires.compiles`), and it lets those records pass that have the
required names and that nothing else in the object speaks against (`Requires.accepts_iff`).
-/

namespace EntitySchema.Draft7

open Scan (Follows)

variable {ms ns : Members} {names : List String} {f : Guide Verdict} {p : Pointer} {k : String}

/-- The keywords of an object, with another list of required names. -/
abbrev requiring (ms : Members) (names : List String) : Members :=
  Members.insert ms "required" (Json.ofStrings names)

/-- An object that requires some names has this list of required names. -/
theorem requiring_of_get? (h : Members.get? ms "required" = some (Json.ofStrings names)) :
    requiring ms names = ms :=
  Members.insert_of_get? h

theorem held?_requiring (ms : Members) (names : List String) :
    Reference.held? (.obj (requiring ms names)) = Reference.held? (.obj ms) :=
  congrArg (·.bind Json.str?) (Members.get?_insert_of_ne (k := "$ref") (by decide))

/-- What an object requires does not change what references in it are relative to. -/
theorem enter_requiring (base : Reference.Base) (ms : Members) (names : List String) :
    Reference.enter base (.obj (requiring ms names)) = Reference.enter base (.obj ms) := by
  have kept {k : String} (hk : "required" ≠ k) :
      (Json.obj (requiring ms names)).get? k = (Json.obj ms).get? k :=
    Members.get?_insert_of_ne hk
  simp only [Reference.enter, Reference.id?, Json.getStr?, kept (show "required" ≠ "$ref" by decide),
    kept (show "required" ≠ "$id" by decide)]

theorem Parts.get?_of_requiring {γ : Type} (node : Guide γ → Json → Parts γ → Pointer → γ)
    (g : Guide γ) (ms : Members) (names : List String) (hk : k ∈ lookedAt) :
    (Parts.of node g (requiring ms names)).get? k = (Parts.of node g ms).get? k := by
  have other : "required" ≠ k := by
    rintro rfl
    exact absurd hk (by decide)
  rw [get?_of, get?_of, Members.get?_insert_of_ne other]

/-! ## Compiling -/

theorem mem_subschemas_requiring {s : Json}
    (h : s ∈ Reference.subschemas (.obj (requiring ms names))) :
    s ∈ Reference.subschemas (.obj ms) := by
  obtain ⟨m, hm, hs⟩ := mem_subschemas.1 h
  rcases Members.mem_of_mem_insert hm with rfl | hm
  · cases hs
  · exact mem_subschemas_of_mem hm hs

theorem noReferences_requiring (h : NoReferences (.obj ms)) (names : List String) :
    NoReferences (.obj (requiring ms names)) :=
  noReferences_iff.2 ⟨(held?_requiring ms names).trans h.held?,
    fun _ hs => h.inside (mem_subschemas_requiring hs)⟩

theorem addressed_requiring {base : Reference.Base} (h : Addressed (.at base (.obj ms)))
    (names : List String) : Addressed (.at base (.obj (requiring ms names))) := by
  intro y hy
  rw [Reference.Spot.at, enter_requiring] at hy
  cases hy with
  | self => exact h (.at base (.obj ms)) (.self _)
  | inside hin hy =>
    obtain ⟨s, hs, rfl⟩ := mem_inside.1 hin
    exact h y (.inside (mem_inside.2 ⟨s, mem_subschemas_requiring hs, rfl⟩) hy)

theorem isSchema_requiring (h : Meta.IsSchema (.obj ms)) (hd : names.Nodup) :
    Meta.IsSchema (.obj (requiring ms names)) := by
  refine Meta.isSchema_obj_iff.2 fun k w hw => ?_
  rw [Members.get?_insert] at hw
  split at hw
  · next hk =>
    subst hk
    cases hw
    exact Meta.isSchema_required.2 hd
  · exact Meta.isSchema_obj_iff.1 h k w hw

theorem portable_requiring (h : Portable (.obj ms)) (hd : names.Nodup) :
    Portable (.obj (requiring ms names)) where
  noReferences := noReferences_requiring h.noReferences names
  isSchema := isSchema_requiring h.isSchema hd
  addressed := h.addressed.imp fun _ hbase => addressed_requiring hbase names
  readable := by
    obtain ⟨g, q, hq⟩ := h.readable
    obtain ⟨r, named⟩ := base_of_mayPass hq
    obtain ⟨typed, keywords⟩ := mayPass_obj h.noReferences.held? hq
    have inside : RelatedIn Follows (g.enter (.obj ms)) (g.enter (.obj ms)) ms :=
      fun s hs => reading_follows (h.noReferences.inside hs) (.refl _) _ _
    have entered : g.enter (.obj (requiring ms names)) = g.enter (.obj ms) := by
      rw [Guide.enter, enter_requiring, Guide.enter]
    have passes : (readWithin g (.obj (requiring ms names)) q).Passes := by
      refine passes_obj ((held?_requiring ms names).trans h.noReferences.held?)
        (entered ▸ named) (fun v hv => ?_) fun m hm => ?_
      · rw [Members.get?_insert_of_ne (by decide)] at hv
        exact typed v hv
      · rw [entered]
        rcases Members.mem_of_mem_insert hm with rfl | hm
        · exact Scan.passes_lift (checkValue_required names)
        · rw [scanKeyword_congr fun k hk => Parts.get?_of_requiring _ _ ms names hk]
          exact rel_scanKeyword Scan.congruence_follows inside hm q q (keywords m hm)
    exact ⟨g, q, passes.mayPass⟩

/-! ## Values -/

/-- A keyword says what it says whatever names are required. -/
theorem memberCheck_requiring (ms : Members) (names : List String) (m : String × Json) :
    memberCheck f (requiring ms names) m = memberCheck f ms m := by
  unfold memberCheck
  rw [keyword_congr fun k hk => Parts.get?_of_requiring checkNode f ms names hk]

theorem check_requiring_eq_nil (hn : (Members.keys ms).Nodup)
    (hr : Reference.held? (.obj ms) = none) :
    check f (.obj (requiring ms names)) p (.obj ns) = [] ↔
      (∀ m ∈ ms, m.1 ≠ "required" → memberCheck f ms m p (.obj ns) = []) ∧
        ∀ n ∈ names, n ∈ Members.keys ns := by
  rw [check_obj_eq_nil ((held?_requiring ms names).trans hr)]
  simp only [memberCheck_requiring]
  rw [Members.forall_mem_insert hn (P := fun m => memberCheck f ms m p (.obj ns) = []),
    memberCheck_required_eq_nil, and_comm]

/-! ## Objects that require names -/

/-- An object without references that can be compiled, asks for objects and requires some names. -/
structure Requires (ms : Members) (names : List String) : Prop where
  nodup : (Members.keys ms).Nodup
  portable : Portable (.obj ms)
  type : Members.get? ms "type" = some (.str "object")
  required : Members.get? ms "required" = some (Json.ofStrings names)

/-- The keywords of an object have nothing against a record, `required` apart. -/
def OthersPass (ms ns : Members) : Prop :=
  ∀ m ∈ ms, m.1 ≠ "required" → memberCheck Guide.silent ms m [] (.obj ns) = []

namespace Requires

variable {old : List String} {d : Compiled} {v : Json}

/-- The names that an object requires are distinct. -/
theorem nodup_names (h : Requires ms old) : old.Nodup :=
  Meta.isSchema_required.1 (Meta.isSchema_obj_iff.1 h.portable.isSchema _ _ h.required)

theorem compiles (h : Requires ms old) (hnew : names.Nodup) :
    ∃ d, Compiled.compile (.obj (requiring ms names)) = .ok d :=
  (portable_requiring h.portable hnew).compiles

/-- **Required names.** With another list of required names, the object lets those records pass that
have these names and that its other keywords have nothing against. -/
theorem accepts_iff (h : Requires ms old)
    (hd : Compiled.compile (.obj (requiring ms names)) = .ok d) : d.accepts v = true ↔
      ∃ ns, v = .obj ns ∧ OthersPass ms ns ∧ ∀ n ∈ names, n ∈ Members.keys ns := by
  have references := noReferences_requiring h.portable.noReferences names
  rw [Compiled.accepts_iff_of_noReferences hd references Guide.silent []]
  have record (ns : Members) : check Guide.silent (.obj (requiring ms names)) [] (.obj ns) =
      [] ↔ OthersPass ms ns ∧ ∀ n ∈ names, n ∈ Members.keys ns :=
    check_requiring_eq_nil h.nodup h.portable.noReferences.held?
  constructor
  · intro hv
    have type : Members.get? (requiring ms names) "type" = some (.str "object") :=
      (Members.get?_insert_of_ne (by decide)).trans h.type
    have typed := memberCheck_eq_nil references.held? hv type
    rw [memberCheck_type, typeCheck_str_eq_nil] at typed
    obtain ⟨ns, rfl⟩ := hasType_object.1 typed
    exact ⟨ns, rfl, (record ns).1 hv⟩
  · rintro ⟨ns, rfl, hns⟩
    exact (record ns).2 hns

end Requires

end EntitySchema.Draft7
