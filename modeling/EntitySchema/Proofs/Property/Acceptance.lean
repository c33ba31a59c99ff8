import EntitySchema.Proofs.Draft7.Keywords
import EntitySchema.Proofs.Property.Derivation

/-!
# What passes the schema of a property

The schema of a property is the fragment without its directives, maybe in a union with null. A value
other than null that passes it passes all the keywords of the fragment, among them the one that the
storage type was derived from. Hence it is a listed value, or it has the declared type that became
the storage type (`derive_admits`).

The declared type comes from the fragment or from a branch of its union. The value passes this
declaration too, unless the union is an `anyOf`: then another branch may be the one that lets it
pass.
-/

namespace EntitySchema

open Draft7 (check within)

variable {g : Draft7.Guide Draft7.Verdict} {p : Pointer}

/-! ## The union with null -/

theorem within_null_eq_nil {v : Json} :
    within g (.obj [("type", .str "null")]) p v = [] ↔ v = .null := by
  rw [Draft7.within_of_plain rfl, Draft7.check_obj_eq_nil rfl, List.forall_mem_singleton, Draft7.memberCheck_type,
    Draft7.typeCheck_str_eq_nil]
  cases v <;> simp [Draft7.hasType]

/-- The union has no identifier of its own, so the schema in it stands where the union does. -/
theorem within_orNull_eq_nil {s v : Json} : within g (Property.orNull s) p v = [] ↔
    within g s (p ++ [Step.key "anyOf", .index 0]) v = [] ∨ v = .null := by
  rw [Property.orNull, Draft7.within_of_plain rfl, Draft7.check_obj_eq_nil rfl, List.forall_mem_singleton,
    Draft7.memberCheck_anyOf_eq_nil]
  simp [Json.arr?, within_null_eq_nil]

theorem admits_orNull (d : Draft7.Scope) (s v : Json) :
    d.admits (Property.orNull s) v = true ↔ d.admits s v = true ∨ v = .null := by
  rw [d.admits_iff [], within_orNull_eq_nil, ← d.admits_iff]

/-- A value other than null that passes the schema of a property passes the keywords of its
fragment. -/
theorem admits_validation {c : Catalog} {json : StorageType} {f : Fragment} {required : Bool}
    {x : Property} {d : Draft7.Scope} {v : Json} (h : Property.split c json f required = .ok x)
    (hv : v ≠ .null) (hd : d.admits x.schema v = true) :
    d.admits (.obj f.validation) v = true := by
  obtain ⟨-, -, -, -, hschema⟩ := Property.split_eq_ok h
  rw [hschema] at hd
  split at hd
  · exact ((admits_orNull d _ v).1 hd).resolve_right hv
  · exact hd

/-! ## Deciding members -/

/-- The members of a schema, or of a branch of one of its unions: where a declared type may come
from. -/
inductive Decides (ms : Members) : Members → Prop
  | own : Decides ms ms
  | branch {k : String} {branches : List Json} {ns : Members} : k ∈ ["anyOf", "allOf"] →
      Members.get? ms k = some (.arr branches) → .obj ns ∈ branches → Decides ms ns

/-- A fragment means what its keywords say: neither it nor a branch of its unions is a reference. -/
structure Fragment.Direct (f : Fragment) : Prop where
  own : f.get? "$ref" = none
  branch : ∀ k ∈ ["anyOf", "allOf"], ∀ branches, f.get? k = some (.arr branches) →
    ∀ b ∈ branches, b.get? "$ref" = none

theorem Fragment.Direct.decides {f : Fragment} (h : f.Direct) {ns : Members}
    (hn : Decides f.validation ns) : Members.get? ns "$ref" = none := by
  cases hn with
  | own => rw [f.get?_validation (by decide), h.own]
  | @branch k branches ns hk hget hmem =>
    have known : ∀ j ∈ ["anyOf", "allOf"], Directive.isColumn j = false := by decide
    rw [f.get?_validation (known k hk)] at hget
    exact h.branch k hk branches hget _ hmem

/-- Whether a fragment means what its keywords say can be computed. -/
theorem Fragment.direct_of_run {f : Fragment} (own : f.get? "$ref" = none)
    (h : ∀ k ∈ ["anyOf", "allOf"], ((f.get? k).bind Json.arr?).all
      (fun branches => branches.all fun b => b.get? "$ref" |>.isNone) = true) : f.Direct where
  own := own
  branch k hk branches hget b hb := by
    have run := h k hk
    rw [hget] at run
    exact Option.isNone_iff_eq_none.1 (List.all_eq_true.1 run b hb)

/-! ## Derived types -/

variable {c : Catalog} {json : StorageType} {ms : Members} {d : Draft7.Scope} {v : Json}

/-- A value that a schema object lets pass passes each of its keywords. -/
theorem admits_member {k : String} {w : Json} (hr : Members.get? ms "$ref" = none)
    (hd : d.admits (.obj ms) v = true) (hw : Members.get? ms k = some w) :
    Draft7.memberCheck ((d.enter (.obj ms)).guide v) ms (k, w) [] v = [] :=
  Draft7.memberCheck_eq_nil (Draft7.held?_eq_none hr) ((d.admits_iff []).1 hd) hw

theorem hasType_of_admits {t : String} (hr : Members.get? ms "$ref" = none)
    (hd : d.admits (.obj ms) v = true) (ht : Members.get? ms "type" = some (.str t)) :
    Draft7.hasType t v = true := by
  simpa [Draft7.memberCheck_type, Draft7.typeCheck_str_eq_nil] using admits_member hr hd ht

/-- A schema that declares a type is an object. -/
theorem exists_members_of_declares {b : Json} {t : String} (h : b.getStr? "type" = some t) :
    ∃ ns, b = .obj ns ∧ Members.get? ns "type" = some (.str t) := by
  cases b with
  | obj ns =>
    obtain ⟨x, hx, hs⟩ := Option.bind_eq_some_iff.1 h
    cases x <;> cases hs
    exact ⟨ns, rfl, hx⟩
  | _ => cases h

/-- A value that passes `anyOf` passes one of its branches. -/
theorem exists_branch_of_admits {branches : List Json} (hr : Members.get? ms "$ref" = none)
    (hd : d.admits (.obj ms) v = true) (hu : Members.get? ms "anyOf" = some (.arr branches)) :
    ∃ b ∈ branches, (d.enter (.obj ms)).admits b v = true :=
  Draft7.Scope.anyOf_iff.1 (admits_member hr hd hu)

/-- A value that passes `allOf` passes all of its branches. -/
theorem branch_of_admits {branches : List Json} {b : Json} (hr : Members.get? ms "$ref" = none)
    (hd : d.admits (.obj ms) v = true) (hu : Members.get? ms "allOf" = some (.arr branches))
    (hb : b ∈ branches) : (d.enter (.obj ms)).admits b v = true :=
  Draft7.Scope.allOf_iff.1 (admits_member hr hd hu) b hb

/-- A value other than null that passes a union has the type that its branches declare. It passes
the first of them, unless another branch of an `anyOf` lets it pass. -/
theorem union_admits {t : StorageType} {k : String} {branches : List Json}
    (hu : Resolution.union? ms = some (k, branches))
    (ht : Resolution.ofUnion c json k branches = .ok t)
    (hr : ∀ ns, Decides ms ns → Members.get? ns "$ref" = none) (hv : v ≠ .null)
    (hd : d.admits (.obj ms) v = true) : ∃ name ns, Decides ms ns ∧
      Resolution.ofDeclared c json (some (.str name)) ns = .ok t ∧
      Draft7.hasType name v = true ∧ ((d.enter (.obj ms)).admits (.obj ns) v = true ∨
        ∃ branches ns', Members.get? ms "anyOf" = some (.arr branches) ∧ .obj ns' ∈ branches ∧
          (d.enter (.obj ms)).admits (.obj ns') v = true) := by
  obtain ⟨first, rest, shared, hm, -, hfirst, hshared, hdeclared⟩ := Resolution.ofUnion_eq_ok ht
  obtain ⟨hk, hget⟩ := Resolution.union?_eq_some hu
  have hmem : first ∈ branches := (List.mem_filter.1 (hm ▸ List.mem_cons_self)).1
  have decides {ns : Members} (h : .obj ns ∈ branches) : Decides ms ns :=
    .branch (by simpa using hk) hget h
  obtain ⟨ns, rfl, htype⟩ := exists_members_of_declares hfirst
  have declared : Resolution.ofDeclared c json (some (.str shared)) ns = .ok t := by
    rw [← htype]
    exact hdeclared
  have own : Members.get? ms "$ref" = none := hr ms .own
  rcases hk with rfl | rfl
  · obtain ⟨b, hb, hadmits⟩ := exists_branch_of_admits own hd hget
    have typed {t : String} (hbt : b.getStr? "type" = some t) : ∃ ns', b = .obj ns' ∧
        Draft7.hasType t v = true := by
      obtain ⟨ns', rfl, htype'⟩ := exists_members_of_declares hbt
      exact ⟨ns', rfl, hasType_of_admits (hr ns' (decides hb)) hadmits htype'⟩
    have hmeaningful : b ∈ Resolution.meaningful branches := by
      refine List.mem_filter.2 ⟨hb, ?_⟩
      suffices b.getStr? "type" ≠ some "null" by simpa
      intro hnull
      obtain ⟨-, -, hnone⟩ := typed hnull
      cases v <;> simp [Draft7.hasType] at hnone hv
    obtain ⟨ns', rfl, hshares⟩ := typed (hshared b hmeaningful)
    exact ⟨shared, ns, decides hmem, declared, hshares, .inr ⟨branches, ns', hget, hb, hadmits⟩⟩
  · have hadmits := branch_of_admits own hd hget hmem
    exact ⟨shared, ns, decides hmem, declared,
      hasType_of_admits (hr ns (decides hmem)) hadmits htype, .inl hadmits⟩

/-- **Derived types.** A value other than null that passes a schema whose storage type is derived is
a listed value, or it has the declared type that the storage type comes from. Then it passes the
members that declare it, unless a branch of an `anyOf` lets it pass. -/
theorem derive_admits {r : Resolution} (h : Resolution.derive c json ms = .ok r)
    (hr : ∀ ns, Decides ms ns → Members.get? ns "$ref" = none) (hv : v ≠ .null)
    (hd : d.admits (.obj ms) v = true) :
    (c.resolve? "ENUM" = some r.type ∧ ∃ values, r.values = some values ∧
      ∃ w ∈ values, Json.equal v w = true) ∨
    ∃ name ns, Decides ms ns ∧
      Resolution.ofDeclared c json (some (.str name)) ns = .ok r.type ∧
      Draft7.hasType name v = true ∧ ((∃ scope : Draft7.Scope, scope.admits (.obj ns) v = true) ∨
        ∃ branches ns', Members.get? ms "anyOf" = some (.arr branches) ∧ .obj ns' ∈ branches ∧
          (d.enter (.obj ms)).admits (.obj ns') v = true) := by
  rcases Resolution.derive_eq_ok h with
    ⟨values, hvalues, htype, hr'⟩ | ⟨k, branches, -, hu, ht, -⟩ | ⟨-, -, ht, -⟩
  · obtain ⟨-, -, hlisted, -⟩ := Resolution.enumValues_eq_some hvalues
    exact .inl ⟨Resolution.named_eq_ok.1 htype, values, hr',
      Draft7.memberCheck_enum_eq_nil.1 (admits_member (hr ms .own) hd hlisted)⟩
  · obtain ⟨name, ns, hn, hdeclared, htyped, hpasses⟩ := union_admits hu ht hr hv hd
    exact .inr ⟨name, ns, hn, hdeclared, htyped, hpasses.imp_left fun h => ⟨_, h⟩⟩
  · obtain ⟨name, hname⟩ := Resolution.ofDeclared_eq_ok ht
    rw [hname] at ht
    exact .inr ⟨name, ms, .own, ht, hasType_of_admits (hr ms .own) hd hname, .inl ⟨d, hd⟩⟩

end EntitySchema
