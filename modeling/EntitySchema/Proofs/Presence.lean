import EntitySchema.Proofs.Draft7.Required
import EntitySchema.Proofs.EditLaws

/-!
# Required and optional properties

Requiring properties of a compiled entity, or not requiring them any more, changes what a record
must have and nothing else: the edited document compiles, and a record passes it just when the other
keywords have nothing against it and it has the names that are now required
(`presence_is_decisive`).

Both edits put another list of names into the document, and the names in it stay distinct. That the
names of the original are distinct is known because the document compiles. A reference could lead to
the list of names, so the document must not have any.
-/

namespace EntitySchema

open Draft7 (Requires requiring)

section
variable {c : Compiler} {e : Entity} {a : Artifact} {ms : Members} {old names : List String}

/-- The document of a compiled entity without references requires what the entity requires. -/
theorem Compiler.requires_of_compile (h : c.compile e = .ok a)
    (hr : Draft7.NoReferences a.schema) : ∃ ms, a.schema = .obj ms ∧ Requires ms e.required := by
  obtain ⟨schemas, d, hschema, hd, -⟩ := schema_of_compile h
  rw [hschema] at hr hd
  refine ⟨_, hschema, e.nodup_documentMembers schemas, Draft7.portable_of_compile hd hr, ?_, ?_⟩
  · simp [Entity.get?_documentMembers]
  · simp [Entity.get?_documentMembers]

theorem requiredItems_of_requires (h : Requires ms old) :
    Document.requiredItems (.obj ms) = old.map .str := by
  rw [Document.requiredItems, ← Document.get?_eq_members]
  show ((Members.get? ms "required").bind Json.arr?).getD [] = _
  rw [h.required]
  rfl

/-- **Presence.** Properties of a compiled entity without references are required, or are not any
more. Both documents compile. The first one lets those values pass that the original lets pass and
that have the names; the second one lets all these pass, and of the values that have the names no
others. -/
theorem presence_is_decisive (h : c.compile e = .ok a) (hr : Draft7.NoReferences a.schema)
    (hne : names ≠ []) (hall : Document.HasAll a.schema names) (operation : String)
    (label : Option String) : ∃ x y z,
      Validator.compile a.schema label = .ok x ∧
      (do Validator.compile (← Document.required a.schema names) label) = .ok y ∧
      (do Validator.compile (← Document.notRequired operation a.schema names) label) = .ok z ∧
      ∀ v, (y.validate v = .ok () ↔
          x.validate v = .ok () ∧ ∀ n ∈ names, (v.get? n).isSome = true) ∧
        (x.validate v = .ok () → z.validate v = .ok ()) ∧
        (z.validate v = .ok () → (∀ n ∈ names, (v.get? n).isSome = true) →
          x.validate v = .ok ()) := by
  obtain ⟨ms, hschema, hms⟩ := Compiler.requires_of_compile h hr
  rw [hschema] at hall ⊢
  have items := requiredItems_of_requires hms
  have own : requiring ms e.required = ms := Draft7.requiring_of_get? hms.required
  have more : (names.foldl Document.appendName e.required).Nodup :=
    Document.nodup_foldl_appendName hms.nodup_names
  have fewer : (e.required.filter (· ∉ names)).Nodup := hms.nodup_names.filter _
  obtain ⟨dx, hdx⟩ := hms.compiles hms.nodup_names
  obtain ⟨dy, hdy⟩ := hms.compiles more
  obtain ⟨dz, hdz⟩ := hms.compiles fewer
  refine ⟨⟨dx, label⟩, ⟨dy, label⟩, ⟨dz, label⟩, ?_, ?_, ?_, fun v => ?_⟩
  · exact Validator.compile_eq_ok.2 ⟨dx, own ▸ hdx, rfl⟩
  · rw [Document.required_eq_requiredList items hne hall]
    exact Validator.compile_eq_ok.2 ⟨dy, hdy, rfl⟩
  · rw [Document.notRequired_eq_requiredList items hne]
    exact Validator.compile_eq_ok.2 ⟨dz, hdz, rfl⟩
  · have present {ns : Members} {n : String} :
        ((Json.obj ns).get? n).isSome = true ↔ n ∈ Members.keys ns := Members.get?_isSome_iff
    simp only [Validator.validate_eq_ok]
    rw [hms.accepts_iff hdx, hms.accepts_iff hdy, hms.accepts_iff hdz]
    refine ⟨⟨?_, ?_⟩, ?_, ?_⟩
    · rintro ⟨ns, rfl, others, has⟩
      exact ⟨⟨ns, rfl, others, fun n hn => has n (Document.mem_foldl_appendName.2 (.inl hn))⟩,
        fun n hn => present.2 (has n (Document.mem_foldl_appendName.2 (.inr hn)))⟩
    · rintro ⟨⟨ns, rfl, others, has⟩, given⟩
      refine ⟨ns, rfl, others, fun n hn => ?_⟩
      rcases Document.mem_foldl_appendName.1 hn with hn | hn
      · exact has n hn
      · exact present.1 (given n hn)
    · rintro ⟨ns, rfl, others, has⟩
      exact ⟨ns, rfl, others, fun n hn => has n (List.mem_filter.1 hn).1⟩
    · rintro ⟨ns, rfl, others, has⟩ given
      refine ⟨ns, rfl, others, fun n hn => ?_⟩
      by_cases dropped : n ∈ names
      · exact present.1 (given n dropped)
      · exact has n (List.mem_filter.2 ⟨hn, decide_eq_true dropped⟩)

end

/-- An entity with a required string, an optional number, and a keyword of its own. -/
def Entity.loose : Entity :=
  (((Entity.ofTitle "T").addProperty "p" (.ofKeywords [("type", .str "string")]) true).addProperty
    "q" (.ofKeywords [("type", .str "integer")]) false).setOption "minProperties" (.num (.int 1))

theorem loose_presence_is_decisive : ∃ a x y z, Compiler.standard.compile .loose = .ok a ∧
    Validator.compile a.schema none = .ok x ∧
    (do Validator.compile (← Document.required a.schema ["q", "p", "q"]) none) = .ok y ∧
    (do Validator.compile (← Document.notRequired "optional" a.schema ["q", "p", "q"]) none) =
      .ok z ∧
    (∀ v, y.validate v = .ok () ↔
      x.validate v = .ok () ∧ ∀ n ∈ ["q", "p", "q"], (v.get? n).isSome = true) ∧
    x.validate (.obj [("p", .str "s")]) = .ok () ∧ y.validate (.obj [("p", .str "s")]) ≠ .ok () ∧
    z.validate (.obj [("p", .str "s")]) = .ok () := by
  obtain ⟨a, d, ha, hd, run⟩ := Compiler.exists_of_run (c := .standard) (e := .loose)
    (g := fun a d => (Draft7.allHeld a.schema.depth [a.schema],
      ["q", "p", "q"].all fun n => (Document.property? a.schema n).isSome,
      d.accepts (.obj [("p", .str "s")]))) (r := ([], true, true)) (by decide +kernel)
  simp only [Prod.mk.injEq, List.all_eq_true] at run
  obtain ⟨references, all, accepted⟩ := run
  obtain ⟨x, y, z, hx, hy, hz, same⟩ := presence_is_decisive ha
    (Draft7.noReferences_of_allHeld references) (List.cons_ne_nil "q" ["p", "q"]) all "optional"
    none
  have passes : x.validate (.obj [("p", .str "s")]) = .ok () := by
    obtain ⟨d', hd', rfl⟩ := Validator.compile_eq_ok.1 hx
    obtain rfl : d = d' := Except.ok.inj (hd.symm.trans hd')
    exact Validator.validate_eq_ok.2 accepted
  refine ⟨a, x, y, z, ha, hx, hy, hz, fun v => (same v).1, passes, fun h => ?_,
    (same _).2.1 passes⟩
  have has := ((same _).1.1 h).2 "q" (by simp)
  cases has

end EntitySchema
