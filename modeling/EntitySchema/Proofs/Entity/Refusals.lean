import EntitySchema.Proofs.Property.Faults

/-!
# Why an entity does not compile

The properties of an entity are split one by one, in order, and the document is checked when all of
them are. So the error of a compilation is that of the first property that cannot be split, or else
what the check says about the document (`compile_error_names_place`). It names the entity, and the
property if there is one: whatever goes wrong inside a property has no place of its own.
-/

namespace EntitySchema

namespace Compiler

variable {c : Compiler} {e : Entity} {err : SchemaError}

/-- Whether a property of an entity can be split. -/
def Normalizes (c : Compiler) (e : Entity) (p : String × Fragment) : Prop :=
  ∃ x, Property.normalize c.catalog c.json p.1 p.2 (e.isRequired p.1) = .ok x

/-- The properties of an entity fail to be split where the first of them does. -/
theorem normalize_eq_error_iff : c.normalize e = .error err ↔ ∃ good name f more,
    e.properties = good ++ (name, f) :: more ∧ (∀ p ∈ good, c.Normalizes e p) ∧
    Property.normalize c.catalog c.json name f (e.isRequired name) = .error err := by
  rw [normalize, mapM_eq_error_iff]
  constructor
  · rintro ⟨good, ⟨name, f⟩, more, xs, hproperties, hgood, h⟩
    refine ⟨good, name, f, more, hproperties, fun p hp => ?_, ?_⟩
    · obtain ⟨x, hx⟩ := exists_forall₂_iff.1 ⟨xs, hgood⟩ p hp
      obtain ⟨y, hy, -⟩ := bind_eq_ok.1 hx
      exact ⟨y, hy⟩
    · rcases bind_eq_error.1 h with h | ⟨_, -, h⟩
      · exact h
      · cases h
  · rintro ⟨good, name, f, more, hproperties, hgood, h⟩
    have split : ∀ p ∈ good, ∃ x : String × Property, (do return (p.1, ←
        Property.normalize c.catalog c.json p.1 p.2 (e.isRequired p.1)) : SchemaResult _) = .ok x :=
      fun p hp => (hgood p hp).elim fun x hx => ⟨(p.1, x), bind_eq_ok.2 ⟨x, hx, rfl⟩⟩
    obtain ⟨xs, hxs⟩ := exists_forall₂_iff.2 split
    exact ⟨good, (name, f), more, xs, hproperties, hxs, bind_eq_error.2 (.inl h)⟩

theorem normalizes_of_normalize {ps : List (String × Property)} (h : c.normalize e = .ok ps) :
    ∀ p ∈ e.properties, c.Normalizes e p := by
  intro p hp
  obtain ⟨x, -, hx⟩ := (mem_of_mapM h).2 p hp
  obtain ⟨y, hy, -⟩ := bind_eq_ok.1 hx
  exact ⟨y, hy⟩

theorem checkDocument_eq_error_iff {schema : Json} : checkDocument schema = .error err ↔
    ∃ reason, Draft7.Compiled.compile schema = .error reason ∧
      err = .unplaced (.malformedDocument reason) := by
  unfold checkDocument
  cases Draft7.Compiled.compile schema with
  | ok compiled => exact ⟨nofun, fun ⟨_, h, _⟩ => by cases h⟩
  | error reason =>
    simp only [Except.error.injEq, exists_eq_left']
    exact ⟨fun h => (Except.error.inj h).symm, fun h => h ▸ rfl⟩

/-- An entity is not assembled if a property cannot be split, or the document is no schema. -/
theorem assemble_eq_error_iff : c.assemble e = .error err ↔ c.normalize e = .error err ∨
    ∃ ps reason, c.normalize e = .ok ps ∧
      Draft7.Compiled.compile (e.document (ps.map fun p => (p.1, p.2.schema))) = .error reason ∧
      err = .unplaced (.malformedDocument reason) := by
  rw [assemble, bind_eq_error]
  refine or_congr_right ?_
  constructor
  · rintro ⟨ps, hps, h⟩
    rcases bind_eq_error.1 h with h | ⟨_, -, h⟩
    · obtain ⟨reason, hreason, rfl⟩ := checkDocument_eq_error_iff.1 h
      exact ⟨ps, reason, hps, hreason, rfl⟩
    · cases h
  · rintro ⟨ps, reason, hps, hreason, rfl⟩
    exact ⟨ps, hps, bind_eq_error.2 (.inl (checkDocument_eq_error_iff.2 ⟨reason, hreason, rfl⟩))⟩

end Compiler

/-- **Errors of a compilation.** An entity fails to compile just when a property of it cannot be
split, and then the error is that of the first such property, or when all properties can be and
their document is no schema. The error names the entity, and the property in the first case. What
goes wrong in a property is its first directive that is not in order, else its storage type, else
its default. -/
theorem compile_error_names_place (c : Compiler) (e : Entity) (err : SchemaError) :
    (c.compile e = .error err ↔ err.entity = some e.title ∧
      ((∃ good name f more, e.properties = good ++ (name, f) :: more ∧
        (∀ p ∈ good, c.Normalizes e p) ∧ err.property = some name ∧
        Property.normalize c.catalog c.json name f (e.isRequired name) =
          .error { err with entity := none }) ∨
      err.property = none ∧ (∀ p ∈ e.properties, c.Normalizes e p) ∧
        ∃ ps reason, c.normalize e = .ok ps ∧
          Draft7.Compiled.compile (e.document (ps.map fun p => (p.1, p.2.schema))) =
            .error reason ∧
          err.problem = .malformedDocument reason)) ∧
    ∀ name f required inner,
      Property.normalize c.catalog c.json name f required = .error inner ↔
        ∃ p, Property.Fault c.catalog c.json f p ∧ inner = ⟨p, none, some name⟩ := by
  refine ⟨?_, fun _ _ _ _ => Property.normalize_eq_error_iff⟩
  obtain ⟨problem, entity, property⟩ := err
  simp only [Compiler.compile, mapError_eq_error, Compiler.assemble_eq_error_iff,
    Compiler.normalize_eq_error_iff]
  constructor
  · rintro ⟨inner, ⟨good, name, f, more, hproperties, hgood, h⟩ |
      ⟨ps, reason, hps, hreason, rfl⟩, he⟩
    · obtain ⟨p, -, rfl⟩ := Property.normalize_eq_error_iff.1 h
      cases he
      exact ⟨rfl, .inl ⟨good, name, f, more, hproperties, hgood, rfl, h⟩⟩
    · cases he
      exact ⟨rfl, .inr ⟨rfl, Compiler.normalizes_of_normalize hps, ps, reason, hps, hreason, rfl⟩⟩
  · rintro ⟨rfl, ⟨good, name, f, more, hproperties, hgood, rfl, h⟩ |
      ⟨rfl, -, ps, reason, hps, hreason, rfl⟩⟩
    · exact ⟨_, .inl ⟨good, name, f, more, hproperties, hgood, h⟩, rfl⟩
    · exact ⟨_, .inr ⟨ps, reason, hps, hreason, rfl⟩, rfl⟩

end EntitySchema
