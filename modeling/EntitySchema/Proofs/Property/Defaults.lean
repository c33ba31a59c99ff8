import EntitySchema.Proofs.Property.Halves
import EntitySchema.Proofs.TypeExpr.Meaning

/-!
# Given defaults

A default that a fragment gives stands for itself, or is tagged as an expression and stands for the
storage type of the expression. So it fails only if it is tagged, for want of a storage type
(`Property.givenDefault_eq_error`).
-/

namespace EntitySchema

variable {c : Catalog} {v : Json} {e : SchemaError}

/-- A value stands for itself, or for an expression that has a storage type. -/
def Descriptor.Resolves (c : Catalog) (v : Json) : Prop :=
  Descriptor.isTagged v = true → ∃ d t, Descriptor.decode v = .ok d ∧ d.eval c = .ok t

/-- The default of a fragment, if it has one, stands for itself or for an expression that has a
storage type. -/
def Fragment.DefaultResolves (f : Fragment) (c : Catalog) : Prop :=
  ∀ v, f.get? "defaultValue" = some v → Descriptor.Resolves c v

namespace Property

theorem givenDefault_of_not_tagged (hv : Descriptor.isTagged v = false) :
    givenDefault c v = .ok (.value v) := by
  rw [givenDefault, Descriptor.ofJson?, hv]
  rfl

theorem givenDefault_of_decode {d : Descriptor} (hv : Descriptor.isTagged v = true)
    (hd : Descriptor.decode v = .ok d) :
    givenDefault c v = (do return .type (← d.eval c)) := by
  rw [givenDefault, Descriptor.ofJson?, hv, hd]
  rfl

theorem givenDefault_of_decode_error {x : DecodeError} (hv : Descriptor.isTagged v = true)
    (hd : Descriptor.decode v = .error x) :
    givenDefault c v = fail (.invalidDataType ("malformed descriptor: " ++ x.message)) := by
  rw [givenDefault, Descriptor.ofJson?, hv, hd]
  rfl

theorem exists_givenDefault_iff : (∃ d, givenDefault c v = .ok d) ↔ Descriptor.Resolves c v := by
  cases tagged : Descriptor.isTagged v with
  | false =>
    rw [givenDefault_of_not_tagged tagged]
    exact iff_of_true ⟨_, rfl⟩ fun h => by cases tagged.symm.trans h
  | true =>
    cases decoded : Descriptor.decode v with
    | error x =>
      rw [givenDefault_of_decode_error tagged decoded]
      refine iff_of_false (fun ⟨_, h⟩ => by cases h) fun h => ?_
      obtain ⟨d, t, hd, -⟩ := h tagged
      cases decoded.symm.trans hd
    | ok d =>
      rw [givenDefault_of_decode tagged decoded]
      constructor
      · rintro ⟨given, h⟩ -
        obtain ⟨t, ht, -⟩ := bind_eq_ok.1 h
        exact ⟨d, t, decoded, ht⟩
      · intro h
        obtain ⟨d', t, hd, ht⟩ := h tagged
        cases decoded.symm.trans hd
        exact ⟨.type t, bind_eq_ok.2 ⟨t, ht, rfl⟩⟩

/-- A default fails only if it is an expression, which has no storage type then. -/
theorem givenDefault_eq_error (h : givenDefault c v = .error e) :
    Descriptor.isTagged v = true ∧ e.IsTypeFault ∧ ∃ p, e = .unplaced p := by
  cases tagged : Descriptor.isTagged v with
  | false => cases (givenDefault_of_not_tagged tagged).symm.trans h
  | true =>
    cases decoded : Descriptor.decode v with
    | error x =>
      rw [givenDefault_of_decode_error tagged decoded] at h
      cases h
      exact ⟨rfl, .inr rfl, _, rfl⟩
    | ok d =>
      rw [givenDefault_of_decode tagged decoded] at h
      rcases bind_eq_error.1 h with h | ⟨t, -, h⟩
      · exact ⟨rfl, (d.eval_eq_error_iff.1 h).typeFault⟩
      · cases h

section
variable {given : Option Json} {validation : Members} {type : StorageType} {allowNull : Bool}

/-- Only a default that is given can fail. -/
theorem defaultOf_eq_error_iff : defaultOf c given validation type allowNull = .error e ↔
    ∃ v, given = some v ∧ givenDefault c v = .error e := by
  cases given with
  | none =>
    unfold defaultOf
    dsimp only
    split
    · exact ⟨nofun, fun ⟨_, h, _⟩ => by cases h⟩
    · exact ⟨nofun, fun ⟨_, h, _⟩ => by cases h⟩
  | some v =>
    unfold defaultOf
    dsimp only
    rw [bind_eq_error]
    constructor
    · rintro (h | ⟨_, -, h⟩)
      · exact ⟨v, rfl, h⟩
      · cases h
    · rintro ⟨_, ⟨⟩, h⟩
      exact .inl h

end

end Property

end EntitySchema
