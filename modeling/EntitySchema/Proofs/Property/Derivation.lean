import EntitySchema.Proofs.Property.Halves
import EntitySchema.Proofs.Storage.Catalog

/-!
# Where a derived storage type comes from

A schema without a storage type of its own gets one from its declared type or from a union. A
union has a first branch that does not declare null, which declares a type, and every other branch
declares this type or null.
-/

namespace EntitySchema

namespace Resolution

variable {c : Catalog} {json t : StorageType} {schema : Members} {r : Resolution} {k : String}
  {branches : List Json}

/-- The branches of a union that do not declare null. -/
def meaningful (branches : List Json) : List Json :=
  branches.filter fun b => b.getStr? "type" ≠ some "null"

/-- What the branches of a union with a storage type have in common. -/
theorem ofUnion_eq_ok (h : ofUnion c json k branches = .ok t) : ∃ first rest shared,
    meaningful branches = first :: rest ∧ 2 ≤ branches.length ∧
    first.getStr? "type" = some shared ∧
    (∀ b ∈ meaningful branches, b.getStr? "type" = some shared) ∧
    ofDeclared c json (first.get? "type") (first.obj?.getD []) = .ok t := by
  dsimp only [ofUnion] at h
  split at h
  · cases h
  · next first rest hm =>
    split at h
    · cases h
    · next hl =>
      split at h
      · cases h
      · next shared hs =>
        split at h
        · next hall =>
          refine ⟨first, rest, shared, hm, by omega, hs, fun b hb => ?_, h⟩
          simpa using List.all_eq_true.1 hall b hb
        · cases h

/-- A storage type is derived from an enumeration, from a union, or from a declared type. -/
theorem derive_eq_ok (h : derive c json schema = .ok r) :
    (∃ values, enumValues schema = some values ∧ named c "ENUM" "enum" = .ok r.type ∧
      r.values = some values) ∨
    (∃ k branches, enumValues schema = none ∧ union? schema = some (k, branches) ∧
      ofUnion c json k branches = .ok r.type ∧ r.values = none) ∨
    (enumValues schema = none ∧ union? schema = none ∧
      ofDeclared c json (Members.get? schema "type") schema = .ok r.type ∧ r.values = none) := by
  unfold derive at h
  split at h
  · next values hv =>
    obtain ⟨t, ht, h⟩ := bind_eq_ok.1 h
    cases h
    exact .inl ⟨values, hv, ht, rfl⟩
  · next hv =>
    split at h
    · next k branches hu =>
      obtain ⟨t, ht, h⟩ := bind_eq_ok.1 h
      cases h
      exact .inr (.inl ⟨k, branches, hv, hu, ht, rfl⟩)
    · next hu =>
      obtain ⟨t, ht, h⟩ := bind_eq_ok.1 h
      cases h
      exact .inr (.inr ⟨hv, hu, ht, rfl⟩)

/-- An enumeration has a declared type, which all its values have. -/
theorem enumValues_eq_some {values : List Json} (h : enumValues schema = some values) :
    ∃ declared, Members.get? schema "type" = some (.str declared) ∧
      Members.get? schema "enum" = some (.arr values) ∧
      ∀ v ∈ values, runtimeType v = declared := by
  obtain ⟨declared, hd, h⟩ := Option.bind_eq_some_iff.1 h
  obtain ⟨vs, hv, h⟩ := Option.bind_eq_some_iff.1 h
  obtain ⟨x, hx, hd⟩ := Option.bind_eq_some_iff.1 hd
  obtain ⟨y, hy, hv⟩ := Option.bind_eq_some_iff.1 hv
  cases x <;> cases hd
  cases y <;> cases hv
  split at h
  · next hall =>
    cases h
    exact ⟨declared, hx, hy, fun v hv => by simpa using List.all_eq_true.1 hall v hv⟩
  · cases h

/-- The branches of a union stand under `anyOf`, or else under `allOf`. -/
theorem union?_eq_some (h : union? schema = some (k, branches)) :
    (k = "anyOf" ∨ k = "allOf") ∧ Members.get? schema k = some (.arr branches) := by
  unfold union? at h
  split at h
  · next ha =>
    cases h
    exact ⟨.inl rfl, ha⟩
  · cases h
    exact ⟨.inr rfl, ‹_›⟩
  · cases h

theorem ofDeclared_eq_ok {declared : Option Json} (h : ofDeclared c json declared schema = .ok t) :
    ∃ name, declared = some (.str name) := by
  unfold ofDeclared at h
  split at h
  · cases h
  · exact ⟨_, rfl⟩
  · cases h

/-! ## Declared types -/

theorem named_eq_ok {path declared : String} :
    named c path declared = .ok t ↔ c.resolve? path = some t := by
  unfold named
  cases c.resolve? path with
  | none => exact ⟨nofun, nofun⟩
  | some u =>
    show Except.ok u = Except.ok t ↔ _
    rw [Except.ok.injEq, Option.some.injEq]

/-- What a declared type becomes: the type that keeps Json, the integer type, or the type of its
name, which a string may be called with its maximal length. -/
theorem ofDeclared_str_eq_ok {name : String}
    (h : ofDeclared c json (some (.str name)) schema = .ok t) :
    ((name = "object" ∨ name = "array") ∧ t = json) ∨
    (name = "number" ∧ c.resolve? "INTEGER" = some t) ∨
    (name ∉ ["object", "array", "number"] ∧ ∃ u, c.resolve? (Text.upper name) = some u ∧
      (t = u ∨ name = "string" ∧ ∃ size, Members.get? schema "maxLength" = some size ∧
        isSize size = true ∧ t = { u with args := [.literal size] })) := by
  dsimp only [ofDeclared] at h
  split at h
  · next hname =>
    cases h
    exact .inl ⟨hname, rfl⟩
  · next hkept =>
    split at h
    · next hnumber => exact .inr (.inl ⟨hnumber, named_eq_ok.1 h⟩)
    · next hnumber =>
      obtain ⟨u, hu, h⟩ := bind_eq_ok.1 h
      have other : name ∉ ["object", "array", "number"] := by simp_all
      refine .inr (.inr ⟨other, u, named_eq_ok.1 hu, ?_⟩)
      split at h
      · next size hsize =>
        obtain ⟨hsize, hpositive⟩ := Option.filter_eq_some_iff.1 hsize
        split at h
        · next hstring =>
          exact .inr ⟨hstring, size, hsize, hpositive, StorageType.call_eq_ok h⟩
        · cases h
          exact .inl rfl
      · cases h
        exact .inl rfl

theorem type_of_object {name : String} (hname : name = "object" ∨ name = "array")
    (h : ofDeclared c json (some (.str name)) schema = .ok t) : t = json := by
  obtain rfl | rfl := hname
  · exact (Except.ok.inj h).symm
  · exact (Except.ok.inj h).symm

theorem type_of_number (h : ofDeclared c json (some (.str "number")) schema = .ok t) :
    c.resolve? "INTEGER" = some t := named_eq_ok.1 h

/-- A type without an exception becomes the type of its name. -/
theorem type_of_plain {name : String} (hname : name ∉ ["object", "array", "number", "string"])
    (h : ofDeclared c json (some (.str name)) schema = .ok t) :
    c.resolve? (Text.upper name) = some t := by
  simp only [List.mem_cons, List.not_mem_nil, or_false, not_or] at hname
  obtain ⟨hobject, harray, hnumber, hstring⟩ := hname
  rcases ofDeclared_str_eq_ok h with ⟨hkept, -⟩ | ⟨hn, -⟩ | ⟨-, u, hu, rfl | ⟨hs, -⟩⟩
  · exact (hkept.elim hobject harray).elim
  · exact absurd hn hnumber
  · exact hu
  · exact absurd hs hstring

/-- A string becomes the string type, as it is or called with the maximal length. -/
theorem type_of_string (h : ofDeclared c json (some (.str "string")) schema = .ok t) :
    ∃ u, c.resolve? "STRING" = some u ∧ (t = u ∨ ∃ n, Members.get? schema "maxLength" =
      some (.num n) ∧ t = { u with args := [.literal (.num n)] }) := by
  have upper : Text.upper "string" = "STRING" := by decide +kernel
  rcases ofDeclared_str_eq_ok h with ⟨hkept, -⟩ | ⟨hn, -⟩ | ⟨-, u, hu, htype⟩
  · exact absurd hkept (by decide)
  · exact absurd hn (by decide)
  · refine ⟨u, upper ▸ hu, htype.imp_right ?_⟩
    rintro ⟨-, size, hsize, hpositive, htype⟩
    cases size with
    | num n => exact ⟨n, hsize, htype⟩
    | _ => cases hpositive

/-- A derived storage type is called with the maximal length of a string, or not at all. -/
theorem args_of_derive (hj : json.args = []) (h : derive c json schema = .ok r) :
    r.type.args = [] ∨ ∃ n, r.type.args = [.literal (.num n)] := by
  have declared {d : Option Json} {ns : Members} (h : ofDeclared c json d ns = .ok r.type) :
      r.type.args = [] ∨ ∃ n, r.type.args = [.literal (.num n)] := by
    obtain ⟨name, rfl⟩ := ofDeclared_eq_ok h
    rcases ofDeclared_str_eq_ok h with
      ⟨-, ht⟩ | ⟨-, ht⟩ | ⟨-, u, hu, ht | ⟨-, size, -, hsize, ht⟩⟩
    · exact .inl (ht ▸ hj)
    · exact .inl (Catalog.args_of_resolve? ht)
    · exact .inl (ht ▸ Catalog.args_of_resolve? hu)
    · cases size with
      | num n => exact .inr ⟨n, by rw [ht]⟩
      | _ => cases hsize
  rcases derive_eq_ok h with ⟨_, -, ht, -⟩ | ⟨_, _, -, -, ht, -⟩ | ⟨-, -, ht, -⟩
  · exact .inl (Catalog.args_of_resolve? (named_eq_ok.1 ht))
  · obtain ⟨_, _, _, -, -, -, -, ht⟩ := ofUnion_eq_ok ht
    exact declared ht
  · exact declared ht

end Resolution

end EntitySchema
