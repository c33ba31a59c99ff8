import EntitySchema.Compiler
import EntitySchema.Proofs.Outcome

/-!
# Settings that make sense

Settings give a compiler just when the further names of storage types are well-formed, every schema
that entities can refer to has a known storage type, and the type of objects and arrays is a known
Json type (`Compiler.ofSettings_eq_ok`).
-/

namespace EntitySchema

/-- What holds of settings that give a storage type for objects and arrays. -/
structure Settings.Gives (s : Settings) (json : StorageType) : Prop where
  names : ∀ t ∈ s.customTypes, Settings.isTypeName t.1 = true
  schemas : ∀ f ∈ s.extraSchemas, ∀ r, f.2.dataType = some r → ∃ t, r.eval s.catalog = .ok t
  resolved : s.catalog.resolve? s.jsonTypeName = some json
  isJson : json.isJson = true

namespace Settings

variable {s : Settings} {json : StorageType}

theorem checkSchema_eq_ok {c : Catalog} {name : String} {f : Fragment} :
    checkSchema c name f = .ok () ↔ ∀ r, f.dataType = some r → ∃ t, r.eval c = .ok t := by
  obtain ⟨dataType, keywords⟩ := f
  cases dataType with
  | none => exact ⟨fun _ => nofun, fun _ => rfl⟩
  | some r =>
    simp only [checkSchema, Option.some.injEq, forall_eq']
    cases r.eval c with
    | ok t => exact ⟨fun _ => ⟨t, rfl⟩, fun _ => rfl⟩
    | error e => exact ⟨nofun, fun ⟨_, h⟩ => by cases h⟩

theorem json_eq_ok : s.json = .ok json ↔
    s.catalog.resolve? s.jsonTypeName = some json ∧ json.isJson = true := by
  unfold Settings.json
  split
  · next hr => exact ⟨nofun, fun h => by cases hr.symm.trans h.1⟩
  · next t hr =>
    rw [hr, Option.some.injEq]
    split
    · next ht =>
      rw [Except.ok.injEq]
      exact ⟨fun h => ⟨h, h ▸ ht⟩, And.left⟩
    · next ht => exact ⟨nofun, fun ⟨h, hj⟩ => absurd (h ▸ hj) ht⟩

theorem check_eq_ok : s.check = .ok json ↔ s.Gives json := by
  have name (t : String × TypeClass) :
      (if isTypeName t.1 then .ok () else .error (.badTypeName t.1) :
        Except SettingsProblem Unit) = .ok () ↔ isTypeName t.1 = true := by
    split <;> simp_all
  constructor
  · intro h
    obtain ⟨⟨⟩, hnames, h⟩ := bind_eq_ok.1 h
    obtain ⟨⟨⟩, hschemas, h⟩ := bind_eq_ok.1 h
    obtain ⟨hresolved, hjson⟩ := json_eq_ok.1 h
    exact ⟨fun t ht => (name t).1 (forM_eq_ok.1 hnames t ht),
      fun f hf => checkSchema_eq_ok.1 (forM_eq_ok.1 hschemas f hf), hresolved, hjson⟩
  · intro h
    refine bind_eq_ok.2 ⟨(), forM_eq_ok.2 fun t ht => (name t).2 (h.names t ht), ?_⟩
    refine bind_eq_ok.2 ⟨(), forM_eq_ok.2 fun f hf => checkSchema_eq_ok.2 (h.schemas f hf), ?_⟩
    exact json_eq_ok.2 ⟨h.resolved, h.isJson⟩

end Settings

theorem Compiler.ofSettings_eq_ok {s : Settings} {k : Compiler} :
    Compiler.ofSettings s = .ok k ↔ k.catalog = s.catalog ∧ s.Gives k.json := by
  obtain ⟨catalog, json⟩ := k
  rw [ofSettings, bind_eq_ok]
  constructor
  · rintro ⟨j, hj, h⟩
    cases h
    exact ⟨rfl, Settings.check_eq_ok.1 hj⟩
  · rintro ⟨rfl, h⟩
    exact ⟨json, Settings.check_eq_ok.2 h, rfl⟩

end EntitySchema
