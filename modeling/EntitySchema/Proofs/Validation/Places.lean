import EntitySchema.Proofs.Outcome
import EntitySchema.Validation.Cache
import Mathlib.Data.List.Nodup

/-!
# Places in a cache

A request to a cache finds a validator, compiles one, or fails to (`getOrCompile_cases`). In each
case what is in the cache stays where it is, and no key gets a second validator (`Grows`). So a
handle leads to the same validator ever after (`Has.grow`), and two handles are the same just when
their keys are (`Distinct.eq_iff`). A check changes what a validator remembers and nothing else.
-/

namespace EntitySchema

namespace Cache

variable {c c' : Cache} {key key' : ValidatorKey} {x x' : Validator} {h h' : Handle} {t : Tracked}

/-- The validators of a cache by key. -/
def validators (c : Cache) : List (ValidatorKey × Validator) :=
  c.entries.map fun entry => (entry.1, entry.2.validator)

/-! ## Checks -/

theorem validators_check (c : Cache) (h : Handle) (v : Json) :
    (c.check h v).validators = c.validators := by
  obtain ⟨entries⟩ := c
  show (entries.modify h _).map _ = entries.map _
  induction entries generalizing h with
  | nil => rw [List.modify_nil]
  | cons entry rest ih =>
    cases h with
    | zero => rfl
    | succ h => rw [List.modify_succ_cons, List.map_cons, List.map_cons, ih]

theorem get?_check (ht : c.get? h = some t) (v : Json) :
    (c.check h v).get? h = some (t.check v) := by
  obtain ⟨entry, he, rfl⟩ := Option.map_eq_some_iff.1 ht
  rw [get?, check, List.getElem?_modify_eq, he]
  rfl

theorem validate_eq (ht : c.get? h = some t) (v : Json) :
    (c.validate h v).1 = t.validator.validate v := by
  unfold validate
  dsimp only
  rw [get?_check ht]
  rfl

theorem validate_snd (c : Cache) (h : Handle) (v : Json) : (c.validate h v).2 = c.check h v := by
  unfold validate
  dsimp only
  split <;> rfl

/-! ## Handles -/

/-- There is a validator for a key at a place. -/
def Has (c : Cache) (h : Handle) (key : ValidatorKey) (x : Validator) : Prop :=
  c.validators[h]? = some (key, x)

theorem Has.get? (hx : c.Has h key x) : ∃ t, c.get? h = some t ∧ t.validator = x := by
  rw [Has, validators, List.getElem?_map] at hx
  obtain ⟨entry, he, hentry⟩ := Option.map_eq_some_iff.1 hx
  exact ⟨entry.2, by rw [Cache.get?, he]; rfl, (Prod.mk.inj hentry).2⟩

theorem exists_has (ht : c.get? h = some t) : ∃ key, c.Has h key t.validator := by
  obtain ⟨entry, he, rfl⟩ := Option.map_eq_some_iff.1 ht
  exact ⟨entry.1, by rw [Has, validators, List.getElem?_map, he]; rfl⟩

/-- A key that is found has a validator. -/
theorem has_of_find? (hf : c.find? key = some h) : ∃ x, c.Has h key x := by
  have found := List.of_findIdx?_eq_some hf
  cases he : c.entries[h]? with
  | none =>
    rw [he] at found
    cases found
  | some entry =>
    rw [he] at found
    obtain rfl : entry.1 = key := by simpa using found
    exact ⟨entry.2.validator, by rw [Has, validators, List.getElem?_map, he]; rfl⟩

theorem get?_of_find? (hf : c.find? key = some h) :
    ∃ t, c.get? h = some t ∧ (key, t.validator) ∈ c.validators := by
  obtain ⟨x, hx⟩ := has_of_find? hf
  obtain ⟨t, ht, rfl⟩ := hx.get?
  exact ⟨t, ht, List.mem_of_getElem? hx⟩

/-- A key that is not found has no validator. -/
theorem not_mem_of_find? (hf : c.find? key = none) : key ∉ c.validators.map Prod.fst := by
  intro hmem
  obtain ⟨y, hy, rfl⟩ := List.mem_map.1 hmem
  obtain ⟨entry, hentry, rfl⟩ := List.mem_map.1 hy
  have other := List.findIdx?_eq_none_iff.1 hf entry hentry
  simp at other

/-- No key has two validators. -/
def Distinct (c : Cache) : Prop := (c.validators.map Prod.fst).Nodup

theorem Distinct.eq_iff (hc : c.Distinct) (hx : c.Has h key x) (hx' : c.Has h' key' x') :
    h = h' ↔ key = key' := by
  have at_place {h : Handle} {key : ValidatorKey} {x : Validator} (hx : c.Has h key x) :
      (c.validators.map Prod.fst)[h]? = some key := by
    rw [List.getElem?_map, hx]
    rfl
  constructor
  · rintro rfl
    exact Option.some.inj ((at_place hx).symm.trans (at_place hx'))
  · rintro rfl
    obtain ⟨bound, -⟩ := List.getElem?_eq_some_iff.1 (at_place hx)
    exact (List.getElem?_inj bound hc).1 ((at_place hx).trans (at_place hx').symm)

/-! ## Growth -/

/-- A cache becomes another one: what is in it stays where it is, and its keys stay distinct. -/
def Grows (c c' : Cache) : Prop :=
  c.validators <+: c'.validators ∧ (c.Distinct → c'.Distinct)

theorem Grows.refl (c : Cache) : c.Grows c := ⟨List.prefix_rfl, id⟩

theorem Grows.trans {c'' : Cache} (h : c.Grows c') (h' : c'.Grows c'') : c.Grows c'' :=
  ⟨h.1.trans h'.1, h'.2 ∘ h.2⟩

theorem Grows.of_eq (h : c'.validators = c.validators) : c.Grows c' :=
  ⟨h ▸ List.prefix_rfl, fun hc => by rwa [Distinct, h]⟩

theorem Has.grow (hx : c.Has h key x) (hg : c.Grows c') : c'.Has h key x := by
  obtain ⟨rest, hrest⟩ := hg.1
  obtain ⟨bound, -⟩ := List.getElem?_eq_some_iff.1 hx
  rw [Has, ← hrest, List.getElem?_append_left bound]
  exact hx

/-- A cache with one more validator. -/
def add (c : Cache) (key : ValidatorKey) (x : Validator) : Cache :=
  ⟨c.entries ++ [(key, .ofValidator x)]⟩

theorem validators_add (c : Cache) (key : ValidatorKey) (x : Validator) :
    (c.add key x).validators = c.validators ++ [(key, x)] := List.map_append

theorem has_add (c : Cache) (key : ValidatorKey) (x : Validator) :
    (c.add key x).Has c.size key x := by
  rw [Has, validators_add, size, show c.entries.length = c.validators.length from
    (List.length_map _).symm, List.getElem?_concat_length]

theorem grows_add (hf : c.find? key = none) (x : Validator) : c.Grows (c.add key x) := by
  constructor
  · rw [validators_add]
    exact List.prefix_append ..
  · intro hc
    rw [Distinct, validators_add, List.map_append]
    refine List.nodup_append.2 ⟨hc, List.nodup_singleton key, ?_⟩
    rintro k hk _ hkey rfl
    obtain rfl := List.mem_singleton.1 hkey
    exact not_mem_of_find? hf hk

/-! ## Requests -/

/-- A request finds the validator for its key, compiles one, or fails to compile one. -/
theorem getOrCompile_cases (c : Cache) (key : ValidatorKey)
    (compile : Unit → SchemaResult Validator) :
    (∃ h, c.find? key = some h ∧ c.getOrCompile key compile = (⟨.ok h, false⟩, c)) ∨
    (∃ x, c.find? key = none ∧ compile () = .ok x ∧
      c.getOrCompile key compile = (⟨.ok c.size, true⟩, c.add key x)) ∨
    ∃ e, c.find? key = none ∧ compile () = .error e ∧
      c.getOrCompile key compile = (⟨.error e, true⟩, c) := by
  unfold getOrCompile
  cases hf : c.find? key with
  | some h => exact .inl ⟨h, rfl, rfl⟩
  | none =>
    cases hx : compile () with
    | ok x => exact .inr (.inl ⟨x, rfl, rfl, rfl⟩)
    | error e => exact .inr (.inr ⟨e, rfl, rfl, rfl⟩)

variable {compile : Unit → SchemaResult Validator}

theorem grows_getOrCompile (c : Cache) (key : ValidatorKey)
    (compile : Unit → SchemaResult Validator) : c.Grows (c.getOrCompile key compile).2 := by
  obtain ⟨h, -, hr⟩ | ⟨x, hf, -, hr⟩ | ⟨e, -, -, hr⟩ := c.getOrCompile_cases key compile
  · exact hr ▸ .refl c
  · exact hr ▸ grows_add hf x
  · exact hr ▸ .refl c

/-- A validator that is there is granted, whatever could be compiled. -/
theorem getOrCompile_of_find? (hf : c.find? key = some h)
    (compile : Unit → SchemaResult Validator) :
    c.getOrCompile key compile = (⟨.ok h, false⟩, c) := by
  rw [getOrCompile, hf]

theorem compiled_getOrCompile :
    (c.getOrCompile key compile).1.compiled = true ↔ c.find? key = none := by
  obtain ⟨h, hf, hr⟩ | ⟨x, hf, -, hr⟩ | ⟨e, hf, -, hr⟩ := c.getOrCompile_cases key compile <;>
    simp [hf, hr]

/-- A validator that is not there is compiled. -/
theorem getOrCompile_of_missing (hf : c.find? key = none) : match compile () with
    | .ok x => c.getOrCompile key compile = (⟨.ok c.size, true⟩, c.add key x)
    | .error e => c.getOrCompile key compile = (⟨.error e, true⟩, c) := by
  rw [getOrCompile, hf]
  dsimp only
  cases compile () <;> rfl

/-- A request that fails leaves the cache as it was. -/
theorem getOrCompile_of_error {e : SchemaError}
    (he : (c.getOrCompile key compile).1.result = .error e) :
    (c.getOrCompile key compile).2 = c ∧ c.find? key = none := by
  obtain ⟨h, -, hr⟩ | ⟨x, -, -, hr⟩ | ⟨e', hf, -, hr⟩ := c.getOrCompile_cases key compile
  · rw [hr] at he
    cases he
  · rw [hr] at he
    cases he
  · exact ⟨congrArg Prod.snd hr, hf⟩

end Cache

end EntitySchema
