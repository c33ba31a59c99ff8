import EntitySchema.Proofs.Property.Defaults

/-!
# What goes wrong in a property

A property is split in stages: its directives are checked in their order, then its storage type is
found, then its default. `Property.Fault` says what goes wrong at the first stage where something
does, and `Property.normalize_eq_error_iff` that this is the error, put at the property.

None of the stages names a place in its errors (`Placeless`), so the place of an error is the one
that is added on its way up. Where the storage type is known to evaluate, the default is what is
left to fail for want of a storage type (`Property.fault_of_split_iff`).
-/

namespace EntitySchema

/-! ## Errors without a place -/

/-- An operation whose errors have no place yet. -/
def Placeless {α : Type} (x : SchemaResult α) : Prop := ∀ e, x = .error e → ∃ p, e = .unplaced p

namespace Placeless

variable {α β : Type} {x : SchemaResult α}

theorem ok (a : α) : Placeless (.ok a : SchemaResult α) := nofun

theorem fail {p : SchemaProblem} (h : SchemaError.of p = .unplaced p) :
    Placeless (fail p : SchemaResult α) := by
  intro e he
  cases he
  exact ⟨p, h⟩

theorem bind {g : α → SchemaResult β} (hx : Placeless x) (hg : ∀ a, Placeless (g a)) :
    Placeless (x >>= g) := by
  intro e he
  rcases bind_eq_error.1 he with he | ⟨a, -, he⟩
  · exact hx e he
  · exact hg a e he

end Placeless

variable {c : Catalog} {json : StorageType} {f : Fragment} {required : Bool} {e : SchemaError}
  {ms : Members}

theorem TypeRef.placeless_eval (c : Catalog) (r : TypeRef) : Placeless (r.eval c) :=
  fun _ he => (r.eval_eq_error_iff.1 he).typeFault.2

theorem StorageType.placeless_call (t : StorageType) (args : List TypeArgument) :
    Placeless (t.call args) := by
  unfold call
  split
  · exact .fail rfl
  · split
    · exact .fail rfl
    · exact .ok _

namespace Resolution

theorem placeless_named (path declared : String) : Placeless (named c path declared) := by
  unfold named
  split
  · exact .ok _
  · exact .fail rfl

theorem placeless_ofDeclared (declared : Option Json) :
    Placeless (ofDeclared c json declared ms) := by
  unfold ofDeclared
  split
  · exact .fail rfl
  · split
    · exact .ok _
    · split
      · exact placeless_named _ _
      · refine .bind (placeless_named _ _) fun t => ?_
        split
        · split
          · exact t.placeless_call _
          · exact .ok _
        · exact .ok _
  · exact .fail rfl

theorem placeless_ofUnion (keyword : String) (branches : List Json) :
    Placeless (ofUnion c json keyword branches) := by
  unfold ofUnion
  dsimp only
  split
  · exact .fail rfl
  · split
    · exact .fail rfl
    · split
      · exact .fail rfl
      · split
        · exact placeless_ofDeclared _
        · exact .fail rfl

theorem placeless_derive : Placeless (derive c json ms) := by
  unfold derive
  split
  · exact .bind (placeless_named _ _) fun _ => .ok _
  · split
    · exact .bind (placeless_ofUnion _ _) fun _ => .ok _
    · exact .bind (placeless_ofDeclared _) fun _ => .ok _

end Resolution

theorem placeless_resolve (explicit : Option TypeRef) : Placeless (resolve c json ms explicit) := by
  cases explicit with
  | none => exact Resolution.placeless_derive
  | some r => exact .bind (r.placeless_eval c) fun _ => .ok _

/-! ## Directives -/

namespace Directive

variable {k : String} {v : Json}

/-- A value is of one of the kinds that a directive takes; other keys take any value. -/
def Admits (k : String) (v : Json) : Prop :=
  ∀ kinds, Members.get? columns k = some kinds → ∃ kind ∈ kinds, kind.admits v = true

theorem check_eq_ok_iff : check k v = .ok () ↔ Admits k v := by
  unfold check Admits
  cases hk : Members.get? columns k with
  | none => exact ⟨fun _ => nofun, fun _ => rfl⟩
  | some kinds =>
    simp only [Option.some.injEq, forall_eq', ← List.any_eq_true]
    by_cases h : kinds.any (·.admits v) = true
    · rw [if_pos h]
      exact ⟨fun _ => h, fun _ => rfl⟩
    · rw [if_neg h]
      exact ⟨nofun, fun admitted => absurd admitted h⟩

theorem check_eq_error_iff : check k v = .error e ↔ ∃ kinds, Members.get? columns k = some kinds ∧
    (∀ kind ∈ kinds, kind.admits v = false) ∧
    e = .unplaced (.invalidDirective k (" or ".intercalate (kinds.map Kind.name))) := by
  unfold check
  cases hk : Members.get? columns k with
  | none => exact ⟨nofun, fun ⟨_, h, _⟩ => by cases h⟩
  | some kinds =>
    have refused : (∀ kind ∈ kinds, kind.admits v = false) ↔ ¬kinds.any (·.admits v) = true := by
      simp
    simp only [Option.some.injEq, exists_eq_left', refused]
    by_cases h : kinds.any (·.admits v) = true
    · rw [if_pos h]
      exact ⟨nofun, fun he => absurd h he.1⟩
    · rw [if_neg h]
      exact ⟨fun he => ⟨h, (Except.error.inj he).symm⟩, fun he => he.2 ▸ rfl⟩

end Directive

/-! ## Properties -/

namespace Property

theorem checkDirectives_eq_ok_iff : checkDirectives ms = .ok () ↔
    ∀ m ∈ ms, Directive.Admits m.1 m.2 := by
  rw [checkDirectives, forM_eq_ok]
  simp only [Directive.check_eq_ok_iff]

/-- What goes wrong in a property, at the first stage where something does. -/
inductive Fault (c : Catalog) (json : StorageType) (f : Fragment) : SchemaProblem → Prop where
  /-- A directive has a value of no kind that it takes, behind directives that are in order. -/
  | directive {good more : Members} {k : String} {v : Json} {kinds : List Kind}
      (members : f.keywords = good ++ (k, v) :: more)
      (before : ∀ m ∈ good, Directive.Admits m.1 m.2)
      (listed : Members.get? Directive.columns k = some kinds)
      (refused : ∀ kind ∈ kinds, kind.admits v = false) :
      Fault c json f (.invalidDirective k (" or ".intercalate (kinds.map Kind.name)))
  /-- The directives are in order, and no storage type is found. -/
  | type {p : SchemaProblem} (directives : ∀ m ∈ f.keywords, Directive.Admits m.1 m.2)
      (fails : resolve c json f.validation f.dataType = .error (.unplaced p)) : Fault c json f p
  /-- The directives are in order and there is a storage type, but the default is an expression
  that cannot be read or has no storage type. -/
  | default {p : SchemaProblem} {r : Resolution} {v : Json}
      (directives : ∀ m ∈ f.keywords, Directive.Admits m.1 m.2)
      (type : resolve c json f.validation f.dataType = .ok r)
      (given : f.get? "defaultValue" = some v) (tagged : Descriptor.isTagged v = true)
      (fails : givenDefault c v = .error (.unplaced p)) : Fault c json f p

theorem split_eq_error_iff :
    split c json f required = .error e ↔ ∃ p, Fault c json f p ∧ e = .unplaced p := by
  have given : Members.get? (addComment f.validation (directivesOf f.keywords)) "defaultValue" =
      f.get? "defaultValue" := get?_given f (by decide) (by decide)
  constructor
  · intro h
    rcases bind_eq_error.1 h with h | ⟨⟨⟩, directives, h⟩
    · obtain ⟨good, ⟨k, v⟩, more, members, before, h⟩ := forM_eq_error_iff.1 h
      obtain ⟨kinds, listed, refused, rfl⟩ := Directive.check_eq_error_iff.1 h
      refine ⟨_, .directive members (fun m hm => ?_) listed refused, rfl⟩
      exact Directive.check_eq_ok_iff.1 (before m hm)
    have directives := checkDirectives_eq_ok_iff.1 directives
    rcases bind_eq_error.1 h with h | ⟨r, type, h⟩
    · obtain ⟨p, rfl⟩ := placeless_resolve _ _ h
      exact ⟨p, .type directives h, rfl⟩
    rcases bind_eq_error.1 h with h | ⟨d, -, h⟩
    · obtain ⟨v, hv, h⟩ := defaultOf_eq_error_iff.1 h
      obtain ⟨tagged, -, p, rfl⟩ := givenDefault_eq_error h
      exact ⟨p, .default directives type (given.symm.trans hv) tagged h, rfl⟩
    · cases h
  · rintro ⟨p, fault, rfl⟩
    unfold split
    cases fault with
    | directive members before listed refused =>
      refine bind_eq_error.2 (.inl (forM_eq_error_iff.2 ⟨_, _, _, members, fun m hm => ?_, ?_⟩))
      · exact Directive.check_eq_ok_iff.2 (before m hm)
      · exact Directive.check_eq_error_iff.2 ⟨_, listed, refused, rfl⟩
    | type directives fails =>
      refine bind_eq_error.2 (.inr ⟨(), checkDirectives_eq_ok_iff.2 directives, ?_⟩)
      exact bind_eq_error.2 (.inl fails)
    | default directives type hv tagged fails =>
      refine bind_eq_error.2 (.inr ⟨(), checkDirectives_eq_ok_iff.2 directives, ?_⟩)
      refine bind_eq_error.2 (.inr ⟨_, type, ?_⟩)
      exact bind_eq_error.2 (.inl (defaultOf_eq_error_iff.2 ⟨_, given.trans hv, fails⟩))

/-- **Faults of a property.** A property fails with what goes wrong at its first stage where
something does, and the error names the property. -/
theorem normalize_eq_error_iff {name : String} : normalize c json name f required = .error e ↔
    ∃ p, Fault c json f p ∧ e = ⟨p, none, some name⟩ := by
  simp only [normalize, mapError_eq_error, split_eq_error_iff]
  constructor
  · rintro ⟨_, ⟨p, fault, rfl⟩, rfl⟩
    exact ⟨p, fault, rfl⟩
  · rintro ⟨p, fault, rfl⟩
    exact ⟨_, ⟨p, fault, rfl⟩, rfl⟩

/-- A directive goes before a type that nothing names. -/
example : normalize .standard (.bare "JSONB" .json) "p"
    ⟨some (.name "NOTHING"), [("type", .null), ("allowNull", .num (.int 1))]⟩ true =
      .error ⟨.invalidDirective "allowNull" "boolean", none, some "p"⟩ := rfl

/-- **Faults of a property with a storage type.** A property whose storage type evaluates fails for
want of a storage type just when its directives are in order and its default has none. -/
theorem fault_of_split_iff {r : TypeRef} {t : StorageType} (hr : f.dataType = some r)
    (ht : r.eval c = .ok t) :
    (∃ e, split c json f required = .error e ∧ e.IsTypeFault) ↔
      checkDirectives f.keywords = .ok () ∧ ¬f.DefaultResolves c := by
  have resolved : resolve c json f.validation f.dataType = .ok ⟨t, none⟩ := by
    rw [hr, resolve, ht]
    rfl
  simp only [split_eq_error_iff]
  constructor
  · rintro ⟨e, ⟨p, fault, rfl⟩, typeFault⟩
    cases fault with
    | directive _ _ _ _ =>
      rcases typeFault with h | h
      · exact absurd h (by simp [SchemaError.code, SchemaError.unplaced, SchemaProblem.code])
      · exact absurd h (by simp [SchemaError.code, SchemaError.unplaced, SchemaProblem.code])
    | type _ fails => cases resolved.symm.trans fails
    | default directives _ given tagged fails =>
      refine ⟨checkDirectives_eq_ok_iff.2 directives, fun h => ?_⟩
      obtain ⟨d, hd⟩ := exists_givenDefault_iff.2 (h _ given)
      cases hd.symm.trans fails
  · rintro ⟨directives, unresolved⟩
    simp only [Fragment.DefaultResolves, not_forall] at unresolved
    obtain ⟨v, given, unresolved⟩ := unresolved
    cases hd : givenDefault c v with
    | ok d => exact absurd (exists_givenDefault_iff.1 ⟨d, hd⟩) unresolved
    | error e =>
      obtain ⟨tagged, typeFault, p, rfl⟩ := givenDefault_eq_error hd
      have directives := checkDirectives_eq_ok_iff.1 directives
      exact ⟨_, ⟨p, .default directives resolved given tagged hd, rfl⟩, typeFault⟩

end Property

end EntitySchema
