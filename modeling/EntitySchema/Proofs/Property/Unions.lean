import EntitySchema.Proofs.Property.Derivation

/-!
# Unions

The storage type of a union is that of the first branch that does not declare null, once all such
branches are seen to declare one type.

* `union_ignores_order`: the order of the branches decides nothing but the arguments of the type,
  which come from the maximal length of the first of them. Branches that declare null are passed
  over, so that two or more branches may have any number of them in between.
* `null_union_keeps_type`: a schema in a union with null has the storage type of its own declared
  type, so it keeps the storage type that it had on its own when that was the type in question. An
  enumeration does not keep it, and neither does a union of branches whose type it does not declare
  itself (`null_union_changes_type`).

What carries both is that a union only looks at its meaningful branches (`ofUnion_eq`), and that two
schemas with the same declared type have the same storage type up to its arguments
(`uncalled_ofDeclared`).
-/

namespace EntitySchema

/-- A storage type as it was before it was called. -/
def StorageType.uncalled (t : StorageType) : StorageType := { t with args := [] }

theorem StorageType.call_bare {name : String} {cls : TypeClass} (h : cls.callable = true)
    (args : List TypeArgument) : (bare name cls).call args = .ok { bare name cls with args } := by
  simp [call, bare, h]

/-- The schema of null. -/
def Json.nullSchema : Json := .obj [("type", .str "null")]

namespace Resolution

variable {c : Catalog} {json : StorageType} {k name : String} {branches more : List Json}
  {s ns : Members} {r : Resolution} {b : Json}

/-- A resolution up to the arguments of its storage type. -/
def uncalled (r : Resolution) : Resolution := { r with type := r.type.uncalled }

/-! ## Meaningful branches -/

/-- Whether all branches declare one type. -/
def Share (branches : List Json) (name : String) : Prop :=
  ∀ b ∈ branches, b.getStr? "type" = some name

/-- The storage type that meaningful branches give a union. -/
def ofMeaningful (c : Catalog) (json : StorageType) (keyword : String) :
    List Json → SchemaResult StorageType
  | [] => fail (.emptyUnion keyword)
  | first :: rest => match first.getStr? "type" with
    | none => fail (.mixedUnion keyword)
    | some shared =>
      if (first :: rest).all fun b => b.getStr? "type" == some shared then
        ofDeclared c json (first.get? "type") (first.obj?.getD [])
      else fail (.mixedUnion keyword)

/-- A union looks at the number of its branches, and then only at the meaningful ones. -/
theorem ofUnion_eq : ofUnion c json k branches =
    if branches.length < 2 then fail (.emptyUnion k)
    else ofMeaningful c json k (meaningful branches) := by
  unfold ofUnion meaningful
  generalize branches.filter (fun b => b.getStr? "type" ≠ some "null") = ms
  cases ms with
  | nil => exact (ite_self _).symm
  | cons first rest => rfl

theorem get?_type_of_declares (h : b.getStr? "type" = some name) :
    b.get? "type" = some (.str name) := by
  obtain ⟨x, hx, hs⟩ := Option.bind_eq_some_iff.1 h
  cases x <;> cases hs
  exact hx

theorem ofMeaningful_of_share (h : Share (b :: more) name) : ofMeaningful c json k (b :: more) =
    ofDeclared c json (some (.str name)) (b.obj?.getD []) := by
  have first : b.getStr? "type" = some name := h b List.mem_cons_self
  have all : (b :: more).all (fun b => b.getStr? "type" == some name) = true :=
    List.all_eq_true.2 fun b hb => by simpa using h b hb
  simp only [ofMeaningful, first, all, if_true, get?_type_of_declares first]

/-- Branches that do not all declare one type are mixed. -/
theorem ofMeaningful_of_mixed (hne : branches ≠ []) (h : ∀ name, ¬ Share branches name) :
    ofMeaningful c json k branches = fail (.mixedUnion k) := by
  cases branches with
  | nil => exact absurd rfl hne
  | cons first rest =>
    cases hfirst : first.getStr? "type" with
    | none => simp only [ofMeaningful, hfirst]
    | some shared =>
      have mixed : (first :: rest).all (fun b => b.getStr? "type" == some shared) ≠ true :=
        fun all => h shared fun b hb => by simpa using List.all_eq_true.1 all b hb
      simp only [ofMeaningful, hfirst, if_neg mixed]

/-! ## Declared types -/

/-- A declared type has one storage type, up to the arguments that a maximal length gives it. -/
theorem uncalled_ofDeclared
    (hs : ∀ cls, Members.get? c.entries "STRING" = some cls → cls.callable = true)
    (name : String) (ns : Members) :
    (ofDeclared c json (some (.str name)) ns).map StorageType.uncalled =
      (ofDeclared c json (some (.str name)) []).map StorageType.uncalled := by
  dsimp only [ofDeclared]
  split
  · rfl
  · split
    · rfl
    · cases ht : named c (Text.upper name) name with
      | error e => rfl
      | ok t =>
        show Except.map _ (Except.bind (.ok t) _) = .ok t.uncalled
        dsimp only [Except.bind]
        cases (Members.get? ns "maxLength").filter isSize with
        | none => rfl
        | some size =>
          dsimp only
          split
          · -- Only a string is called, and its type is the entry `STRING` of the catalog.
            next hname =>
            subst hname
            have upper : Text.upper "string" = "STRING" := by decide +kernel
            rw [named_eq_ok, upper, Catalog.resolve?_of_not_mem (by decide)] at ht
            obtain ⟨cls, hcls, rfl⟩ := Option.map_eq_some_iff.1 ht
            rw [StorageType.call_bare (hs cls hcls)]
            rfl
          · rfl

/-! ## Order -/

theorem share_perm (h : more.Perm branches) : Share more name ↔ Share branches name :=
  forall_congr' fun _ => imp_congr_left h.mem_iff

theorem ofMeaningful_perm
    (hs : ∀ cls, Members.get? c.entries "STRING" = some cls → cls.callable = true)
    (h : more.Perm branches) :
    (ofMeaningful c json k more).map StorageType.uncalled =
      (ofMeaningful c json k branches).map StorageType.uncalled := by
  cases branches with
  | nil => rw [h.eq_nil]
  | cons b rest =>
    obtain ⟨b', rest', rfl⟩ : ∃ b' rest', more = b' :: rest' :=
      List.exists_cons_of_ne_nil fun hnil => by simp [hnil] at h
    by_cases hshare : ∃ name, Share (b :: rest) name
    · obtain ⟨name, hname⟩ := hshare
      rw [ofMeaningful_of_share hname, ofMeaningful_of_share ((share_perm h).2 hname),
        uncalled_ofDeclared hs name, ← uncalled_ofDeclared hs name]
    · have mixed := not_exists.1 hshare
      rw [ofMeaningful_of_mixed (by simp) mixed,
        ofMeaningful_of_mixed (by simp) fun name => (share_perm h).not.2 (mixed name)]

/-- The order of its branches decides the arguments of the storage type of a union, nothing else. -/
theorem ofUnion_perm
    (hs : ∀ cls, Members.get? c.entries "STRING" = some cls → cls.callable = true)
    (h : more.Perm branches) :
    (ofUnion c json k more).map StorageType.uncalled =
      (ofUnion c json k branches).map StorageType.uncalled := by
  rw [ofUnion_eq, ofUnion_eq, h.length_eq]
  split_ifs
  · rfl
  · exact ofMeaningful_perm hs (h.filter _)

/-! ## Branches that declare null -/

/-- Branches that declare null are put anywhere into a list of branches. -/
inductive AddsNulls : List Json → List Json → Prop
  | nil : AddsNulls [] []
  | keep {b : Json} {branches more : List Json} : AddsNulls branches more →
      AddsNulls (b :: branches) (b :: more)
  | add {b : Json} {branches more : List Json} : b.getStr? "type" = some "null" →
      AddsNulls branches more → AddsNulls branches (b :: more)

namespace AddsNulls

theorem meaningful_eq (h : AddsNulls branches more) : meaningful more = meaningful branches := by
  induction h with
  | nil => rfl
  | keep _ ih =>
    rw [meaningful, List.filter_cons, meaningful, List.filter_cons]
    exact if_congr Iff.rfl (congrArg _ ih) ih
  | add hb _ ih =>
    rw [meaningful, List.filter_cons, if_neg (by simp [hb])]
    exact ih

theorem length_le (h : AddsNulls branches more) : branches.length ≤ more.length := by
  induction h with
  | nil => exact Nat.le_refl _
  | keep _ ih => exact Nat.succ_le_succ ih
  | add _ _ ih => exact Nat.le_succ_of_le ih

theorem ofUnion_eq (h : AddsNulls branches more) (hlen : 2 ≤ branches.length) :
    ofUnion c json k more = ofUnion c json k branches := by
  have := h.length_le
  rw [Resolution.ofUnion_eq, Resolution.ofUnion_eq, if_neg (by omega), if_neg (by omega),
    h.meaningful_eq]

end AddsNulls

/-! ## Schemas with a union -/

/-- A schema with a union takes its values from an enumeration or its type from the union. -/
theorem derive_of_union (h : union? s = some (k, branches)) : derive c json s =
    match enumValues s with
    | some values => (named c "ENUM" "enum").map (⟨·, some values⟩)
    | none => (ofUnion c json k branches).map (⟨·, none⟩) := by
  unfold derive
  cases enumValues s with
  | some values => cases named c "ENUM" "enum" <;> rfl
  | none =>
    simp only [h]
    cases ofUnion c json k branches <;> rfl

/-- Other branches may stand in the place of those that decide. -/
theorem union?_insert (h : union? s = some (k, branches)) :
    union? (Members.insert s k (.arr more)) = some (k, more) := by
  obtain ⟨rfl | rfl, -⟩ := union?_eq_some h
  · simp only [union?, Members.get?_insert_self]
  · have other : ∀ bs, Members.get? s "anyOf" ≠ some (.arr bs) := by
      intro bs hbs
      simp [union?, hbs] at h
    unfold union?
    rw [Members.get?_insert_of_ne (by decide), Members.get?_insert_self]
    split
    · next hbs => exact absurd hbs (other _)
    · next heq _ =>
      cases heq
      rfl
    · next hno => exact absurd rfl (hno more)

/-- The branches of a union have no part in an enumeration. -/
theorem enumValues_insert (h : union? s = some (k, branches)) (w : Json) :
    enumValues (Members.insert s k w) = enumValues s := by
  have hk : k ≠ "type" ∧ k ≠ "enum" := by
    obtain ⟨rfl | rfl, -⟩ := union?_eq_some h
    · decide
    · decide
  rw [enumValues, enumValues, Members.get?_insert_of_ne hk.1, Members.get?_insert_of_ne hk.2]

/-- **Order of branches.** The order of the branches that decide has no part in the outcome, the
arguments of the storage type apart, and neither have branches that declare null, beside two others
or more. -/
theorem union_ignores_order
    (hs : ∀ cls, Members.get? c.entries "STRING" = some cls → cls.callable = true)
    (h : union? s = some (k, branches)) :
    (∀ more, more.Perm branches →
      (resolve c json (Members.insert s k (.arr more)) none).map uncalled =
        (resolve c json s none).map uncalled) ∧
    (2 ≤ branches.length → ∀ more, AddsNulls branches more →
      resolve c json (Members.insert s k (.arr more)) none = resolve c json s none) := by
  have replaced (more : List Json) : resolve c json (Members.insert s k (.arr more)) none =
      match enumValues s with
      | some values => (named c "ENUM" "enum").map (⟨·, some values⟩)
      | none => (ofUnion c json k more).map (⟨·, none⟩) := by
    rw [resolve, derive_of_union (union?_insert h), enumValues_insert h]
  have given : resolve c json s none = _ := derive_of_union h
  refine ⟨fun more hperm => ?_, fun hlen more hnulls => ?_⟩
  · rw [replaced, given]
    cases enumValues s with
    | some values => rfl
    | none =>
      have types : (ofUnion c json k more).map StorageType.uncalled =
        (ofUnion c json k branches).map StorageType.uncalled := ofUnion_perm hs hperm
      have same := congrArg (Except.map fun t => (⟨t, none⟩ : Resolution)) types
      rw [map_map, map_map] at same
      rwa [map_map, map_map]
  · rw [replaced, given, hnulls.ofUnion_eq hlen]

/-- Short strings. -/
def shortString : Members := [("type", .str "string"), ("maxLength", .num (.int 3))]

/-- Short strings or any strings. -/
def shortOrAny : Members :=
  [("anyOf", .arr [.obj shortString, .obj [("type", .str "string")]])]

/-- In another order, the branch without a limit sizes the column; null is passed over. -/
theorem reordered_union_stays_string : ∃ branches,
    union? shortOrAny = some ("anyOf", branches) ∧
    (resolve .standard (.bare "JSONB" .json)
        (Members.insert shortOrAny "anyOf" (.arr branches.reverse)) none).map uncalled =
      .ok ⟨.bare "STRING" .string, none⟩ ∧
    resolve .standard (.bare "JSONB" .json)
        (Members.insert shortOrAny "anyOf" (.arr (Json.nullSchema :: branches))) none =
      .ok ⟨⟨"STRING", .string, [.literal (.num (.int 3))], []⟩, none⟩ := by
  have callable : ∀ cls, Members.get? Catalog.standard.entries "STRING" = some cls →
      cls.callable = true := by
    rintro cls hcls
    cases hcls
    rfl
  have alone : resolve .standard (.bare "JSONB" .json) shortOrAny none =
      .ok ⟨⟨"STRING", .string, [.literal (.num (.int 3))], []⟩, none⟩ := rfl
  refine ⟨_, rfl, ?_, ?_⟩
  · rw [(union_ignores_order callable rfl).1 _ (List.reverse_perm _), alone]
    rfl
  · rw [(union_ignores_order callable rfl).2 (by decide) _ (.add rfl (.keep (.keep .nil))), alone]

/-! ## Unions with null -/

/-- A schema has a storage type by its own declared type, which is not null. -/
def DeclaresOwn (c : Catalog) (json : StorageType) (s : Members) (t : StorageType) : Prop :=
  ∃ name, name ≠ "null" ∧ Members.get? s "type" = some (.str name) ∧
    ofDeclared c json (some (.str name)) s = .ok t

/-- A union of a schema with null, in either order. -/
inductive NullUnion (s : Members) : List Json → Prop
  | last : NullUnion s [.obj s, Json.nullSchema]
  | first : NullUnion s [Json.nullSchema, .obj s]

theorem NullUnion.ofUnion_eq (h : NullUnion s branches) :
    ofUnion c json k branches = ofMeaningful c json k (meaningful [.obj s]) := by
  have added : AddsNulls [.obj s] branches ∧ branches.length = 2 := by
    cases h with
    | last => exact ⟨.keep (.add rfl .nil), rfl⟩
    | first => exact ⟨.add rfl (.keep .nil), rfl⟩
  rw [Resolution.ofUnion_eq, if_neg (by omega), added.1.meaningful_eq]

/-- The only meaningful branch of a union with null has to declare a type itself. -/
theorem NullUnion.ofUnion_eq_ok {t : StorageType} (h : NullUnion s branches) :
    ofUnion c json k branches = .ok t ↔ DeclaresOwn c json s t := by
  have declared : (Json.obj s).getStr? "type" = (Members.get? s "type").bind Json.str? := rfl
  rw [h.ofUnion_eq]
  constructor
  · intro ht
    by_cases hnull : (Json.obj s).getStr? "type" = some "null"
    · rw [meaningful, List.filter_cons_of_neg (by simp [hnull])] at ht
      cases ht
    · rw [meaningful, List.filter_cons_of_pos (by simpa using hnull), List.filter_nil] at ht
      cases hname : (Json.obj s).getStr? "type" with
      | none =>
        simp only [ofMeaningful, hname] at ht
        cases ht
      | some name =>
        rw [ofMeaningful_of_share (List.forall_mem_singleton.2 hname)] at ht
        exact ⟨name, fun heq => hnull (heq ▸ hname), get?_type_of_declares hname, ht⟩
  · rintro ⟨name, hnull, htype, ht⟩
    have hname : (Json.obj s).getStr? "type" = some name := by rw [declared, htype]; rfl
    rw [meaningful, List.filter_cons_of_pos (by simpa [hname] using hnull), List.filter_nil,
      ofMeaningful_of_share (List.forall_mem_singleton.2 hname)]
    exact ht

/-- **Unions with null.** A schema with a storage type keeps it in a union with null exactly when it
is no enumeration and the storage type is that of the type it declares itself. So it does when the
declared type, other than null, is all that there is to decide. -/
theorem null_union_keeps_type (h : resolve c json s none = .ok r) {ms : Members}
    (hm : Property.orNull (.obj s) = .obj ms ∨
      ms = [("anyOf", .arr [Json.nullSchema, .obj s])]) :
    (resolve c json ms none = .ok r ↔ enumValues s = none ∧ DeclaresOwn c json s r.type) ∧
    (enumValues s = none → union? s = none → Members.get? s "type" ≠ some (.str "null") →
      resolve c json ms none = .ok r) := by
  obtain ⟨branches, rfl, hb⟩ : ∃ branches, ms = [("anyOf", .arr branches)] ∧
      NullUnion s branches := by
    rcases hm with hm | rfl
    · exact ⟨_, (Json.obj.inj hm).symm, .last⟩
    · exact ⟨_, rfl, .first⟩
  have union : union? [("anyOf", .arr branches)] = some ("anyOf", branches) := rfl
  have kept : resolve c json [("anyOf", .arr branches)] none = .ok r ↔
      enumValues s = none ∧ DeclaresOwn c json s r.type := by
    have unlisted : r.values = none ↔ enumValues s = none := by
      rcases derive_eq_ok h with ⟨values, hv, -, hr⟩ | ⟨_, _, hv, -, -, hr⟩ | ⟨hv, -, -, hr⟩
      · simp [hv, hr]
      · simp [hv, hr]
      · simp [hv, hr]
    rw [resolve, derive_of_union union, show enumValues [("anyOf", .arr branches)] = none from rfl,
      ← unlisted]
    dsimp only
    rw [map_eq_ok]
    constructor
    · rintro ⟨t, ht, rfl⟩
      exact ⟨rfl, hb.ofUnion_eq_ok.1 ht⟩
    · rintro ⟨hr, ht⟩
      exact ⟨r.type, hb.ofUnion_eq_ok.2 ht, by rw [← hr]⟩
  refine ⟨kept, fun hv hu hnull => kept.2 ⟨hv, ?_⟩⟩
  rcases derive_eq_ok h with ⟨_, hv', -⟩ | ⟨_, _, -, hu', -⟩ | ⟨-, -, ht, -⟩
  · cases hv.symm.trans hv'
  · cases hu.symm.trans hu'
  · obtain ⟨name, hname⟩ := ofDeclared_eq_ok ht
    rw [hname] at ht hnull
    exact ⟨name, fun heq => hnull (heq ▸ rfl), hname, ht⟩

/-- A sized string keeps its storage type, whichever branch null is. -/
theorem sized_string_keeps_type :
    resolve .standard (.bare "JSONB" .json) shortString none =
      .ok ⟨⟨"STRING", .string, [.literal (.num (.int 3))], []⟩, none⟩ ∧
    resolve .standard (.bare "JSONB" .json)
        [("anyOf", .arr [.obj shortString, Json.nullSchema])] none =
      .ok ⟨⟨"STRING", .string, [.literal (.num (.int 3))], []⟩, none⟩ ∧
    resolve .standard (.bare "JSONB" .json)
        [("anyOf", .arr [Json.nullSchema, .obj shortString])] none =
      .ok ⟨⟨"STRING", .string, [.literal (.num (.int 3))], []⟩, none⟩ :=
  ⟨rfl, (null_union_keeps_type rfl (.inl rfl)).2 rfl rfl (by decide),
    (null_union_keeps_type rfl (.inr rfl)).2 rfl rfl (by decide)⟩

/-- A schema that lists values. -/
def listedString : Members := [("type", .str "string"), ("enum", .arr [.str "a"])]

/-- In a union with null, an enumeration becomes a string, and a union of branches that declare a
type has no storage type any more. -/
theorem null_union_changes_type :
    (resolve .standard (.bare "JSONB" .json) listedString none =
        .ok ⟨.bare "ENUM" .enum, some [.str "a"]⟩ ∧
      resolve .standard (.bare "JSONB" .json)
        [("anyOf", .arr [.obj listedString, Json.nullSchema])] none =
          .ok ⟨.bare "STRING" .string, none⟩) ∧
    (resolve .standard (.bare "JSONB" .json) shortOrAny none =
        .ok ⟨⟨"STRING", .string, [.literal (.num (.int 3))], []⟩, none⟩ ∧
      resolve .standard (.bare "JSONB" .json)
        [("anyOf", .arr [.obj shortOrAny, Json.nullSchema])] none = fail (.mixedUnion "anyOf")) :=
  ⟨⟨rfl, rfl⟩, rfl, rfl⟩

end Resolution

end EntitySchema
