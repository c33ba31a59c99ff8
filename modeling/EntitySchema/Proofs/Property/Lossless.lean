import EntitySchema.Proofs.Property.Defaults
import EntitySchema.Proofs.Property.Derivation

/-!
# Nothing is lost

A fragment that is split comes back in the two halves: its directives in the column, everything else
in the schema (`normalize_keeps_members`). The schema has the other members as they stand and in
their order. The column has each directive once, with its value (`Column.Stands`); what it has
beside them is little and has a known source (`Column.Added`).

Five directives are taken out of the others and read as a boolean, a text, a list or a default. A
reading that fails would lose the value, so what the directives are checked for before
(`Directive.admits_of_check`) matters here.
-/

namespace EntitySchema

/-! ## Checked directives -/

theorem Kind.admits_boolean {v : Json} : Kind.boolean.admits v = true ↔ ∃ b, v = .bool b := by
  cases v <;> simp [Kind.admits]

theorem Kind.admits_string {v : Json} : Kind.string.admits v = true ↔ ∃ s, v = .str s := by
  cases v <;> simp [Kind.admits]

theorem Kind.admits_array {v : Json} : Kind.array.admits v = true ↔ ∃ vs, v = .arr vs := by
  cases v <;> simp [Kind.admits]

/-- A directive of one kind that is checked has a value of this kind. -/
theorem Directive.admits_of_check {k : String} {v : Json} {kind : Kind} (h : check k v = .ok ())
    (hk : Members.get? columns k = some [kind]) : kind.admits v = true := by
  unfold check at h
  rw [hk] at h
  dsimp only at h
  split at h
  · next admitted => simpa using admitted
  · cases h

/-! ## Members of a column -/

namespace Column

variable {column : Column} {j k : String} {w : Json}

/-- The keys that a column writes itself. -/
def ownKeys : List String :=
  ["type", "allowNull", "defaultValue", "primaryKey", "comment", "values"]

/-- **What a column writes** under a key: one of its parts, or an option. -/
inductive Writes (column : Column) : String → Json → Prop where
  | type : Writes column "type" (.str column.type.text)
  | allowNull : Writes column "allowNull" (.bool column.allowNull)
  | default {d : ColumnDefault} : column.default = some d →
    Writes column "defaultValue" (encodeDefault d)
  | primaryKey {b : Bool} : column.primaryKey = some b → Writes column "primaryKey" (.bool b)
  | comment {s : String} : column.comment = some s → Writes column "comment" (.str s)
  | values {vs : List Json} : column.values = some vs → Writes column "values" (.arr vs)
  | option {k : String} {w : Json} : (k, w) ∈ column.options → Writes column k w

theorem mem_optional {α : Type} {o : Option α} {g : α → Json} :
    (k, w) ∈ (o.map fun x => (j, g x)).toList ↔ k = j ∧ ∃ x, o = some x ∧ w = g x := by
  cases o <;> simp

theorem mem_members : (k, w) ∈ column.members ↔ column.Writes k w := by
  simp only [members, List.mem_append, List.mem_cons, List.not_mem_nil, or_false, Prod.mk.injEq,
    mem_optional, or_assoc]
  constructor
  · rintro (⟨rfl, rfl⟩ | ⟨rfl, rfl⟩ | ⟨rfl, d, hd, rfl⟩ | ⟨rfl, b, hb, rfl⟩ | ⟨rfl, s, hs, rfl⟩ |
      ⟨rfl, vs, hvs, rfl⟩ | hoption)
    · exact .type
    · exact .allowNull
    · exact .default hd
    · exact .primaryKey hb
    · exact .comment hs
    · exact .values hvs
    · exact .option hoption
  · intro written
    cases written with
    | type | allowNull => simp
    | default h | primaryKey h | comment h | values h | option h => simp [h]

theorem keys_members_sublist (column : Column) :
    (Members.keys column.members).Sublist (ownKeys ++ Members.keys column.options) := by
  have optional {α : Type} (o : Option α) (j : String) (g : α → Json) :
      (Members.keys (o.map fun x => (j, g x)).toList).Sublist [j] := by
    cases o <;> simp [Members.keys]
  simp only [members, Members.keys, List.map_append]
  exact (((((List.Sublist.refl ["type", "allowNull"]).append (optional _ _ _)).append
    (optional _ _ _)).append (optional _ _ _)).append (optional _ _ _)).append (.refl _)

/-- The keys of a column are distinct, if those of its options are and none of its own is among
them. -/
theorem nodup_members (distinct : (Members.keys column.options).Nodup)
    (own : ∀ k ∈ ownKeys, k ∉ Members.keys column.options) :
    (Members.keys column.members).Nodup :=
  (List.nodup_append.2 ⟨by decide, distinct, fun k hk j hj heq => own k hk (heq ▸ hj)⟩).sublist
    column.keys_members_sublist

end Column

/-! ## Sources of a column -/

/-- **What stands for a directive** in a column: its value, or for a default that is an expression
the text of what the expression comes to. -/
inductive Column.Stands (c : Catalog) (k : String) (v : Json) : Json → Prop where
  | given : (k = "defaultValue" → Descriptor.isTagged v = false) → Stands c k v v
  | evaluated {d : Descriptor} {t : StorageType} : k = "defaultValue" →
    Descriptor.isTagged v = true → Descriptor.decode v = .ok d → d.eval c = .ok t →
    Stands c k v (.str t.text)

theorem Column.stands_of_ne {c : Catalog} {k : String} {v : Json} (hk : k ≠ "defaultValue") :
    Stands c k v v := .given fun h => absurd h hk

/-- **What a column adds** to the directives of a fragment: the storage type, and four parts in the
place of a directive that is absent. -/
inductive Column.Added (f : Fragment) (column : Column) : String → Json → Prop where
  | type : Added f column "type" (.str column.type.text)
  | allowNull : f.get? "allowNull" = none →
    Added f column "allowNull" (.bool column.allowNull)
  | comment {s : String} : f.get? "comment" = none → f.get? "description" = some (.str s) →
    Added f column "comment" (.str s)
  | values {vs : List Json} : f.get? "values" = none → f.get? "enum" = some (.arr vs) →
    Added f column "values" (.arr vs)
  | default : f.get? "defaultValue" = none → column.allowNull = false →
    f.get? "type" = some (.str "array") → Added f column "defaultValue" (.arr [])

namespace Property

variable {c : Catalog} {json : StorageType} {f : Fragment} {required : Bool} {p : Property}
  {k : String} {v w : Json}

/-- The directives that are taken out of the others and read. -/
def readDirectives : List String := ["allowNull", "defaultValue", "values", "primaryKey", "comment"]

/-- The options of a column are the other directives of the fragment, in their order. -/
theorem restOf_given (f : Fragment) :
    restOf (addComment f.validation (directivesOf f.keywords)) =
      f.keywords.filter fun m => !readDirectives.contains m.1 && Directive.isColumn m.1 := by
  have dropped : (addComment f.validation (directivesOf f.keywords)).filter
      (fun m => !readDirectives.contains m.1) =
      (directivesOf f.keywords).filter fun m => !readDirectives.contains m.1 := by
    unfold addComment
    split
    · exact Members.filter_insert (s := fun k => !readDirectives.contains k) (by decide)
    · rfl
  rw [restOf, Members.foldl_erase]
  exact dropped.trans List.filter_filter

theorem options_of_split (h : split c json f required = .ok p) : p.column.options =
    f.keywords.filter fun m => !readDirectives.contains m.1 && Directive.isColumn m.1 := by
  obtain ⟨-, r, d, -, -, -, hcolumn⟩ := split_cases h
  rw [hcolumn, restOf_given]

theorem mem_options (h : split c json f required = .ok p) : (k, w) ∈ p.column.options ↔
    (k, w) ∈ f.keywords ∧ k ∉ readDirectives ∧ Directive.isColumn k = true := by
  rw [options_of_split h, List.mem_filter]
  simp

theorem nodup_members_of_split (distinct : (Members.keys f.keywords).Nodup)
    (h : split c json f required = .ok p) : (Members.keys p.column.members).Nodup := by
  refine Column.nodup_members (options_of_split h ▸ Members.nodup_keys_filter _ distinct) ?_
  intro k own hk
  obtain ⟨w, hw⟩ := Members.exists_get?_of_mem_keys hk
  obtain ⟨-, unread, directive⟩ := (mem_options h).1 (Members.mem_of_get? hw)
  have known : ∀ k ∈ Column.ownKeys, Directive.isColumn k = false ∨ k ∈ readDirectives := by decide
  rcases known k own with plain | read
  · cases plain.symm.trans directive
  · exact unread read

/-! ### Directives -/

theorem stands_of_givenDefault {d : ColumnDefault} (h : givenDefault c v = .ok d) :
    Column.Stands c "defaultValue" v (Column.encodeDefault d) := by
  cases tagged : Descriptor.isTagged v with
  | false =>
    cases (givenDefault_of_not_tagged tagged).symm.trans h
    exact .given fun _ => tagged
  | true =>
    obtain ⟨x, t, decoded, -⟩ := exists_givenDefault_iff.1 ⟨d, h⟩ tagged
    rw [givenDefault_of_decode tagged decoded] at h
    obtain ⟨t, ht, h⟩ := bind_eq_ok.1 h
    cases h
    exact .evaluated rfl tagged decoded ht

/-- A directive of the fragment stands in the column. -/
theorem stands_of_directive (distinct : (Members.keys f.keywords).Nodup)
    (h : split c json f required = .ok p) (directive : Directive.isColumn k = true)
    (hk : (k, v) ∈ f.keywords) : ∃ w, (k, w) ∈ p.column.members ∧ Column.Stands c k v w := by
  have found : f.get? k = some v := Members.get?_of_mem distinct hk
  obtain ⟨checked, r, d, -, hd, -, hcolumn⟩ := split_cases h
  have check : Directive.check k v = .ok () := forM_eq_ok.1 checked (k, v) hk
  simp only [Column.mem_members]
  by_cases read : k ∈ readDirectives
  · simp only [readDirectives, List.mem_cons, List.not_mem_nil, or_false] at read
    obtain rfl | rfl | rfl | rfl | rfl := read
    · obtain ⟨b, rfl⟩ := Kind.admits_boolean.1 (Directive.admits_of_check check rfl)
      have part : p.column.allowNull = b := by rw [hcolumn, Fragment.permission, found]; rfl
      exact ⟨_, part ▸ .allowNull, Column.stands_of_ne (by decide)⟩
    · rw [found] at hd
      obtain ⟨d, given, hd⟩ := bind_eq_ok.1 hd
      cases hd
      exact ⟨_, .default (by rw [hcolumn]), stands_of_givenDefault given⟩
    · obtain ⟨vs, rfl⟩ := Kind.admits_array.1 (Directive.admits_of_check check rfl)
      have part : p.column.values = some vs := by rw [hcolumn, found]; rfl
      exact ⟨_, .values part, Column.stands_of_ne (by decide)⟩
    · obtain ⟨b, rfl⟩ := Kind.admits_boolean.1 (Directive.admits_of_check check rfl)
      have part : p.column.primaryKey = some b := by rw [hcolumn, found]; rfl
      exact ⟨_, .primaryKey part, Column.stands_of_ne (by decide)⟩
    · obtain ⟨s, rfl⟩ := Kind.admits_string.1 (Directive.admits_of_check check rfl)
      have part : p.column.comment = some s := by rw [hcolumn, found]; rfl
      exact ⟨_, .comment part, Column.stands_of_ne (by decide)⟩
  · have other : k ≠ "defaultValue" := fun hk => read (hk ▸ by decide)
    exact ⟨v, .option ((mem_options h).2 ⟨hk, read, directive⟩), Column.stands_of_ne other⟩

/-! ### Additions -/

theorem values_of_resolve {schema : Members} {r : Resolution} {vs : List Json}
    (h : resolve c json schema f.dataType = .ok r) (hv : r.values = some vs) :
    Members.get? schema "enum" = some (.arr vs) := by
  cases ht : f.dataType with
  | some e =>
    rw [ht] at h
    obtain ⟨t, -, h⟩ := bind_eq_ok.1 h
    cases h
    cases hv
  | none =>
    rw [ht] at h
    rcases Resolution.derive_eq_ok h with
      ⟨values, enum, -, hr⟩ | ⟨-, -, -, -, -, hr⟩ | ⟨-, -, -, hr⟩
    · cases hr.symm.trans hv
      obtain ⟨-, -, found, -⟩ := Resolution.enumValues_eq_some enum
      exact found
    · cases hr.symm.trans hv
    · cases hr.symm.trans hv

theorem defaultOf_none {validation : Members} {type : StorageType} {allowNull : Bool}
    {d : ColumnDefault} (h : defaultOf c none validation type allowNull = .ok (some d)) :
    d = .value (.arr []) ∧ allowNull = false ∧
      Members.get? validation "type" = some (.str "array") := by
  dsimp only [defaultOf] at h
  split at h
  · next spare =>
    cases h
    obtain ⟨⟨required, -⟩, declared⟩ := by
      simpa only [Bool.and_eq_true, Bool.not_eq_true', beq_iff_eq] using spare
    obtain ⟨x, found, hx⟩ := Option.bind_eq_some_iff.1 declared
    cases x <;> cases hx
    exact ⟨rfl, required, found⟩
  · cases h

theorem spareComment_eq_some {ms : Members} (h : spareComment ms = some v) :
    ∃ s, Members.get? ms "description" = some (.str s) ∧ v = .str s := by
  obtain ⟨s, hs, rfl⟩ := Option.map_eq_some_iff.1 h
  obtain ⟨x, hx, hs⟩ := Option.bind_eq_some_iff.1 hs
  cases x <;> cases hs
  exact ⟨s, hx, rfl⟩

/-- A member of the column that is no directive of the fragment is an addition. -/
theorem added_of_absent (distinct : (Members.keys f.keywords).Nodup)
    (h : split c json f required = .ok p) (hk : (k, w) ∈ p.column.members)
    (absent : Directive.isColumn k = true → f.get? k = none) : Column.Added f p.column k w := by
  obtain ⟨-, r, d, hr, hd, -, hcolumn⟩ := split_cases h
  rcases Column.mem_members.1 hk with _ | _ | part | part | part | part | part
  · exact .type
  · exact .allowNull (absent (by decide))
  · have unset := absent (by decide)
    rw [hcolumn] at part
    dsimp only at part
    rw [unset, part] at hd
    obtain ⟨rfl, required, declared⟩ := defaultOf_none hd
    exact .default unset required ((f.get?_validation (by decide)).symm.trans declared)
  · rw [hcolumn, absent (by decide)] at part
    cases part
  · have unset := absent (by decide)
    rw [hcolumn, unset] at part
    obtain ⟨v, spare, hs⟩ := Option.bind_eq_some_iff.1 part
    obtain ⟨s, found, rfl⟩ := spareComment_eq_some spare
    cases hs
    exact .comment unset ((f.get?_validation (by decide)).symm.trans found)
  · have unset := absent (by decide)
    rw [hcolumn, unset] at part
    exact .values unset ((f.get?_validation (by decide)).symm.trans (values_of_resolve hr part))
  · obtain ⟨hmem, -, directive⟩ := (mem_options h).1 part
    cases (absent directive).symm.trans (Members.get?_of_mem distinct hmem)

end Property

/-- **Nothing is lost, nothing is invented.** The schema of a property that is normalized has the
members of the fragment that are no directives, as they stand and in their order; it is in a union
with null where a permission asks for that. The keys of the column are distinct. Each directive of
the fragment stands in the column, and a member of the column either stands for a directive or is
one of a few additions. -/
theorem normalize_keeps_members {c : Catalog} {json : StorageType} {name : String} {f : Fragment}
    {required : Bool} {p : Property} (distinct : (Members.keys f.keywords).Nodup)
    (h : Property.normalize c json name f required = .ok p) :
    (∃ rest, rest = f.keywords.filter (fun m => !Directive.isColumn m.1) ∧
      p.schema = if f.permission == some true && !isNullTolerant rest
        then Property.orNull (.obj rest) else .obj rest) ∧
    p.column.encode = .obj p.column.members ∧ (Members.keys p.column.members).Nodup ∧
    (∀ k v, (k, v) ∈ f.keywords → Directive.isColumn k = true →
      ∃ w, (k, w) ∈ p.column.members ∧ Column.Stands c k v w) ∧
    ∀ k w, (k, w) ∈ p.column.members →
      (∃ v, (k, v) ∈ f.keywords ∧ Directive.isColumn k = true ∧ Column.Stands c k v w) ∨
      Column.Added f p.column k w := by
  have hsplit := mapError_eq_ok.1 h
  obtain ⟨-, -, -, -, -, hschema, -⟩ := Property.split_cases hsplit
  have keys := Property.nodup_members_of_split distinct hsplit
  refine ⟨⟨_, rfl, hschema⟩, rfl, keys, fun k v hk directive =>
    Property.stands_of_directive distinct hsplit directive hk, fun k w hw => ?_⟩
  by_cases absent : Directive.isColumn k = true → f.get? k = none
  · exact .inr (Property.added_of_absent distinct hsplit hw absent)
  · obtain ⟨directive, present⟩ := Classical.not_imp.1 absent
    obtain ⟨v, found⟩ := Option.ne_none_iff_exists'.1 present
    have hv : (k, v) ∈ f.keywords := Members.mem_of_get? found
    obtain ⟨w', hw', stands⟩ := Property.stands_of_directive distinct hsplit directive hv
    obtain rfl : w = w' := Option.some.inj
      ((Members.get?_of_mem keys hw).symm.trans (Members.get?_of_mem keys hw'))
    exact .inl ⟨v, hv, directive, stands⟩

/-- A string with a description and an expression for a default, that may be null by permission. -/
def Fragment.described : Fragment := .ofKeywords [
  ("unique", .bool true), ("type", .str "string"), ("description", .str "Last change"),
  ("defaultValue", .obj [("kind", .str "DataType"), ("path", .str "NOW")]),
  ("allowNull", .bool true)]

theorem described_keeps_members : ∃ p, (Members.keys Fragment.described.keywords).Nodup ∧
    Property.normalize .standard (.bare "JSONB" .json) "p" .described true = .ok p ∧
    p.column.members = [("type", .str "STRING"), ("allowNull", .bool true),
      ("defaultValue", .str "NOW"), ("comment", .str "Last change"), ("unique", .bool true)] ∧
    (Members.keys p.column.members).Nodup ∧
    p.schema = Property.orNull
      (.obj [("type", .str "string"), ("description", .str "Last change")]) := by
  have run : (Property.normalize .standard (.bare "JSONB" .json) "p" .described true).map
      (·.column.members) = .ok [("type", .str "STRING"), ("allowNull", .bool true),
      ("defaultValue", .str "NOW"), ("comment", .str "Last change"), ("unique", .bool true)] := by
    decide +kernel
  obtain ⟨p, hp, members⟩ := map_eq_ok.1 run
  obtain ⟨⟨rest, rfl, schema⟩, -, keys, -⟩ := normalize_keeps_members (by decide) hp
  exact ⟨p, by decide, hp, members, keys, schema⟩

end EntitySchema
