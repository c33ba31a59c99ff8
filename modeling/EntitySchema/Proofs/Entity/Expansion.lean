import EntitySchema.Proofs.TypeExpr.Stability
import EntitySchema.Registry

/-!
# Putting shared schemas in

The properties of an entity file are gone through once, in order. The name of a shared schema is
replaced by the schema as it is written, any other value is kept, and the first name that is not
known stops it: what was replaced before it stays replaced, and the rest is not looked at
(`names_are_expanded`).

An entry takes one step (`expandMembers_cons`, `expandMembers_cons_unknown`), and a run is described
by `Expanded`. A schema is written as an object, so that no name is left in what has been replaced,
and going through it a second time changes nothing.
-/

namespace EntitySchema

section
variable {shared : SharedSchemas} {ps qs good good' before after rest : Members}
  {node node' v w : Json} {key name : String} {failure : Option UnknownSchema} {u : UnknownSchema}

/-! ## One entry -/

/-- What a value is replaced by: the name of a shared schema by the schema as it is written, and a
value that is no string by itself. -/
inductive Replaced (shared : SharedSchemas) : Json → Json → Prop where
  | name {name : String} {f : Fragment} (known : Members.get? shared name = some f) :
      Replaced shared (.str name) f.encode
  | value {v : Json} (other : v.str? = none) : Replaced shared v v

/-- A value that names no shared schema. -/
def Dangling (shared : SharedSchemas) (v : Json) : Prop :=
  ∃ name, v = .str name ∧ Members.get? shared name = none

/-- Every value is replaced by something, or names no shared schema. -/
theorem dangling_or_replaced (shared : SharedSchemas) (v : Json) :
    Dangling shared v ∨ ∃ w, Replaced shared v w := by
  cases v with
  | str name =>
    cases h : Members.get? shared name with
    | none => exact .inl ⟨name, rfl, h⟩
    | some f => exact .inr ⟨_, .name h⟩
  | _ => exact .inr ⟨_, .value rfl⟩

theorem Replaced.not_dangling (h : Replaced shared v w) : ¬ Dangling shared v := by
  rintro ⟨name, rfl, unknown⟩
  cases h with
  | name known => cases unknown.symm.trans known
  | value other => cases other

/-- A replaced value is no string: a schema is written as an object. -/
theorem Replaced.str?_eq_none (h : Replaced shared v w) : w.str? = none := by
  cases h with
  | @name _ f _ =>
    rw [f.encode_eq]
    rfl
  | value other => exact other

theorem expandMembers_cons (h : Replaced shared v w) :
    expandMembers shared ((key, v) :: ps) =
      ((expandMembers shared ps).1, (key, w) :: (expandMembers shared ps).2) := by
  cases h with
  | name known => simp only [expandMembers, known]
  | value other =>
    cases v with
    | str name => cases other
    | _ => rfl

theorem expandMembers_cons_unknown (h : Members.get? shared name = none) :
    expandMembers shared ((key, .str name) :: ps) =
      (some ⟨name, key⟩, (key, .str name) :: ps) := by
  simp only [expandMembers, h]

/-! ## All entries -/

/-- Entries that are replaced one by one, under the same keys. -/
def ReplacedAll (shared : SharedSchemas) : Members → Members → Prop :=
  List.Forall₂ fun m n => m.1 = n.1 ∧ Replaced shared m.2 n.2

theorem ReplacedAll.not_dangling (h : ReplacedAll shared ps qs) :
    ∀ m ∈ ps, ¬ Dangling shared m.2 := by
  induction h with
  | nil => exact nofun
  | cons hm _ ih => exact List.forall_mem_cons.2 ⟨hm.2.not_dangling, ih⟩

theorem ReplacedAll.str?_eq_none (h : ReplacedAll shared ps qs) : ∀ m ∈ qs, m.2.str? = none := by
  induction h with
  | nil => exact nofun
  | cons hm _ ih => exact List.forall_mem_cons.2 ⟨hm.2.str?_eq_none, ih⟩

/-- What a run over entries gives: all of them replaced, or those before the first name that is not
known. -/
inductive Expanded (shared : SharedSchemas) : Members → Option UnknownSchema → Members → Prop where
  | all {ps qs : Members} (replaced : ReplacedAll shared ps qs) : Expanded shared ps none qs
  | upTo {good good' rest : Members} {key name : String} (replaced : ReplacedAll shared good good')
      (unknown : Members.get? shared name = none) :
      Expanded shared (good ++ (key, .str name) :: rest) (some ⟨name, key⟩)
        (good' ++ (key, .str name) :: rest)

theorem Expanded.cons (hv : Replaced shared v w) (h : Expanded shared ps failure qs) :
    Expanded shared ((key, v) :: ps) failure ((key, w) :: qs) := by
  cases h with
  | all replaced => exact .all (.cons ⟨rfl, hv⟩ replaced)
  | @upTo good good' _ _ _ replaced unknown =>
    have longer : ReplacedAll shared ((key, v) :: good) ((key, w) :: good') :=
      .cons ⟨rfl, hv⟩ replaced
    exact .upTo longer unknown

theorem expanded_expandMembers (shared : SharedSchemas) (ps : Members) :
    Expanded shared ps (expandMembers shared ps).1 (expandMembers shared ps).2 := by
  induction ps with
  | nil => exact .all .nil
  | cons m rest ih =>
    obtain ⟨key, v⟩ := m
    rcases dangling_or_replaced shared v with ⟨name, rfl, unknown⟩ | ⟨w, hv⟩
    · rw [expandMembers_cons_unknown unknown]
      have none : ReplacedAll shared [] [] := .nil
      exact .upTo none unknown
    · rw [expandMembers_cons hv]
      exact .cons hv ih

theorem Expanded.isSome_iff (h : Expanded shared ps failure qs) :
    failure.isSome ↔ ∃ m ∈ ps, Dangling shared m.2 := by
  cases h with
  | all replaced =>
    refine iff_of_false (by simp) ?_
    rintro ⟨m, hm, hdangling⟩
    exact replaced.not_dangling m hm hdangling
  | @upTo _ _ _ key name replaced unknown =>
    exact iff_of_true rfl ⟨(key, .str name), by simp, name, rfl, unknown⟩

/-- Where no value is a string, nothing is replaced. -/
theorem expandMembers_of_no_str (h : ∀ m ∈ ps, m.2.str? = none) :
    expandMembers shared ps = (none, ps) := by
  induction ps with
  | nil => rfl
  | cons m rest ih =>
    obtain ⟨hm, hrest⟩ := List.forall_mem_cons.1 h
    rw [expandMembers_cons (.value hm), ih hrest]

/-! ## Nodes -/

/-- What expansion gives for a node: the node itself if it has no object of properties, else the
node with another object in the place of the first one. -/
inductive NodeExpanded (shared : SharedSchemas) : Json → Option UnknownSchema → Json → Prop where
  | without {node : Json} (none : (node.get? "properties").bind Json.obj? = none) :
      NodeExpanded shared node .none node
  | within {before ps qs after : Members} {failure : Option UnknownSchema}
      (first : "properties" ∉ Members.keys before) (expanded : Expanded shared ps failure qs) :
      NodeExpanded shared (.obj (before ++ ("properties", .obj ps) :: after)) failure
        (.obj (before ++ ("properties", .obj qs) :: after))

theorem expandShared_append (first : "properties" ∉ Members.keys before) :
    expandShared shared (.obj (before ++ ("properties", .obj ps) :: after)) =
      ((expandMembers shared ps).1,
        .obj (before ++ ("properties", .obj (expandMembers shared ps).2) :: after)) := by
  rw [expandShared, Members.get?_append_cons first]
  simp only [Members.insert_append_cons first]

theorem expandShared_of_none (h : (node.get? "properties").bind Json.obj? = none) :
    expandShared shared node = (none, node) := by
  cases node with
  | obj ms =>
    change (Members.get? ms "properties").bind Json.obj? = none at h
    cases hp : Members.get? ms "properties" with
    | none => simp only [expandShared, hp]
    | some v =>
      rw [hp] at h
      cases v with
      | obj ps => cases h
      | _ => simp only [expandShared, hp]
  | _ => rfl

theorem nodeExpanded_expandShared (shared : SharedSchemas) (node : Json) :
    NodeExpanded shared node (expandShared shared node).1 (expandShared shared node).2 := by
  cases h : (node.get? "properties").bind Json.obj? with
  | none =>
    rw [expandShared_of_none h]
    exact .without h
  | some ps =>
    obtain ⟨v, hv, hps⟩ := Option.bind_eq_some_iff.1 h
    cases node with
    | obj ms =>
      obtain ⟨before, after, rfl, first⟩ := Members.exists_append_of_get? hv
      cases v with
      | obj _ =>
        cases hps
        rw [expandShared_append first]
        exact .within first (expanded_expandMembers shared ps)
      | _ => cases hps
    | _ => cases hv

theorem NodeExpanded.isSome_iff (h : NodeExpanded shared node failure node') :
    failure.isSome ↔ ∃ ps, node.get? "properties" = some (.obj ps) ∧
      ∃ m ∈ ps, Dangling shared m.2 := by
  cases h with
  | without no =>
    refine iff_of_false (by simp) ?_
    rintro ⟨ps, hps, -⟩
    rw [hps] at no
    cases no
  | @within before ps _ after _ first expanded =>
    have found : (Json.obj (before ++ ("properties", .obj ps) :: after)).get? "properties" =
      some (.obj ps) := Members.get?_append_cons first after
    rw [expanded.isSome_iff, found]
    simp

/-- **Shared names.** Expansion fails just when an entry of an object of properties names no shared
schema; then the message is about the first such entry, the entries before it are replaced, and all
else is as it was. When it succeeds, all entries are replaced, none of them is a string any more,
all else is as it was, and expanding again changes nothing. -/
theorem names_are_expanded (shared : SharedSchemas) (node : Json) :
    ((expandShared shared node).1.isSome ↔ ∃ ps, node.get? "properties" = some (.obj ps) ∧
      ∃ m ∈ ps, Dangling shared m.2) ∧
    (∀ u node', expandShared shared node = (some u, node') →
      ∃ before good good' key name rest after,
        node = .obj (before ++
          ("properties", .obj (good ++ (key, .str name) :: rest)) :: after) ∧
        "properties" ∉ Members.keys before ∧
        ReplacedAll shared good good' ∧ Members.get? shared name = none ∧
        u.message = "Unknown schema " ++ Text.shown name ++ " for property " ++ Text.shown key ∧
        node' = .obj (before ++
          ("properties", .obj (good' ++ (key, .str name) :: rest)) :: after)) ∧
    (∀ node', expandShared shared node = (none, node') →
      (((node.get? "properties").bind Json.obj? = none ∧ node' = node) ∨
        ∃ before ps qs after,
          node = .obj (before ++ ("properties", .obj ps) :: after) ∧
          "properties" ∉ Members.keys before ∧
          ReplacedAll shared ps qs ∧ (∀ m ∈ qs, m.2.str? = none) ∧
          node' = .obj (before ++ ("properties", .obj qs) :: after)) ∧
      expandShared shared node' = (none, node')) := by
  have outcome := nodeExpanded_expandShared shared node
  refine ⟨outcome.isSome_iff, fun u node' h => ?_, fun node' h => ?_⟩
  · rw [h] at outcome
    cases outcome with
    | within first expanded =>
      cases expanded with
      | upTo replaced unknown =>
        exact ⟨_, _, _, _, _, _, _, rfl, first, replaced, unknown, rfl, rfl⟩
  · rw [h] at outcome
    cases outcome with
    | without no => exact ⟨.inl ⟨no, rfl⟩, h⟩
    | within first expanded =>
      cases expanded with
      | all replaced =>
        refine ⟨.inr ⟨_, _, _, _, rfl, first, replaced, replaced.str?_eq_none, rfl⟩, ?_⟩
        rw [expandShared_append first, expandMembers_of_no_str replaced.str?_eq_none]

end

/-- The first name is known, the second is not, and the third is not looked at. -/
example :
    let typed := Json.obj [("dataType", .str "DATE"), ("type", .str "string")]
    expandShared .builtin (.obj [("title", .str "T"), ("properties",
      .obj [("a", .str "DATE"), ("b", .str "MISSING"), ("c", .str "DATE")])]) =
      (some ⟨"MISSING", "b"⟩, .obj [("title", .str "T"), ("properties",
        .obj [("a", typed), ("b", .str "MISSING"), ("c", .str "DATE")])]) := by
  decide

end EntitySchema
