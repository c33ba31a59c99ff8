import EntitySchema.Entity.Basic
import EntitySchema.Proofs.TypeExpr.Stability

/-!
# Reading, writing and reading an entity

An entity is read member by member: three keys belong to it, all others are further keys. Written,
the three come first, and read again it is the same entity (`reading_is_stable`), with its
properties and further keys in their order and the expressions in it as they were.
-/

namespace EntitySchema

variable {v : Json}

namespace Entity

/-- An entity that is written as Json from which it is read again. -/
def Stable (e : Entity) : Prop := e.encode.Settled ∧ Entity.decode e.encode = .ok e

/-- The keys that belong to an entity. -/
def ownKeys : List String := ["title", "required", "properties"]

/-! ## Writing -/

/-- The members that an entity is written with. -/
def encodeMembers (e : Entity) : Members :=
  ("title", .str e.title) :: ("required", Json.ofStrings e.required) ::
    ("properties", .obj (e.properties.map fun p => (p.1, p.2.encode))) :: e.rest

theorem encode_eq {e : Entity} (hrest : ∀ k ∈ ownKeys, k ∉ Members.keys e.rest) :
    (Members.keys e.encodeMembers).Nodup ∧ e.encode = .obj e.encodeMembers := by
  have distinct : (Members.keys e.encodeMembers).Nodup := by
    have apart : ∀ k ∈ ownKeys, ∀ j ∈ Members.keys e.rest, k ≠ j := by
      rintro k hk j hj rfl
      exact hrest k hk hj
    exact List.nodup_append.2 ⟨by decide, e.nodup_rest, apart⟩
  exact ⟨distinct, congrArg Json.obj (Members.ofList_of_nodup distinct)⟩

theorem settled_encode {e : Entity} (hrest : ∀ k ∈ ownKeys, k ∉ Members.keys e.rest)
    (hs : ∀ m ∈ e.rest, m.2.Settled) (hp : ∀ p ∈ e.properties, p.2.Stable) :
    e.encode.Settled := by
  obtain ⟨distinct, he⟩ := encode_eq hrest
  rw [he, Json.settled_obj]
  refine ⟨distinct, fun m hm => ?_⟩
  simp only [encodeMembers, List.mem_cons] at hm
  rcases hm with rfl | rfl | rfl | hm
  · rfl
  · refine Json.settled_arr.2 fun x hx => ?_
    obtain ⟨n, -, rfl⟩ := List.mem_map.1 hx
    rfl
  · refine Json.settled_obj.2 ⟨?_, fun m hm => ?_⟩
    · rw [Members.keys_map Fragment.encode]
      exact e.nodup_properties
    · obtain ⟨p, hmem, rfl⟩ := List.mem_map.1 hm
      exact (hp p hmem).1
  · exact hs m hm

/-! ## Reading what was written -/

theorem strings_ofStrings (names : List String) :
    Decode.strings (Json.ofStrings names) = .ok names :=
  mapM_map_eq_ok fun _ _ => rfl

theorem decodeProperties_encode {ps : List (String × Fragment)} (hp : ∀ p ∈ ps, p.2.Stable) :
    decodeProperties (ps.map fun p => (p.1, p.2.encode)) = .ok ps :=
  mapM_map_eq_ok fun p hmem => by rw [(hp p hmem).2]; rfl

namespace Parts

theorem add_title (p : Parts) (title : String) :
    p.add ("title", .str title) = .ok { p with title := some title } := rfl

theorem add_required (p : Parts) (names : List String) :
    p.add ("required", Json.ofStrings names) = .ok { p with required := names } := by
  have read : p.add ("required", Json.ofStrings names) =
      (Decode.strings (Json.ofStrings names) >>= fun r => .ok { p with required := r }) := rfl
  rw [read, strings_ofStrings]
  rfl

theorem add_properties (p : Parts) {ps : List (String × Fragment)} (hp : ∀ q ∈ ps, q.2.Stable) :
    p.add ("properties", .obj (ps.map fun q => (q.1, q.2.encode))) =
      .ok { p with properties := ps } := by
  have read : p.add ("properties", .obj (ps.map fun q => (q.1, q.2.encode))) =
      (decodeProperties (ps.map fun q => (q.1, q.2.encode)) >>= fun r =>
        .ok { p with properties := r }) := rfl
  rw [read, decodeProperties_encode hp]
  rfl

theorem foldlM_add_rest (p : Parts) (ms : Members) (h : ∀ m ∈ ms, m.1 ∉ ownKeys) :
    ms.foldlM add p = .ok { p with rest := p.rest ++ ms } := by
  have collect := foldlM_collect (f := add) (l := ms)
    (fun ns => { p with rest := p.rest ++ ns }) fun done m rest hms => by
      have hm := h m (by simp [← hms])
      simp only [ownKeys, List.mem_cons, List.not_mem_nil, or_false, not_or] at hm
      rw [add, if_neg hm.1, if_neg hm.2.1, if_neg hm.2.2, List.append_assoc]
  rwa [List.append_nil] at collect

end Parts

theorem decode_encode {e : Entity} (hrest : ∀ k ∈ ownKeys, k ∉ Members.keys e.rest)
    (hp : ∀ p ∈ e.properties, p.2.Stable) : Entity.decode e.encode = .ok e := by
  obtain ⟨title, required, properties, rest, hproperties, hnodup⟩ := e
  have further : ∀ m ∈ rest, m.1 ∉ ownKeys := fun m hm hk =>
    hrest m.1 hk (Members.mem_keys_of_mem hm)
  have parts : (encodeMembers ⟨title, required, properties, rest, hproperties, hnodup⟩).foldlM
      Parts.add {} = .ok
        { title := some title, required := required, properties := properties, rest := rest } := by
    simp only [encodeMembers, List.foldlM_cons, Parts.add_title, Parts.add_required,
      Parts.add_properties _ hp, bind, Except.bind]
    exact Parts.foldlM_add_rest _ rest further
  rw [(encode_eq hrest).2]
  show (List.foldlM Parts.add {} _ >>= Parts.finish) = _
  rw [parts]
  simp only [bind, Except.bind, Parts.finish, Members.ofList_of_nodup hproperties,
    Members.ofList_of_nodup hnodup]

theorem stable {e : Entity} (hrest : ∀ k ∈ ownKeys, k ∉ Members.keys e.rest)
    (hs : ∀ m ∈ e.rest, m.2.Settled) (hp : ∀ p ∈ e.properties, p.2.Stable) : e.Stable :=
  ⟨settled_encode hrest hs hp, decode_encode hrest hp⟩

/-! ## What was read -/

/-- What reading a member does to the properties and the further keys. -/
theorem Parts.add_eq_ok {p q : Parts} {m : String × Json} (h : p.add m = .ok q) :
    (q.rest = p.rest ∧ (q.properties = p.properties ∨
      m.1 = "properties" ∧ ∃ ms, m.2 = .obj ms ∧ decodeProperties ms = .ok q.properties)) ∨
    (m.1 ∉ ownKeys ∧ q.rest = p.rest ++ [m] ∧ q.properties = p.properties) := by
  unfold Parts.add at h
  split at h
  · obtain ⟨title, -, h⟩ := bind_eq_ok.1 h
    cases h
    exact .inl ⟨rfl, .inl rfl⟩
  · split at h
    · obtain ⟨required, -, h⟩ := bind_eq_ok.1 h
      cases h
      exact .inl ⟨rfl, .inl rfl⟩
    · split at h
      · next hk =>
        obtain ⟨ms, hms, h⟩ := bind_eq_ok.1 h
        obtain ⟨ps, hps, h⟩ := bind_eq_ok.1 h
        cases h
        cases hv : m.2 <;> rw [hv] at hms <;> cases hms
        exact .inl ⟨rfl, .inr ⟨hk, _, rfl, hps⟩⟩
      · next h₁ h₂ h₃ =>
        cases h
        exact .inr ⟨by simp [ownKeys, h₁, h₂, h₃], rfl, rfl⟩

/-- What holds of the parts of an entity while it is read. -/
structure Parts.Sound (p : Parts) : Prop where
  properties : ∀ q ∈ p.properties, q.2.Stable
  keys : ∀ k ∈ ownKeys, k ∉ Members.keys p.rest
  settled : ∀ m ∈ p.rest, m.2.Settled

theorem Parts.Sound.add {p q : Parts} {m : String × Json} (hp : p.Sound) (hm : m.2.Settled)
    (h : p.add m = .ok q) : q.Sound := by
  rcases Parts.add_eq_ok h with ⟨hrest, hsame | ⟨-, ms, hms, hps⟩⟩ | ⟨hk, hrest, hsame⟩
  · exact ⟨hsame ▸ hp.properties, hrest ▸ hp.keys, hrest ▸ hp.settled⟩
  · refine ⟨fun r hr => ?_, hrest ▸ hp.keys, hrest ▸ hp.settled⟩
    obtain ⟨n, hn, -, hread⟩ := Members.mem_of_mapM hps hr
    exact Fragment.stable_of_settled ((Json.settled_obj.1 (hms ▸ hm)).2 n hn) hread
  · refine ⟨hsame ▸ hp.properties, fun k hown hmem => ?_, fun n hn => ?_⟩
    · rw [hrest, Members.keys, List.map_append, List.mem_append] at hmem
      rcases hmem with hmem | hmem
      · exact hp.keys k hown hmem
      · exact hk (List.mem_singleton.1 hmem ▸ hown)
    · rcases List.mem_append.1 (hrest ▸ hn) with hn | hn
      · exact hp.settled n hn
      · exact List.mem_singleton.1 hn ▸ hm

theorem decode_eq_ok {e : Entity} (h : Entity.decode v = .ok e) :
    ∃ ms p, v = .obj ms ∧ ms.foldlM Parts.add {} = .ok p ∧
      e.properties = Members.ofList p.properties ∧ e.rest = Members.ofList p.rest := by
  cases v with
  | obj ms =>
    obtain ⟨p, hp, h⟩ := bind_eq_ok.1 h
    unfold Parts.finish at h
    split at h
    · cases h
    · cases h
      exact ⟨ms, p, rfl, hp, rfl, rfl⟩
  | _ => cases h

theorem stable_of_decode {e : Entity} (hv : v.Settled) (h : Entity.decode v = .ok e) :
    e.Stable := by
  obtain ⟨ms, p, rfl, hp, hproperties, hrest⟩ := decode_eq_ok h
  have sound : p.Sound := foldlM_induction
    (fun m hm s t hs hadd => hs.add ((Json.settled_obj.1 hv).2 m hm) hadd)
    ⟨fun q hq => (List.not_mem_nil hq).elim, fun k _ hk => List.not_mem_nil hk,
      fun m hm => (List.not_mem_nil hm).elim⟩ hp
  refine stable (fun k hk hmem => ?_) (fun m hm => ?_) fun q hq => ?_
  · rw [hrest] at hmem
    obtain ⟨m, hm, rfl⟩ := List.mem_map.1 hmem
    exact sound.keys _ hk (Members.mem_keys_of_mem (Members.mem_of_mem_ofList hm))
  · exact sound.settled m (Members.mem_of_mem_ofList (hrest ▸ hm))
  · exact sound.properties q (Members.mem_of_mem_ofList (hproperties ▸ hq))

/-! ## Where a property is read from -/

/-- What stands for a property in the Json of an entity. -/
def property? (v : Json) (name : String) : Option Json :=
  (v.get? "properties").bind (·.get? name)

/-- Every property has been read from what stands for it. -/
def Parts.ReadFrom (v : Json) (p : Parts) : Prop :=
  ∀ q ∈ p.properties, ∃ x, property? v q.1 = some x ∧ Fragment.decode x = .ok q.2

theorem Parts.ReadFrom.add {ms : Members} {p q : Parts} {m : String × Json}
    (hs : (Json.obj ms).Settled) (hm : m ∈ ms) (hp : p.ReadFrom (.obj ms)) (h : p.add m = .ok q) :
    q.ReadFrom (.obj ms) := by
  rcases Parts.add_eq_ok h with ⟨-, hsame | ⟨hk, ps, hps, hread⟩⟩ | ⟨-, -, hsame⟩
  · unfold Parts.ReadFrom
    rwa [hsame]
  · intro r hr
    obtain ⟨n, hn, hname, hdecode⟩ := Members.mem_of_mapM hread hr
    obtain ⟨distinct, settled⟩ := Json.settled_obj.1 hs
    have object : (Json.obj ms).get? "properties" = some (.obj ps) :=
      Members.get?_of_mem distinct (by rwa [← hk, ← hps])
    have named : (Json.obj ps).get? n.1 = some n.2 :=
      Members.get?_of_mem (Json.settled_obj.1 (hps ▸ settled m hm)).1 hn
    exact ⟨n.2, by rw [property?, object, ← hname]; exact named, hdecode⟩
  · unfold Parts.ReadFrom
    rwa [hsame]

/-- A property is read from what stands under its name. -/
theorem property_of_decode {e : Entity} {name : String} {f : Fragment} (hv : v.Settled)
    (h : Entity.decode v = .ok e) (hf : Members.get? e.properties name = some f) :
    ∃ x, property? v name = some x ∧ Fragment.decode x = .ok f := by
  obtain ⟨ms, p, rfl, hp, hproperties, -⟩ := decode_eq_ok h
  have source : p.ReadFrom (.obj ms) :=
    foldlM_induction (fun m hm _ _ hs hadd => hs.add hv hm hadd)
      (fun q hq => (List.not_mem_nil hq).elim) hp
  have hmem := Members.mem_of_get? hf
  rw [hproperties] at hmem
  exact source _ (Members.mem_of_mem_ofList hmem)

end Entity

/-- **The form that is written is stable.** Whatever is read from a value in which no object repeats
a key is the same after it has been written and read again, be it read as an entity, a fragment, a
reference or an argument. -/
theorem reading_is_stable (hv : v.Settled) :
    (∀ e, Entity.decode v = .ok e → e.Stable) ∧
    (∀ f, Fragment.decode v = .ok f → f.Stable) ∧
    (∀ r, TypeRef.decode v = .ok r → r.Stable) ∧
    (decodeArgument v).Stable :=
  ⟨fun _ => Entity.stable_of_decode hv, fun _ => Fragment.stable_of_settled hv,
    fun _ => TypeRef.stable_of_settled hv, decodeArgument_stable v hv⟩

/-- An entity whose storage type has an expression, a fragment without a storage type and a literal
that is neither, among members that are dropped or moved. -/
def Json.nestedEntity : Json := .obj [
  ("tableName", .str "t"),
  ("properties", .obj [("p", .obj [
    ("type", .str "array"),
    ("dataType", .obj [
      ("args", .arr [
        .obj [("UNSIGNED", .bool true), ("path", .str "INTEGER"), ("kind", .str "DataType")],
        .obj [("kind", .str "DataType"), ("dataType", .null)],
        .obj [("dataType", .num (.int 5))]]),
      ("note", .null),
      ("path", .str "ARRAY"),
      ("kind", .str "DataType")])])]),
  ("title", .str "T")]

theorem nested_entity_is_stable :
    ∃ e, Entity.decode Json.nestedEntity = .ok e ∧ e.encode ≠ Json.nestedEntity ∧ e.Stable := by
  have run : (Entity.decode Json.nestedEntity).toOption.map
      (fun e => decide (e.encode = Json.nestedEntity)) = some false := by decide +kernel
  obtain ⟨e, he, changed⟩ := Option.map_eq_some_iff.1 run
  have settled : Json.nestedEntity.Settled := by decide +kernel
  exact ⟨e, toOption_eq_some.1 he, of_decide_eq_false changed,
    (reading_is_stable settled).1 e (toOption_eq_some.1 he)⟩

/-- A repeated key may be what keeps a value from being a fragment, and the literal it is read as
does not repeat the key. -/
example : ¬(decodeArgument (.obj [("dataType", .null), ("dataType", .str "DATE")])).Stable := by
  rintro ⟨-, h⟩
  cases h

end EntitySchema
