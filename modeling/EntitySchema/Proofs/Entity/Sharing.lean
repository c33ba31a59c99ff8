import EntitySchema.Proofs.Entity.Compilation
import EntitySchema.Proofs.Entity.Expansion
import EntitySchema.Proofs.Entity.Stability
import EntitySchema.Proofs.Property.Faults
import EntitySchema.Proofs.Settings
import EntitySchema.Proofs.Settings.Source

/-!
# Shared schemas in use

A property that is written as the name of a shared schema is compiled from that schema: the schema
is written into the Json of the entity and read back from there, which changes nothing, since
schemas that come with settings are stable. So its storage type is the one that was found when the
settings were checked (`shared_schema_is_usable`).

The check of the settings evaluates the storage type of a schema only. A default of it that is an
expression is not evaluated before a property is compiled, and may then have no storage type
(`shared_default_is_not_checked`).
-/

namespace EntitySchema

/-! ## Reading properties -/

namespace Entity

variable {v : Json} {ms : Members}

theorem Parts.properties_of_add {p q : Parts} {m : String × Json} (hk : m.1 ≠ "properties")
    (h : p.add m = .ok q) : q.properties = p.properties := by
  rcases Parts.add_eq_ok h with ⟨-, h | ⟨hk', -⟩⟩ | ⟨-, -, h⟩
  · exact h
  · exact absurd hk' hk
  · exact h

theorem Parts.add_properties_eq_ok {p q : Parts} (h : p.add ("properties", v) = .ok q) :
    ∃ ps, v = .obj ps ∧ decodeProperties ps = .ok q.properties := by
  obtain ⟨ps, hps, h⟩ := bind_eq_ok.1 (show (do
    let ps ← Decode.map v
    return { p with properties := ← decodeProperties ps } : Except DecodeError Parts) = _ from h)
  obtain ⟨read, hread, h⟩ := bind_eq_ok.1 h
  cases h
  cases v with
  | obj ms =>
    cases hps
    exact ⟨_, rfl, hread⟩
  | _ => cases hps

theorem Parts.properties_of_foldlM {p q : Parts} (hn : (Members.keys ms).Nodup)
    (h : ms.foldlM Parts.add p = .ok q) (hv : Members.get? ms "properties" = some v) :
    ∃ ps, v = .obj ps ∧ decodeProperties ps = .ok q.properties := by
  induction ms generalizing p with
  | nil => cases hv
  | cons m rest ih =>
    obtain ⟨k, w⟩ := m
    obtain ⟨hk, hrest⟩ := List.nodup_cons.1 hn
    obtain ⟨p', hp', further⟩ := bind_eq_ok.1 (List.foldlM_cons.symm.trans h)
    rw [Members.get?_cons] at hv
    split at hv
    · next hkey =>
      subst hkey
      cases hv
      -- No later member is read as the properties.
      have kept : q.properties = p'.properties :=
        foldlM_induction (P := fun s => s.properties = p'.properties) (fun m hm s t hs hadd => by
          have other : m.1 ≠ "properties" := by
            intro heq
            have listed : m.1 ∈ Members.keys rest := Members.mem_keys_of_mem hm
            rw [heq] at listed
            exact hk listed
          exact (Parts.properties_of_add other hadd).trans hs) rfl further
      rw [kept]
      exact Parts.add_properties_eq_ok hp'
    · exact ih hrest further hv

/-- Whatever stands for a property is read as the fragment of that property. -/
theorem exists_property_of_decode {e : Entity} {name : String} {x : Json} (hv : v.Settled)
    (h : Entity.decode v = .ok e) (hx : property? v name = some x) :
    ∃ f, Members.get? e.properties name = some f ∧ Fragment.decode x = .ok f := by
  obtain ⟨ms, p, rfl, hp, hproperties, -⟩ := decode_eq_ok h
  obtain ⟨distinct, settled⟩ := Json.settled_obj.1 hv
  obtain ⟨object, hobject, hx⟩ := Option.bind_eq_some_iff.1 hx
  obtain ⟨ps, rfl, hread⟩ := Parts.properties_of_foldlM distinct hp hobject
  obtain ⟨inner, -⟩ := Json.settled_obj.1 (settled _ (Members.mem_of_get? hobject))
  obtain ⟨keys, found⟩ := Members.get?_of_mapM hread
  obtain ⟨f, hf, hdecode⟩ := found name x hx
  rw [hproperties, Members.ofList_of_nodup (keys ▸ inner)]
  exact ⟨f, hf, hdecode⟩

end Entity

/-! ## Catalogs of settings -/

/-- A name of the standard catalog stays one, whatever is registered beside it or in its place. -/
theorem Settings.exists_class_of_standard (s : Settings) {name : String}
    (h : name ∈ Catalog.standard.names) :
    ∃ cls, Members.get? s.catalog.entries name = some cls := by
  refine Members.exists_get?_of_mem_keys ?_
  have keep (types : List (String × TypeClass)) : ∀ c : Catalog, name ∈ c.names →
      name ∈ (types.foldl (fun c t => c.register t.1 t.2) c).names := by
    induction types with
    | nil => exact fun _ => id
    | cons t rest ih => exact fun c hc => ih _ (Members.mem_keys_insert.2 (.inr hc))
  exact keep s.customTypes _ h

/-! ## Putting schemas in -/

section
variable {shared : SharedSchemas} {ms ns : Members} {w w' : Json} {name p : String} {f : Fragment}

/-- A name of a shared schema is replaced by the schema. -/
def expandValue (shared : SharedSchemas) : Json → Json
  | .str name => match Members.get? shared name with
    | some f => f.encode
    | none => .str name
  | v => v

theorem Replaced.eq_expandValue (h : Replaced shared w w') : w' = expandValue shared w := by
  cases h with
  | name known => simp only [expandValue, known]
  | value other =>
    cases w with
    | str name => cases other
    | _ => rfl

theorem expandMembers_eq_none (h : expandMembers shared ms = (none, ns)) :
    ns = ms.map fun m => (m.1, expandValue shared m.2) := by
  have run : Expanded shared ms none ns := by
    have run := expanded_expandMembers shared ms
    rwa [h] at run
  cases run with
  | all replaced =>
    clear h
    induction replaced with
    | nil => rfl
    | cons hm _ ih => rw [List.map_cons, hm.1, ← hm.2.eq_expandValue, ← ih]

theorem settled_expandValue (hs : ∀ f ∈ shared, f.2.Stable) (hw : w.Settled) :
    (expandValue shared w).Settled := by
  cases w with
  | str name =>
    rw [expandValue]
    split
    · next f hf => exact (hs _ (Members.mem_of_get? hf)).1
    · exact hw
  | _ => exact hw

/-- The Json of an entity after its properties have been replaced. -/
theorem property?_of_expandShared (hs : ∀ f ∈ shared, f.2.Stable) (hw : w.Settled)
    (h : expandShared shared w = (none, w')) (hp : Entity.property? w p = some (.str name))
    (hf : Members.get? shared name = some f) :
    w'.Settled ∧ Entity.property? w' p = some f.encode := by
  obtain ⟨object, hobject, hp⟩ := Option.bind_eq_some_iff.1 hp
  obtain ⟨ms, rfl, hms⟩ : ∃ ms, w = .obj ms ∧ Members.get? ms "properties" = some object := by
    cases w with
    | obj ms => exact ⟨ms, rfl, hobject⟩
    | _ => cases hobject
  obtain ⟨ps, rfl, hps⟩ : ∃ ps, object = .obj ps ∧ Members.get? ps p = some (.str name) := by
    cases object with
    | obj ps => exact ⟨ps, rfl, hp⟩
    | _ => cases hp
  obtain ⟨distinct, settled⟩ := Json.settled_obj.1 hw
  obtain ⟨inner, values⟩ := Json.settled_obj.1 (settled _ (Members.mem_of_get? hms))
  cases hexpand : expandMembers shared ps with
  | mk failure ns =>
    simp only [expandShared, hms, hexpand, Prod.mk.injEq] at h
    obtain ⟨rfl, rfl⟩ := h
    obtain rfl := expandMembers_eq_none hexpand
    constructor
    · refine Json.settled_obj.2 ⟨Members.nodup_keys_insert distinct, fun m hm => ?_⟩
      rcases Members.mem_of_mem_insert hm with rfl | hm
      · refine Json.settled_obj.2 ⟨by rwa [Members.keys_map], fun n hn => ?_⟩
        obtain ⟨n, hmem, rfl⟩ := List.mem_map.1 hn
        exact settled_expandValue hs (values n hmem)
      · exact settled m hm
    · rw [Entity.property?, show (Json.obj (Members.insert ms "properties" _)).get? "properties" =
        some _ from Members.get?_insert_self]
      show Members.get? (ps.map fun m => (m.1, expandValue shared m.2)) p = some f.encode
      rw [Members.get?_map, hps]
      simp only [Option.map_some, expandValue, hf]

end

/-! ## Using them -/

/-- The storage type of every shared schema is known: those that come with the settings have been
checked, and a date cannot be unregistered. -/
theorem Settings.Gives.exists_eval {s : Settings} {json : StorageType} (h : s.Gives json)
    {name : String} {f : Fragment} (hf : Members.get? s.shared name = some f) {r : TypeRef}
    (hr : f.dataType = some r) : ∃ t, r.eval s.catalog = .ok t := by
  rcases Members.mem_of_mem_insertAll (Members.mem_of_get? hf) with hmem | hmem
  · obtain ⟨rfl, rfl⟩ := Prod.mk.inj (List.mem_singleton.1 hmem)
    cases hr
    have date : "DATE" ∈ Catalog.standard.names := by decide
    obtain ⟨cls, hcls⟩ := s.exists_class_of_standard date
    exact ⟨_, TypeRef.eval_name_eq_ok.2 (Catalog.resolve?_of_entry hcls (by decide))⟩
  · exact h.schemas _ hmem r hr

/-- **Shared schemas in use.** Let settings that come from Json give a compiler, and let a shared
schema name a storage type. The name has a storage type in the catalog of the settings, and in every
entity a property that is written as the name of the schema is compiled from it: where it compiles,
its column has that storage type. It fails for want of a storage type just when its directives are
in order and its default is tagged as an expression that has none. -/
theorem shared_schema_is_usable {s : Settings} (source : s.Source) {k : Compiler}
    (hk : Compiler.ofSettings s = .ok k) {name : String} {f : Fragment}
    (hf : Members.get? s.shared name = some f) {r : TypeRef} (hr : f.dataType = some r) :
    ∃ t, r.eval s.catalog = .ok t ∧ ∀ (w w' : Json) (p : String) (e : Entity), w.Settled →
      Entity.property? w p = some (.str name) → expandShared s.shared w = (none, w') →
      Entity.decode w' = .ok e →
      Members.get? e.properties p = some f ∧
      ((∃ error, Property.normalize k.catalog k.json p f (e.isRequired p) = .error error ∧
          error.IsTypeFault) ↔
        Property.checkDirectives f.keywords = .ok () ∧ ¬f.DefaultResolves s.catalog) ∧
      (∀ x, Property.normalize k.catalog k.json p f (e.isRequired p) = .ok x → x.column.type = t) ∧
      ∀ a, k.compile e = .ok a → ∃ column, Members.get? a.columns p = some column ∧
        column.type = t := by
  obtain ⟨hcatalog, gives⟩ := Compiler.ofSettings_eq_ok.1 hk
  obtain ⟨t, ht⟩ := gives.exists_eval hf hr
  refine ⟨t, ht, fun w w' p e hw hp hexpand hdecode => ?_⟩
  have stable (f : String × Fragment) (hf : f ∈ s.shared) := source.stable_shared hf
  obtain ⟨settled, written⟩ := property?_of_expandShared stable hw hexpand hp hf
  obtain ⟨g, hg, hread⟩ := Entity.exists_property_of_decode settled hdecode written
  obtain rfl : f = g := Except.ok.inj ((stable _ (Members.mem_of_get? hf)).2.symm.trans hread)
  have type {required : Bool} {x : Property}
      (h : Property.split k.catalog k.json f required = .ok x) : x.column.type = t := by
    obtain ⟨resolution, hresolution, htype, -⟩ := Property.split_eq_ok h
    rw [hr, hcatalog, resolve, ht] at hresolution
    cases hresolution
    exact htype
  refine ⟨hg, ?_, fun x hx => type (mapError_eq_ok.1 hx), fun a ha => ?_⟩
  · have evaluates : r.eval k.catalog = .ok t := hcatalog ▸ ht
    rw [← hcatalog, ← Property.fault_of_split_iff hr evaluates]
    constructor
    · rintro ⟨error, h, fault⟩
      obtain ⟨inner, hinner, rfl⟩ := mapError_eq_error.1 h
      exact ⟨inner, hinner, fault⟩
    · rintro ⟨error, h, fault⟩
      exact ⟨_, mapError_eq_error.2 ⟨error, h, rfl⟩, fault⟩
  · obtain ⟨x, hx, hcolumn, -⟩ := Compiler.property_of_compile ha hg
    exact ⟨x.column, hcolumn, type hx⟩

/-- Settings with a shared schema that has a default. -/
def Json.sharing (default : Json) : Json := .obj [("extra_schemas", .obj [("X", .obj [
  ("dataType", .str "STRING"), ("type", .str "string"), ("defaultValue", default)])])]

/-- An entity with one property, written as the name of a schema. -/
def Json.sharer : Json := .obj [("title", .str "T"), ("properties", .obj [("p", .str "X")])]

theorem plain_default_is_usable : ∃ s k w e a column,
    Settings.decode (.sharing (.str "a")) = .ok s ∧ Compiler.ofSettings s = .ok k ∧
    expandShared s.shared .sharer = (none, w) ∧
    Entity.decode w = .ok e ∧ k.compile e = .ok a ∧ Members.get? a.columns "p" = some column ∧
    (TypeRef.name "STRING").eval s.catalog = .ok column.type := by
  have run : ((Settings.decode (.sharing (.str "a"))).toOption.bind fun s =>
      (Compiler.ofSettings s).toOption.bind fun k => (Members.get? s.shared "X").bind fun f =>
      (Entity.decode (expandShared s.shared .sharer).2).toOption.bind fun e =>
      (k.compile e).toOption.map fun _ => ((expandShared s.shared .sharer).1,
        f.dataType.map TypeRef.encode)) = some (none, some (.str "STRING")) := by decide +kernel
  obtain ⟨s, hs, run⟩ := Option.bind_eq_some_iff.1 run
  obtain ⟨k, hk, run⟩ := Option.bind_eq_some_iff.1 run
  obtain ⟨f, hf, run⟩ := Option.bind_eq_some_iff.1 run
  obtain ⟨e, he, run⟩ := Option.bind_eq_some_iff.1 run
  obtain ⟨a, ha, run⟩ := Option.map_eq_some_iff.1 run
  obtain ⟨known, hr⟩ := Prod.mk.inj run
  have expanded : expandShared s.shared .sharer = (none, (expandShared s.shared .sharer).2) :=
    Prod.ext known rfl
  have source : s.Source := .value (v := .sharing (.str "a")) rfl (toOption_eq_some.1 hs)
  obtain ⟨r, hr, hname⟩ := Option.map_eq_some_iff.1 hr
  obtain rfl : r = .name "STRING" := by
    cases r with
    | name n => rw [Json.str.inj hname]
    | expr d => rw [TypeRef.encode, Descriptor.encode_eq] at hname; cases hname
  obtain ⟨t, ht, used⟩ := shared_schema_is_usable source (toOption_eq_some.1 hk) hf hr
  obtain ⟨-, -, -, columns⟩ := used .sharer _ "p" e rfl rfl expanded (toOption_eq_some.1 he)
  obtain ⟨column, hcolumn, rfl⟩ := columns a (toOption_eq_some.1 ha)
  exact ⟨s, k, _, e, a, column, toOption_eq_some.1 hs, toOption_eq_some.1 hk, expanded,
    toOption_eq_some.1 he, toOption_eq_some.1 ha, hcolumn, ht⟩

/-- A default that is an expression without a storage type passes the check of the settings. The
property that uses the schema fails. -/
theorem shared_default_is_not_checked : ∃ s k f w e error,
    Settings.decode (.sharing (Descriptor.ofPath "NOPE").encode) = .ok s ∧
    Compiler.ofSettings s = .ok k ∧ Members.get? s.shared "X" = some f ∧
    (f.dataType.map TypeRef.encode) = some (.str "STRING") ∧
    expandShared s.shared .sharer = (none, w) ∧ Entity.decode w = .ok e ∧
    Property.normalize k.catalog k.json "p" f (e.isRequired "p") = .error error ∧
    error.code = "SCHEMA_UNKNOWN_DATA_TYPE" := by
  have run : ((Settings.decode (.sharing (Descriptor.ofPath "NOPE").encode)).toOption.bind fun s =>
      (Compiler.ofSettings s).toOption.bind fun k => (Members.get? s.shared "X").bind fun f =>
      (Entity.decode (expandShared s.shared .sharer).2).toOption.map fun e =>
        ((expandShared s.shared .sharer).1, f.dataType.map TypeRef.encode,
          match Property.normalize k.catalog k.json "p" f (e.isRequired "p") with
          | .ok _ => none
          | .error error => some error.code)) =
      some (none, some (.str "STRING"), some "SCHEMA_UNKNOWN_DATA_TYPE") := by decide +kernel
  obtain ⟨s, hs, run⟩ := Option.bind_eq_some_iff.1 run
  obtain ⟨k, hk, run⟩ := Option.bind_eq_some_iff.1 run
  obtain ⟨f, hf, run⟩ := Option.bind_eq_some_iff.1 run
  obtain ⟨e, he, run⟩ := Option.map_eq_some_iff.1 run
  obtain ⟨known, run⟩ := Prod.mk.inj run
  obtain ⟨type, failed⟩ := Prod.mk.inj run
  refine ⟨s, k, f, (expandShared s.shared .sharer).2, e, ?_⟩
  cases hn : Property.normalize k.catalog k.json "p" f (e.isRequired "p") with
  | ok x =>
    rw [hn] at failed
    cases failed
  | error error =>
    rw [hn] at failed
    exact ⟨error, toOption_eq_some.1 hs, toOption_eq_some.1 hk, hf, type, Prod.ext known rfl,
      toOption_eq_some.1 he, rfl, Option.some.inj failed⟩

/-- Settings with a shared schema whose storage type repeats a key. -/
def Settings.repeatingText : String :=
  "\x7b\"extra_schemas\":\x7b\"X\":\x7b\"dataType\":\x7b\"kind\":\"DataType\",\"path\":\"ARRAY\","
    ++ "\"args\":[\x7b\"dataType\":null,\"dataType\":\"DATE\"\x7d]\x7d\x7d\x7d\x7d"

/-- Where a text repeats a key, what is found when the settings are checked may not be what the
column has. -/
example : ((Settings.parse Settings.repeatingText).toOption.bind fun s =>
    (Compiler.ofSettings s).toOption.bind fun k => (Members.get? s.shared "X").bind fun f =>
    f.dataType.bind fun r => (r.eval s.catalog).toOption.bind fun t =>
    (Entity.decode (expandShared s.shared .sharer).2).toOption.bind fun e =>
    (k.compile e).toOption.bind fun a => (Members.get? a.columns "p").map fun column =>
      (t.text, column.type.text)) =
    some ("ARRAY(\x7b\"dataType\":\"DATE\"\x7d)", "ARRAY(DATE)") := by decide +kernel

end EntitySchema
