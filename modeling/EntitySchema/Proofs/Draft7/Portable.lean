import EntitySchema.Proofs.Draft7.Meta
import EntitySchema.Proofs.Draft7.Reading
import EntitySchema.Proofs.Outcome

/-!
# Schemas cut out of a document

The schema of a property can be cut out of the document it stands in and compiled alone, or put into
a closed object of its own. A reference would then lead elsewhere or nowhere. A schema without
references is portable: it compiles wherever it stands (`portable_property`, `portable_closed`), and
it says the same there (`told_failures_of_noReferences`).

A closed object that lists all names of a record and requires no others says of the record what the
schemas of its fields say of the fields, one field after the other (`check_closed`, `told_closed`).
It compiles exactly when each of these schemas compiles alone (`compile_closed_isOk_iff`).
-/

namespace EntitySchema.Draft7

open Reference (Base Spot Index)

/-! ## Compiling -/

theorem compile_eq_ok {root : Json} {d : Compiled} : Compiled.compile root = .ok d ↔
    Reference.flawIn? root = none ∧ Meta.IsSchema root ∧
      planOf root (Reference.top root) = .ok d.plan ∧ d.root = root := by
  unfold Compiled.compile Meta.IsSchema
  cases Reference.flawIn? root with
  | some b => simp
  | none =>
    cases complaints root with
    | cons c cs => simp
    | nil =>
      cases planOf root (Reference.top root) with
      | error r => simp
      | ok plan =>
        obtain ⟨own, read⟩ := d
        simp [and_comm, eq_comm]

/-- A schema is read by its nodes, whatever the bound is. -/
theorem scan_eq (g : Index) (n : Nat) : ∃ follow, ∀ (x : Spot) place,
    scan g n x place = view readNode ⟨x.base, follow⟩ x.schema place := by
  cases n with
  | zero => exact ⟨_, fun _ _ => rfl⟩
  | succ n => exact ⟨_, fun _ _ => rfl⟩

theorem compile_isOk_iff {root : Json} : (∃ d, Compiled.compile root = .ok d) ↔
    Reference.flawIn? root = none ∧ Meta.IsSchema root ∧
      ∃ plan, planOf root (Reference.top root) = .ok plan := by
  constructor
  · rintro ⟨d, hd⟩
    obtain ⟨flawless, schema, plan, -⟩ := compile_eq_ok.1 hd
    exact ⟨flawless, schema, d.plan, plan⟩
  · rintro ⟨flawless, schema, plan, hplan⟩
    exact ⟨⟨root, plan⟩, compile_eq_ok.2 ⟨flawless, schema, hplan, rfl⟩⟩

/-- A document has no flaw when no schema in it has one. -/
theorem flawIn?_eq_none_iff {root : Json} : Reference.flawIn? root = none ↔
    ∀ x, Contains (Reference.top root) x → Reference.flaw? (.of root) x = none := by
  have none_iff : Reference.flawIn? root = none ↔
      (Reference.spots root).filterMap (Reference.flaw? (.of root)) = [] := by
    simp only [Reference.flawIn?, Option.or_eq_none_iff, List.head?_eq_none_iff]
    refine and_iff_right_of_imp fun h => ?_
    rw [h]
    rfl
  rw [none_iff, List.filterMap_eq_nil_iff]
  exact forall_congr' fun x => by rw [mem_spots_iff]

/-- In a document without a flaw all identifiers name a resource. -/
theorem addressed_of_flawIn? {root : Json} (h : Reference.flawIn? root = none) :
    Addressed (Reference.top root) := by
  intro x hx
  have flawless := flawIn?_eq_none_iff.1 h x hx
  unfold Reference.flaw? at flawless
  cases hb : x.base with
  | ok r => exact ⟨r, rfl⟩
  | error b =>
    rw [hb] at flawless
    cases flawless

/-- A document without references has no flaw when all identifiers in it name a resource. -/
theorem flawIn?_eq_none {root : Json} (h : Addressed (Reference.top root))
    (hr : NoReferences root) : Reference.flawIn? root = none := by
  refine flawIn?_eq_none_iff.2 fun x hx => ?_
  obtain ⟨r, hb⟩ := h x hx
  have unheld : Reference.held? x.schema = none :=
    Option.eq_none_iff_forall_ne_some.2 fun r held => hr r (hx.mentions held)
  rw [Reference.flaw?, hb, unheld]

/-- A schema that means the same wherever it stands: it has no references, and some document that
it stands in names what it names and was read. -/
structure Portable (schema : Json) : Prop where
  noReferences : NoReferences schema
  isSchema : Meta.IsSchema schema
  addressed : ∃ base, Addressed (.at base schema)
  readable : ∃ g p, (readWithin g schema p).MayPass

namespace Portable

variable {schema : Json}

/-- A portable schema can be read in a document without a name. -/
theorem passes (h : Portable schema) {g : Guide Scan} (hg : g.base = .ok Reference.unnamed)
    (p : Pointer) : (readWithin g schema p).Passes := by
  obtain ⟨g', q, hq⟩ := h.readable
  have beside : Beside g'.base g.base := hg ▸ beside_unnamed g'.base
  exact reading_follows h.noReferences (beside.enter schema) g'.follow g.follow q p hq

theorem addressed_unnamed (h : Portable schema) : Addressed (.at (.ok Reference.unnamed) schema) :=
  let ⟨base, hbase⟩ := h.addressed
  hbase.beside ((beside_unnamed base).enter schema)

/-- A portable schema compiles alone. -/
theorem compiles (h : Portable schema) : ∃ d, Compiled.compile schema = .ok d := by
  obtain ⟨follow, hscan⟩ := scan_eq (.of schema) (reach schema)
  obtain ⟨r, hr⟩ := h.passes (g := ⟨.ok Reference.unnamed, follow⟩) rfl [] {}
  refine ⟨⟨schema, r.plan⟩, compile_eq_ok.2
    ⟨flawIn?_eq_none h.addressed_unnamed h.noReferences, h.isSchema, ?_, rfl⟩⟩
  have read : (scan (.of schema) (reach schema) (Reference.top schema) []).run {} = .ok ((), r) := by
    rw [hscan]
    exact hr
  rw [planOf, read]
  rfl

end Portable

/-- What is compiled has been read. -/
theorem mayPass_of_compile {root : Json} {d : Compiled} (hd : Compiled.compile root = .ok d) :
    ∃ follow, (readWithin ⟨.ok Reference.unnamed, follow⟩ root []).MayPass := by
  obtain ⟨-, -, hplan, -⟩ := compile_eq_ok.1 hd
  obtain ⟨⟨_, r⟩, hread, -⟩ := bind_eq_ok.1 hplan
  obtain ⟨follow, hscan⟩ := scan_eq (.of root) (reach root)
  rw [hscan] at hread
  exact ⟨follow, {}, r, hread⟩

/-- A schema without references that compiles alone is portable. -/
theorem portable_of_compile {schema : Json} {d : Compiled} (hd : Compiled.compile schema = .ok d)
    (hr : NoReferences schema) : Portable schema where
  noReferences := hr
  isSchema := (compile_eq_ok.1 hd).2.1
  addressed := ⟨_, addressed_of_flawIn? (compile_eq_ok.1 hd).1⟩
  readable :=
    let ⟨_, read⟩ := mayPass_of_compile hd
    ⟨_, _, read⟩

/-! ## Properties -/

section
variable {ms schemas : Members} {g : Guide Scan} {p : Pointer}

/-- A closed object is read only if its properties are. -/
theorem property_mayPass (ho : ClosedObject ms schemas)
    (h : (view readNode g (.obj ms) p).MayPass) {m : String × Json} (hm : m ∈ schemas) :
    ∃ q, (readWithin g m.2 q).MayPass := by
  have others : (scanOthers (Parts.of readNode g ms) (Part.of readNode g (.bool false))
      p).MayPass :=
    (mayPass_obj ho.held h).2 _ (Members.mem_of_get? ho.closed)
  have listed : (scanListed (Parts.of readNode g ms) p).MayPass := by
    rw [scanOthers_eq] at others
    cases hq : (Parts.of readNode g ms).get? "patternProperties" with
    | none =>
      rw [hq] at others
      exact others
    | some patterns =>
      rw [hq] at others
      exact (Scan.mayPass_bind others).2
  have named : (scanNamed (Parts.of readNode g ms) "properties" p).MayPass := by
    unfold scanListed at listed
    rw [Parts.get?_of, ho.listed] at listed
    exact listed
  rw [scanNamed, Parts.named_of, ho.objectAt] at named
  exact ⟨_, Scan.mayPass_forM named _ (List.mem_map_of_mem hm)⟩

theorem checkValue_required (names : List String) :
    Refusal.checkValue "required" (Json.ofStrings names) = .ok () := by
  show Refusal.ofStrings (names.map .str) = .ok ()
  induction names with
  | nil => rfl
  | cons n ns ih => exact ih

/-- A closed object is read as soon as its properties are. -/
theorem passes_closed {r : Uri.Resource} (hb : g.base = .ok r) (p : Pointer) (names : List String)
    (h : ∀ m ∈ schemas, ∀ q, (readWithin g m.2 q).Passes) :
    (view readNode g (Document.closed names schemas) p).Passes := by
  have named : (scanNamed (Parts.of readNode g [("type", .str "object"),
      ("additionalProperties", .bool false), ("required", Json.ofStrings names),
      ("properties", .obj schemas)]) "properties" p).Passes := by
    rw [scanNamed, Parts.named_of]
    refine Scan.passes_forM fun x hx => ?_
    obtain ⟨m, hm, rfl⟩ := List.mem_map.1 hx
    exact h m hm _
  refine passes_obj rfl hb (fun _ hv => by cases hv) ?_
  simp only [List.forall_mem_cons, List.not_mem_nil, false_implies, implies_true, and_true]
  refine ⟨Scan.passes_lift rfl, ?_, Scan.passes_lift (checkValue_required names), fun r => ⟨r, rfl⟩⟩
  exact named

/-- An object is a schema only if the properties it lists are. -/
theorem isSchema_of_listed (hs : Meta.IsSchema (.obj ms))
    (hl : Members.get? ms "properties" = some (.obj schemas)) {m : String × Json}
    (hm : m ∈ schemas) : Meta.IsSchema m.2 :=
  Meta.isSchema_properties_iff.1 (Meta.isSchema_obj_iff.1 hs _ _ hl) m hm

/-- A document is a schema only if its properties are. -/
theorem isSchema_property {d : Compiled} (hd : Compiled.compile (.obj ms) = .ok d)
    (hl : Members.get? ms "properties" = some (.obj schemas)) {k : String} {s : Json}
    (hm : (k, s) ∈ schemas) : Meta.IsSchema s := by
  obtain ⟨-, hs, -⟩ := compile_eq_ok.1 hd
  exact isSchema_of_listed (m := (k, s)) hs hl hm

/-- The schema of a property is portable, if it has no references. -/
theorem portable_property {d : Compiled} (hd : Compiled.compile (.obj ms) = .ok d)
    (ho : ClosedObject ms schemas) {m : String × Json} (hm : m ∈ schemas)
    (hr : NoReferences m.2) : Portable m.2 where
  noReferences := hr
  isSchema := isSchema_property hd ho.listed hm
  addressed := by
    have listed : m ∈ objectAt ms "properties" := ho.objectAt.symm ▸ hm
    have inside : .at _ m.2 ∈ (Reference.top (.obj ms)).inside :=
      mem_inside.2 ⟨m.2, mem_subschemas_of_objectAt (.inl rfl) listed, rfl⟩
    exact ⟨_, (addressed_of_flawIn? (compile_eq_ok.1 hd).1).inside inside⟩
  readable := by
    obtain ⟨follow, read⟩ := mayPass_of_compile hd
    obtain ⟨q, hq⟩ := property_mayPass ho read hm
    exact ⟨_, q, hq⟩

/-- The schemas in a closed object are those of its properties, and the one of no other property. -/
theorem mem_subschemas_closed {names : List String} {s : Json} :
    s ∈ Reference.subschemas (Document.closed names schemas) ↔
      s = .bool false ∨ ∃ m ∈ schemas, m.2 = s := by
  have subschemas : Reference.subschemas (Document.closed names schemas) =
      .bool false :: (schemas.map Prod.snd ++ []) := rfl
  rw [subschemas, List.append_nil, List.mem_cons, List.mem_map]

theorem noReferences_closed {names : List String} (h : ∀ m ∈ schemas, NoReferences m.2) :
    NoReferences (Document.closed names schemas) := by
  refine noReferences_iff.2 ⟨rfl, fun s hs => ?_⟩
  rcases mem_subschemas_closed.1 hs with rfl | ⟨m, hm, rfl⟩
  · exact noReferences_of_allHeld rfl
  · exact h m hm

/-- A closed object of portable properties is portable. -/
theorem portable_closed {names : List String} (hn : names.Nodup)
    (h : ∀ m ∈ schemas, Portable m.2) : Portable (Document.closed names schemas) where
  noReferences := noReferences_closed fun m hm => (h m hm).noReferences
  isSchema := Meta.isSchema_closed hn fun m hm => (h m hm).isSchema
  addressed := by
    refine ⟨.ok Reference.unnamed, fun y hy => ?_⟩
    cases hy with
    | self => exact ⟨_, rfl⟩
    | inside hin hy =>
      obtain ⟨s, hs, rfl⟩ := mem_inside.1 hin
      rcases mem_subschemas_closed.1 hs with rfl | ⟨m, hm, rfl⟩
      · cases hy with
        | self => exact ⟨_, rfl⟩
        | inside hin _ => cases hin
      · exact (h m hm).addressed_unnamed y hy
  readable := by
    refine ⟨⟨.ok Reference.unnamed, fun _ _ _ => pure ()⟩, [], ?_⟩
    exact (passes_closed rfl [] names fun m hm q => (h m hm).passes rfl q).mayPass

end

/-! ## Closed objects -/

section
variable {names : List String} {schemas ns : Members} {g : String → Json} {f : Guide Verdict}
  {p : Pointer}

theorem closedObject_closed (names : List String) (schemas : Members) : ClosedObject
    [("type", .str "object"), ("additionalProperties", .bool false),
      ("required", Json.ofStrings names), ("properties", .obj schemas)] schemas where
  held := rfl
  nodup := by simp [Members.keys]
  closed := rfl
  listed := rfl

/-- A closed object of schemas without references compiles just when all of these do. -/
theorem compile_closed_isOk_iff (hn : names.Nodup) (hr : ∀ m ∈ schemas, NoReferences m.2) :
    (∃ d, Compiled.compile (Document.closed names schemas) = .ok d) ↔
      ∀ m ∈ schemas, ∃ d, Compiled.compile m.2 = .ok d := by
  constructor
  · rintro ⟨d, hd⟩ m hm
    exact (portable_property hd (closedObject_closed names schemas) hm (hr m hm)).compiles
  · intro h
    have portable : Portable (Document.closed names schemas) := portable_closed hn fun m hm =>
      let ⟨_, hd⟩ := h m hm
      portable_of_compile hd (hr m hm)
    exact portable.compiles

/-- A closed object is checked field by field, where it lists all fields and misses none. -/
theorem check_closed (listed : ∀ n ∈ ns, Members.get? schemas n.1 = some (g n.1))
    (present : ∀ name ∈ names, name ∈ Members.keys ns) :
    check f (Document.closed names schemas) p (.obj ns) = ns.flatMap fun n =>
      memberFailures (within f (g n.1) (p ++ [Step.key "properties", .key n.1])) n.1 n.2 := by
  have ho := closedObject_closed names schemas
  have noStrangers : strangers [("type", .str "object"), ("additionalProperties", .bool false),
      ("required", Json.ofStrings names), ("properties", .obj schemas)] ns = [] := by
    refine List.eq_nil_iff_forall_not_mem.2 fun n hn => ?_
    obtain ⟨hmem, hno, -⟩ := mem_strangers.1 hn
    exact hno (ho.objectAt ▸ Members.mem_keys_of_get? (listed n hmem))
  rw [Document.closed, check_obj rfl]
  show List.flatMap (memberCheck f _ · p (.obj ns)) _ = _
  simp only [List.flatMap_cons, List.flatMap_nil, List.append_nil]
  -- Only the keyword that closes the object has something to say.
  rw [memberCheck_type, typeCheck_str_eq_nil.2 rfl, memberCheck_closed ho, noStrangers,
    memberCheck_required_eq_nil.2 present, memberCheck_properties_of_closes rfl,
    report_eq_nil.2 List.isEmpty_nil]
  simp only [List.nil_append, List.append_nil]
  exact List.flatMap_congr fun n hn =>
    closedFailures_of_listed (ho.objectAt ▸ listed n hn) rfl

/-- A closed object lets those records pass that have the required names and whose fields all pass
the schemas of their names. -/
theorem check_closed_eq_nil {v : Json} : check f (Document.closed names schemas) p v = [] ↔
      ∃ ns, v = .obj ns ∧ (∀ n ∈ ns, ∃ s, Members.get? schemas n.1 = some s ∧
        within f s (p ++ [Step.key "properties", .key n.1]) n.2 = []) ∧
        ∀ name ∈ names, name ∈ Members.keys ns := by
  have ho := closedObject_closed names schemas
  -- What a record still has to pass that has the required names and no others.
  have fields {ns : Members} (listed : ∀ n ∈ ns, n.1 ∈ Members.keys schemas)
      (present : ∀ name ∈ names, name ∈ Members.keys ns) :
      check f (Document.closed names schemas) p (.obj ns) = [] ↔
        ∀ n ∈ ns, ∃ s, Members.get? schemas n.1 = some s ∧
          within f s (p ++ [Step.key "properties", .key n.1]) n.2 = [] := by
    have found : ∀ n ∈ ns, Members.get? schemas n.1 =
        some ((Members.get? schemas n.1).getD .null) := fun n hn => by
      obtain ⟨s, hs⟩ := Members.exists_get?_of_mem_keys (listed n hn)
      rw [hs]
      rfl
    rw [check_closed (g := fun k => (Members.get? schemas k).getD .null) found present,
      List.flatMap_eq_nil_iff]
    refine forall₂_congr fun n hn => ?_
    rw [memberFailures, List.map_eq_nil_iff, found n hn]
    simp
  constructor
  · intro hc
    have keywords := hc
    rw [Document.closed, check_obj_eq_nil rfl] at keywords
    simp only [List.forall_mem_cons, List.not_mem_nil, false_implies, implies_true, and_true]
      at keywords
    obtain ⟨type, closed, required, -⟩ := keywords
    obtain ⟨ns, rfl⟩ := hasType_object.1 (typeCheck_str_eq_nil.1 type)
    have present := memberCheck_required_eq_nil.1 required
    rw [memberCheck_closed ho, List.append_eq_nil_iff, report_eq_nil, List.isEmpty_iff] at closed
    have listed : ∀ n ∈ ns, n.1 ∈ Members.keys schemas := fun n hn => by
      by_contra hno
      exact List.eq_nil_iff_forall_not_mem.1 closed.2 n (mem_strangers.2 ⟨hn, hno, rfl⟩)
    exact ⟨ns, rfl, (fields listed present).1 hc, present⟩
  · rintro ⟨ns, rfl, hn, present⟩
    refine (fields (fun n hmem => ?_) present).2 hn
    obtain ⟨s, hs, -⟩ := hn n hmem
    exact Members.mem_keys_of_get? hs

theorem check_closed_singleton {f : Guide Verdict} {k : String} {s v : Json} {p : Pointer} :
    check f (Document.closed [k] [(k, s)]) p (.obj [(k, v)]) = [] ↔
      within f s (p ++ [Step.key "properties", .key k]) v = [] := by
  rw [check_closed_eq_nil]
  constructor
  · rintro ⟨ns, hns, hn, -⟩
    cases hns
    obtain ⟨t, ht, hnil⟩ := hn _ (List.mem_singleton_self _)
    exact (Members.get?_singleton.1 ht).2 ▸ hnil
  · intro hnil
    refine ⟨_, rfl, fun n hn => ?_, fun _ hname => hname⟩
    obtain rfl := List.mem_singleton.1 hn
    exact ⟨s, if_pos rfl, hnil⟩

/-- What a schema without references tells does not depend on the document it is compiled in. -/
theorem told_failures_of_noReferences {schema : Json} {d : Compiled}
    (hd : Compiled.compile schema = .ok d) (hr : NoReferences schema) (f : Guide Verdict)
    (p : Pointer) (v : Json) : told (d.failures v) = told (check f schema p v) := by
  rw [Compiled.told_failures d p, Compiled.root_of_compile hd]
  exact hr.check_told ..

/-- A closed object tells of a record what the schemas of its fields tell of the fields, wherever
these schemas stand. -/
theorem told_closed {d : Compiled} (hd : Compiled.compile (Document.closed names schemas) = .ok d)
    (hr : ∀ m ∈ schemas, NoReferences m.2)
    (listed : ∀ n ∈ ns, Members.get? schemas n.1 = some (g n.1))
    (present : ∀ name ∈ names, name ∈ Members.keys ns) (f : Guide Verdict) (p : Pointer) :
    told (d.failures (.obj ns)) = ns.flatMap fun n =>
      (told (check f (g n.1) p n.2)).map fun t => (.key n.1 :: t.1, t.2) := by
  rw [told_failures_of_noReferences hd (noReferences_closed hr) f p, check_closed listed present,
    told_flatMap]
  refine List.flatMap_congr fun n hn => ?_
  have references : NoReferences (g n.1) := hr _ (Members.mem_of_get? (listed n hn))
  rw [memberFailures, told_below]
  exact congrArg (List.map _) (references.check_told ..)

end

end EntitySchema.Draft7
