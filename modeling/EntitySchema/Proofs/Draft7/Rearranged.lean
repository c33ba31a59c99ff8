import EntitySchema.Proofs.Draft7.Readable

/-!
# Closed objects in another order

A closed object that lists and requires some properties means the same in whatever order it does so,
if no two schemas in it have one name: it compiles in one order if it does in another
(`compile_rearranged`), and then lets the same values pass (`accepts_rearranged`). Of two schemas
with one name the last one counts, and so the order would show.

Else it could only show through references to places, since a property may refer to any place of the
document, to the object of all properties and to the list of required names among them. What a
reference leads to in one order and in the other are `Counterpart`s: the same value, or a place that
holds the properties or the names. Counterparts can be read alike, and let the same values pass. A
place that holds names is no schema, so it is never read.
-/

namespace EntitySchema.Draft7

open Reference (Base Spot Index Unambiguous)
open Scan (Follows Congruence)

/-! ## Keywords that others look at -/

/-- The keywords that others look at. -/
def lookedAt : List String :=
  ["additionalProperties", "contentEncoding", "contentMediaType", "else", "items",
    "patternProperties", "properties", "then"]

section
variable {γ : Type} {ps ps' : Parts γ} (h : ∀ k ∈ lookedAt, ps.get? k = ps'.get? k)
include h

theorem Parts.named_congr {k : String} (hk : k ∈ lookedAt) : ps.named k = ps'.named k := by
  rw [named, named, h k hk]

theorem Parts.closesProperties_congr : ps.closesProperties = ps'.closesProperties := by
  rw [closesProperties, closesProperties, h _ (by decide)]

end

/-- A keyword looks at other keywords by name. -/
theorem keyword_congr {ps ps' : Parts Verdict} (h : ∀ k ∈ lookedAt, ps.get? k = ps'.get? k)
    (k : String) (part : Part Verdict) : keyword ps k part = keyword ps' k part := by
  have listed : ps.named "properties" = ps'.named "properties" :=
    Parts.named_congr h (by decide)
  have matched : ps.named "patternProperties" = ps'.named "patternProperties" :=
    Parts.named_congr h (by decide)
  have closes := Parts.closesProperties_congr h
  have mediaType (w : Json) : mediaTypeCheck ps w = mediaTypeCheck ps' w := by
    unfold mediaTypeCheck
    rw [h _ (by decide)]
  have encoding (w : Json) : encodingCheck ps w = encodingCheck ps' w := by
    unfold encodingCheck
    rw [h _ (by decide)]
  have additionalItems : additionalItemsCheck ps part = additionalItemsCheck ps' part := by
    unfold additionalItemsCheck
    rw [h _ (by decide)]
  have properties : propertiesCheck ps = propertiesCheck ps' := by
    unfold propertiesCheck
    rw [closes, listed]
  have patterns : matching ps = matching ps' := by
    unfold matching
    rw [matched]
  have patternProperties : patternPropertiesCheck ps = patternPropertiesCheck ps' := by
    unfold patternPropertiesCheck
    rw [closes, matched]
  have additional : additionalPropertiesCheck ps part = additionalPropertiesCheck ps' part := by
    unfold additionalPropertiesCheck closedFailures listedFailures unlisted
    rw [h "properties" (by decide), h "patternProperties" (by decide), listed, patterns]
  have branches : ifCheck ps part = ifCheck ps' part := by
    unfold ifCheck
    simp only [h "then" (by decide), h "else" (by decide)]
  simp only [keyword, mediaType, encoding, additionalItems, properties, patternProperties,
    additional, branches]

theorem scanKeyword_congr {ps ps' : Parts Scan} (h : ∀ k ∈ lookedAt, ps.get? k = ps'.get? k)
    (k : String) (part : Part Scan) : scanKeyword ps k part = scanKeyword ps' k part := by
  have closes := Parts.closesProperties_congr h
  have named {k : String} (hk : k ∈ lookedAt) : scanNamed ps k = scanNamed ps' k := by
    unfold scanNamed
    rw [Parts.named_congr h hk]
  have others : scanOthers ps part = scanOthers ps' part := by
    unfold scanOthers
    rw [h "properties" (by decide), h "patternProperties" (by decide), named (by decide)]
  unfold scanKeyword
  by_cases hk : k = "properties"
  · simp only [hk, if_true, closes, named (show "properties" ∈ lookedAt by decide)]
  · simp only [hk, if_false, closes, others, h "then" (by decide), h "else" (by decide),
      h "items" (by decide)]

/-! ## Objects in another order -/

section
variable {ms ns : Members} {p q : Pointer} {base : Base}

theorem Parts.get?_of_perm {γ : Type} (node : Guide γ → Json → Parts γ → Pointer → γ) (g : Guide γ)
    (hn : (Members.keys ms).Nodup) (hp : ms.Perm ns) (k : String) :
    (Parts.of node g ms).get? k = (Parts.of node g ns).get? k := by
  rw [get?_of, get?_of, Members.get?_perm hn hp]

theorem held?_perm (hn : (Members.keys ms).Nodup) (hp : ms.Perm ns) :
    Reference.held? (.obj ms) = Reference.held? (.obj ns) :=
  congrArg (·.bind Json.str?) (Members.get?_perm hn hp "$ref")

theorem enter_perm (hn : (Members.keys ms).Nodup) (hp : ms.Perm ns) (base : Base) :
    Reference.enter base (.obj ms) = Reference.enter base (.obj ns) := by
  have get? (k : String) : (Json.obj ms).get? k = (Json.obj ns).get? k :=
    Members.get?_perm hn hp k
  simp only [Reference.enter, Reference.id?, Json.getStr?, get?]

/-- An object can be read in whatever order its keywords come. -/
theorem ReadableWith.perm {known : Base → String → Bool} (hn : (Members.keys ms).Nodup)
    (hp : ms.Perm ns) (h : ReadableWith known ⟨base, .obj ms⟩) :
    ReadableWith known ⟨base, .obj ns⟩ := by
  obtain ⟨b, hb⟩ : ∃ b, base = .ok b := base_of_mayPass h
  subst hb
  cases hr : Reference.held? (.obj ms) with
  | some r =>
    have met : (passOver known (.ok b) r []).MayPass := by
      unfold ReadableWith at h
      rw [view_obj, readNode_of_held? hr] at h
      exact (Scan.mayPass_bind (Scan.mayPass_bind h).2).2
    have passed : (passOver known (.ok b) r []).Passes := passes_passOver (known_of_mayPass met)
    unfold ReadableWith
    rw [view_obj, readNode_of_held? (held?_perm hn hp ▸ hr)]
    exact (Scan.passes_bind (Scan.passes_lift rfl)
      (Scan.passes_bind (Scan.passes_lift rfl) passed)).mayPass
  | none =>
    obtain ⟨typed, keywords⟩ := mayPass_obj hr h
    have inside : RelatedIn Follows ⟨.ok b, passOver known⟩ ⟨.ok b, passOver known⟩ ms :=
      fun s _ => follows_passOver known _ s
    have passes : (view readNode ⟨.ok b, passOver known⟩ (.obj ns) []).Passes := by
      refine passes_obj (held?_perm hn hp ▸ hr) rfl (fun v hv => ?_) fun m hm => ?_
      · exact typed v (Members.get?_perm hn hp "$ref" ▸ hv)
      · have here : m ∈ ms := hp.mem_iff.2 hm
        rw [← scanKeyword_congr fun k _ => Parts.get?_of_perm readNode _ hn hp k]
        exact rel_scanKeyword Scan.congruence_follows inside here [] [] (keywords m here)
    exact passes.mayPass

end

/-! ## Counterparts -/

/-- Schemas by name, all of them required in a closed object. -/
abbrev closedWith (schemas : Members) : Json := Document.closed (Members.keys schemas) schemas

/-- What a reference leads to in a closed object, and in the one with the properties in another
order. -/
inductive Counterpart (schemas schemas' : Members) : Json → Json → Prop where
  | same (v : Json) : Counterpart schemas schemas' v v
  | document : Counterpart schemas schemas' (closedWith schemas) (closedWith schemas')
  | properties : Counterpart schemas schemas' (.obj schemas) (.obj schemas')
  | required : Counterpart schemas schemas' (Json.ofStrings (Members.keys schemas))
      (Json.ofStrings (Members.keys schemas'))
  | name (a b : String) : Counterpart schemas schemas' (.str a) (.str b)

/-- Spots of counterparts in one resource. -/
structure Paired (schemas schemas' : Members) (x y : Spot) : Prop where
  base : x.base = y.base
  schema : Counterpart schemas schemas' x.schema y.schema

theorem Counterpart.symm {schemas schemas' : Members} {v w : Json}
    (h : Counterpart schemas schemas' v w) : Counterpart schemas' schemas w v := by
  cases h with
  | same => exact .same _
  | document => exact .document
  | properties => exact .properties
  | required => exact .required
  | name a b => exact .name b a

theorem Paired.symm {schemas schemas' : Members} {x y : Spot} (h : Paired schemas schemas' x y) :
    Paired schemas' schemas y x :=
  ⟨h.base.symm, h.schema.symm⟩

section
variable {schemas schemas' : Members} {v w : Json} {x y target : Spot} {l : Uri.Locator}
  {base : Base} {r : String}

/-- Neither a list nor a text is read as a schema. -/
theorem not_readableWith {known : Base → String → Bool} (ho : x.schema.obj? = none)
    (ht : ["boolean", "object"].any (hasType · x.schema) = false) : ¬ ReadableWith known x := by
  intro h
  unfold ReadableWith readNode at h
  rw [view_of_obj?_eq_none ho] at h
  have typed := Scan.mayPass_lift (Scan.mayPass_bind (Scan.mayPass_bind h).2).1
  rw [Refusal.ofTypes, ht] at typed
  cases typed

/-- The whole object apart, there are the same spots in either order. -/
theorem contains_rearranged (hp : schemas.Perm schemas')
    (h : Contains (Reference.top (closedWith schemas)) x) :
    x = Reference.top (closedWith schemas) ∨
      x.schema.depth < (closedWith schemas).depth ∧
        Contains (Reference.top (closedWith schemas')) x := by
  cases h with
  | self => exact .inl rfl
  | inside hin h =>
    have deeper := depth_lt_of_mem_inside hin
    obtain ⟨s, hs, rfl⟩ := mem_inside.1 hin
    refine .inr ⟨?_, .inside (mem_inside.2 ⟨s, ?_, rfl⟩) h⟩
    · rcases h.eq_or_depth_lt with rfl | below
      · exact deeper
      · exact Nat.lt_trans below deeper
    · exact mem_subschemas_closed.2 ((mem_subschemas_closed.1 hs).imp_right
        fun ⟨m, hm, hms⟩ => ⟨m, hp.mem_iff.1 hm, hms⟩)

/-- The whole object apart, the same is registered in either order. -/
theorem mem_own_rearranged (hp : schemas.Perm schemas')
    (h : (l, x) ∈ Index.own (closedWith schemas)) :
    (x = Reference.top (closedWith schemas) ∧
      (l, Reference.top (closedWith schemas')) ∈ Index.own (closedWith schemas')) ∨
    (x.schema.depth < (closedWith schemas).depth ∧
      (l, x) ∈ Index.own (closedWith schemas')) := by
  rcases Reference.mem_own.1 h with ⟨rfl, hb, hf⟩ | ⟨hx, hl⟩
  · exact .inl ⟨rfl, Reference.mem_own.2 (.inl ⟨rfl, hb, hf⟩)⟩
  · rcases contains_rearranged hp hx with rfl | ⟨below, hx⟩
    · cases hl
    · exact .inr ⟨below, Reference.mem_own.2 (.inr ⟨hx, hl⟩)⟩

theorem exists_paired (hp : schemas.Perm schemas')
    (h : (l, x) ∈ Index.own (closedWith schemas)) :
    ∃ y, (l, y) ∈ Index.own (closedWith schemas') ∧ Paired schemas schemas' x y := by
  rcases mem_own_rearranged hp h with ⟨rfl, hy⟩ | ⟨-, hy⟩
  · exact ⟨_, hy, rfl, .document⟩
  · exact ⟨x, hy, rfl, .same _⟩

/-- What is found under a name in one order has its counterpart in the other. -/
theorem find?_rearranged (hp : schemas.Perm schemas') (hu : Unambiguous (closedWith schemas))
    (h : (Index.of (closedWith schemas)).find? l = some x) :
    ∃ y, (Index.of (closedWith schemas')).find? l = some y ∧ Paired schemas schemas' x y := by
  rw [Index.find?_of] at h ⊢
  cases own : Index.find? (.own (closedWith schemas)) l with
  | some z =>
    rw [own] at h
    obtain rfl : z = x := Option.some.inj h
    have hz := Index.mem_of_find? own
    obtain ⟨y, hy, -⟩ := exists_paired hp hz
    obtain ⟨last, found⟩ := Index.exists_find? hy
    -- What is registered last has a counterpart, which can only be what was found.
    obtain ⟨z', hz', paired⟩ := exists_paired hp.symm (Index.mem_of_find? found)
    obtain rfl := hu.eq hz hz' rfl
    exact ⟨last, by rw [found]; rfl, paired.symm⟩
  | none =>
    have absent : Index.find? (.own (closedWith schemas')) l = none := by
      refine Index.find?_eq_none_iff.2 fun y hy => ?_
      obtain ⟨z, hz, -⟩ := exists_paired hp.symm hy
      exact Index.find?_eq_none_iff.1 own z hz
    rw [own] at h
    rw [absent]
    exact ⟨x, h, rfl, .same _⟩

/-- The lists of required names have names at the same indices. -/
theorem exists_name (hp : schemas.Perm schemas') {i : Nat} {x : Json}
    (h : ((Members.keys schemas).map Json.str)[i]? = some x) :
    ∃ y, ((Members.keys schemas').map Json.str)[i]? = some y ∧
      Counterpart schemas schemas' x y := by
  obtain ⟨bound, rfl⟩ := List.getElem?_eq_some_iff.1 h
  rw [List.length_map, (Members.perm_keys hp).length_eq, ← List.length_map Json.str] at bound
  refine ⟨_, List.getElem?_eq_getElem bound, ?_⟩
  rw [List.getElem_map, List.getElem_map]
  exact .name _ _

variable (hn : (Members.keys schemas).Nodup) (hp : schemas.Perm schemas')
include hn hp

theorem Counterpart.child {pointer : String} (h : Counterpart schemas schemas' v w)
    {segment : List Char} {step : Step} {x : Json}
    (hv : Reference.child pointer v segment = .ok (step, x)) :
    ∃ y, Reference.child pointer w segment = .ok (step, y) ∧
      Counterpart schemas schemas' x y := by
  cases h with
  | same => exact ⟨x, hv, .same x⟩
  | document =>
    obtain ⟨hx, rfl⟩ := Reference.child_obj_eq_ok.1 hv
    have keywords := Members.mem_of_get? hx
    simp only [List.mem_cons, List.not_mem_nil, or_false, Prod.mk.injEq] at keywords
    rcases keywords with ⟨hk, rfl⟩ | ⟨hk, rfl⟩ | ⟨hk, rfl⟩ | ⟨hk, rfl⟩
    · exact ⟨_, Reference.child_obj_eq_ok.2 ⟨by rw [hk]; rfl, rfl⟩, .same _⟩
    · exact ⟨_, Reference.child_obj_eq_ok.2 ⟨by rw [hk]; rfl, rfl⟩, .same _⟩
    · exact ⟨_, Reference.child_obj_eq_ok.2 ⟨by rw [hk]; rfl, rfl⟩, .required⟩
    · exact ⟨_, Reference.child_obj_eq_ok.2 ⟨by rw [hk]; rfl, rfl⟩, .properties⟩
  | properties =>
    obtain ⟨hx, rfl⟩ := Reference.child_obj_eq_ok.1 hv
    exact ⟨x, Reference.child_obj_eq_ok.2 ⟨Members.get?_perm hn hp _ ▸ hx, rfl⟩, .same x⟩
  | required =>
    obtain ⟨i, hi, hx, rfl⟩ := Reference.child_arr_eq_ok.1 hv
    obtain ⟨y, hy, counterpart⟩ := exists_name hp hx
    exact ⟨y, Reference.child_arr_eq_ok.2 ⟨i, hi, hy, rfl⟩, counterpart⟩
  | name => cases hv

theorem Counterpart.enter (h : Counterpart schemas schemas' v w) (base : Base) :
    Reference.enter base v = Reference.enter base w := by
  cases h with
  | properties => exact enter_perm hn hp base
  | _ => rfl

/-! ### Reading and checking -/

/-- Counterparts are read alike. -/
theorem Paired.readable {known : Base → String → Bool} (h : Paired schemas schemas' x y)
    (hx : ReadableWith known x) : ReadableWith known y := by
  obtain ⟨base, v⟩ := x
  obtain ⟨base', w⟩ := y
  obtain ⟨rfl : base = base', counterpart : Counterpart schemas schemas' v w⟩ := h
  cases counterpart with
  | same => exact hx
  | document =>
    obtain ⟨r, hb⟩ := base_of_mayPass hx
    refine (passes_closed hb [] _ fun m hm q => ?_).mayPass
    obtain ⟨q', hq'⟩ := property_mayPass (closedObject_closed _ schemas) hx (hp.mem_iff.2 hm)
    exact follows_passOver known _ m.2 q' q hq'
  | properties => exact hx.perm hn hp
  | required => exact (not_readableWith rfl rfl hx).elim
  | name => exact (not_readableWith rfl rfl hx).elim

variable (hu : Unambiguous (closedWith schemas))
include hu

theorem Paired.placeIn (h : Paired schemas schemas' x y)
    (hx : Reference.placeIn (.of (closedWith schemas)) x l = .ok target) :
    ∃ target', Reference.placeIn (.of (closedWith schemas')) y l = .ok target' ∧
      Paired schemas schemas' target target' := by
  rcases Reference.placeIn_eq_ok.1 hx with
    ⟨hf, rfl⟩ | ⟨rest, decoded, hf, hd, hx⟩ | ⟨c, name, hf, hc, hx⟩
  · exact ⟨y, Reference.placeIn_eq_ok.2 (.inl ⟨hf, rfl⟩), h⟩
  · obtain ⟨target', hy, paired⟩ := Reference.descend_transfer
      (Q := Paired schemas schemas') (fun _ _ h => h.base) (fun x x' segment step v h hv => by
        obtain ⟨v', hv', counterpart⟩ := h.schema.child hn hp hv
        exact ⟨v', hv', ⟨rfl, counterpart⟩, counterpart.enter hn hp _, counterpart⟩) h hx
    exact ⟨target', Reference.placeIn_eq_ok.2 (.inr (.inl ⟨rest, decoded, hf, hd, hy⟩)), paired⟩
  · obtain ⟨target', hy, paired⟩ := find?_rearranged hp hu hx
    exact ⟨target', Reference.placeIn_eq_ok.2 (.inr (.inr ⟨c, name, hf, hc, hy⟩)), paired⟩

end

end EntitySchema.Draft7
