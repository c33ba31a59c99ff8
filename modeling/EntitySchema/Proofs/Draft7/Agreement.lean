import EntitySchema.Draft7.Evaluate
import EntitySchema.Proofs.Draft7.Identifiers
import Mathlib.Data.List.Basic

/-!
# When two checks agree

What a schema has against a value depends on where the schema stands only through the places in its
failures, and on how references are followed only through the references it mentions. So two checks
of one schema agree as soon as they agree wherever a reference is followed (`check_similar`).

How closely the checks agree is left open. A `Tolerance` looks at least at whether there are
failures, and no closer than at what they say (`told`: the instance paths and the complaints,
without the places in the schema). Both of these are tolerances, and each has its use: `check_alike`
is about what is told, `check_eq_nil_congr` about whether a value passes.

The values that a check comes across are the value itself and what is in it. `Hereditary` says that
a property of values passes on to these; it may bound the depth of values, or say nothing at all.
-/

namespace EntitySchema.Draft7

open Reference (Base)

/-- What failures say, wherever in the schema they come from. -/
def told (fs : List Failure) : List (Pointer × Complaint) :=
  fs.map fun f => (f.instancePath, f.complaint)

@[simp] theorem told_append (fs gs : List Failure) : told (fs ++ gs) = told fs ++ told gs :=
  List.map_append

theorem told_flatMap {α : Type} (xs : List α) (s : α → List Failure) :
    told (xs.flatMap s) = xs.flatMap fun x => told (s x) := List.map_flatMap

theorem told_below (s : Step) (fs : List Failure) :
    told (fs.map (Failure.below s)) = (told fs).map fun t => (s :: t.1, t.2) := by
  simp [told, Failure.below]

@[simp] theorem told_eq_nil {fs : List Failure} : told fs = [] ↔ fs = [] := List.map_eq_nil_iff

theorem isEmpty_told (fs : List Failure) : (told fs).isEmpty = fs.isEmpty := by
  cases fs <;> rfl

theorem told_report (p q : Pointer) (ok : Bool) (c : Complaint) :
    told (report p ok c) = told (report q ok c) := by
  cases ok <;> rfl

/-! ## Tolerances -/

/-- A way to compare failures that looks no closer than at what they say, and at least at whether
there are any. -/
structure Tolerance (E : List Failure → List Failure → Prop) : Prop where
  of_told {fs gs : List Failure} : told fs = told gs → E fs gs
  append {fs gs fs' gs' : List Failure} : E fs gs → E fs' gs' → E (fs ++ fs') (gs ++ gs')
  below {fs gs : List Failure} (s : Step) : E fs gs →
    E (fs.map (Failure.below s)) (gs.map (Failure.below s))
  nil_iff {fs gs : List Failure} : E fs gs → (fs = [] ↔ gs = [])

namespace Tolerance

variable {E : List Failure → List Failure → Prop} {fs gs : List Failure}

theorem refl (hE : Tolerance E) (fs : List Failure) : E fs fs := hE.of_told rfl

theorem isEmpty (hE : Tolerance E) (h : E fs gs) : fs.isEmpty = gs.isEmpty := by
  rw [Bool.eq_iff_iff, List.isEmpty_iff, List.isEmpty_iff]
  exact hE.nil_iff h

theorem flatMap (hE : Tolerance E) {α : Type} {xs : List α} {s t : α → List Failure}
    (h : ∀ x ∈ xs, E (s x) (t x)) : E (xs.flatMap s) (xs.flatMap t) := by
  induction xs with
  | nil => exact hE.refl []
  | cons x rest ih =>
    rw [List.flatMap_cons, List.flatMap_cons]
    exact hE.append (h x List.mem_cons_self) (ih fun y hy => h y (List.mem_cons_of_mem _ hy))

theorem report (hE : Tolerance E) (p q : Pointer) (ok : Bool) (c : Complaint) :
    E (report p ok c) (report q ok c) :=
  hE.of_told (told_report p q ok c)

end Tolerance

/-- The same is told. -/
abbrev TellSame (fs gs : List Failure) : Prop := told fs = told gs

theorem tolerance_told : Tolerance TellSame where
  of_told h := h
  append h h' := by rw [TellSame, told_append, told_append, h, h']
  below s h := by rw [TellSame, told_below, told_below, h]
  nil_iff h := by rw [← told_eq_nil, h, told_eq_nil]

theorem any_congr_of_mem {α : Type} {xs : List α} {s t : α → Bool} (h : ∀ x ∈ xs, s x = t x) :
    xs.any s = xs.any t := by
  rw [Bool.eq_iff_iff, List.any_eq_true, List.any_eq_true]
  exact exists_congr fun x => and_congr_right fun hx => by rw [h x hx]

/-- A property of values that what is in a value has too: its items, the values of its members, and
their names. -/
structure Hereditary (P : Json → Prop) : Prop where
  item {xs : List Json} {x : Json} : P (.arr xs) → x ∈ xs → P x
  member {ms : Members} {m : String × Json} : P (.obj ms) → m ∈ ms → P m.2
  name {ms : Members} {m : String × Json} : P (.obj ms) → m ∈ ms → P (.str m.1)

theorem hereditary_true : Hereditary fun _ => True where
  item _ _ := trivial
  member _ _ := trivial
  name _ _ := trivial

/-- Two checks agree on every value that `P` holds of, at whatever places. -/
abbrev Similar (E : List Failure → List Failure → Prop) (P : Json → Prop) (s t : Check) : Prop :=
  ∀ p q v, P v → E (s p v) (t q v)

/-- Two checks tell the same of every value that `P` holds of, at whatever places. -/
def Alike (P : Json → Prop) (s t : Check) : Prop :=
  ∀ p q v, P v → told (s p v) = told (t q v)

/-! ## Checks of schema objects -/

/-- The check of a schema that stands in another one. -/
abbrev within (f : Guide Verdict) : Json → Check := inner checkNode f

/-- Follows no references, in a document without a name. -/
def Guide.silent : Guide Verdict := ⟨.ok Reference.unnamed, fun _ _ _ _ => []⟩

theorem within_of_plain {f : Guide Verdict} {schema : Json} (h : Reference.id? schema = none) :
    within f schema = check f schema := by
  show check (f.enter schema) schema = _
  rw [Guide.enter, Reference.enter, h]

theorem check_obj_of_held {f : Guide Verdict} {ms : Members} {r : String}
    (h : Reference.held? (.obj ms) = some r) (p : Pointer) (v : Json) :
    check f (.obj ms) p v = f.lead r p v := by
  simp only [check, view_obj, checkNode, h]

theorem check_obj {f : Guide Verdict} {ms : Members} (h : Reference.held? (.obj ms) = none)
    (p : Pointer) (v : Json) :
    check f (.obj ms) p v =
      ms.flatMap fun m =>
        keyword (Parts.of checkNode f ms) m.1 (Part.of checkNode f m.2) p v := by
  simp only [check, view_obj, checkNode, h]
  exact List.flatMap_map ..

theorem check_of_not_schema {f : Guide Verdict} {schema : Json} (ho : schema.obj? = none)
    (hf : schema ≠ .bool false) (p : Pointer) (v : Json) : check f schema p v = [] := by
  rcases schema with _ | (_ | _) | _ | _ | _ | _
  case bool.false => exact absurd rfl hf
  case obj => cases ho
  all_goals rfl

/-! ## Keywords

Each lemma is about one keyword in the object `ms`, of which the schemas under it are similar. -/

section
variable {E : List Failure → List Failure → Prop} {P : Json → Prop} {f g : Guide Verdict}
  {ms : Members} {k : String} {w v : Json}

/-- The schemas in an object are similar. -/
abbrev SimilarIn (E : List Failure → List Failure → Prop) (P : Json → Prop) (f g : Guide Verdict)
    (ms : Members) : Prop :=
  ∀ s ∈ Reference.subschemas (.obj ms), Similar E P (within f s) (within g s)

theorem SimilarIn.under (h : SimilarIn E P f g ms) (hm : (k, w) ∈ ms) {s : Json}
    (hs : s ∈ schemasUnder k w) : Similar E P (within f s) (within g s) :=
  h s (mem_subschemas_of_mem hm hs)

theorem SimilarIn.at (h : SimilarIn E P f g ms) (hk : k = "properties" ∨ k = "patternProperties")
    {m : String × Json} (hm : m ∈ objectAt ms k) : Similar E P (within f m.2) (within g m.2) :=
  h m.2 (mem_subschemas_of_objectAt hk hm)

/-- Checks that do not look at schemas tell the same everywhere. -/
theorem told_typeCheck (p q : Pointer) :
    told (typeCheck w p v) = told (typeCheck w q v) := told_report ..

theorem told_boundCheck {name : String} {fails : Number → Number → Bool}
    {complaint : Json → Json → Complaint} (p q : Pointer) :
    told (boundCheck name fails complaint w p v) =
      told (boundCheck name fails complaint w q v) := by
  unfold boundCheck
  split
  · exact told_report ..
  · rfl

theorem told_multipleCheck (p q : Pointer) :
    told (multipleCheck w p v) = told (multipleCheck w q v) := by
  unfold multipleCheck
  split
  · exact told_report ..
  · rfl

theorem told_sizeCheck {name type : String} {ok : Nat → Nat → Bool}
    {complaint : Json → Nat → Complaint} (p q : Pointer) :
    told (sizeCheck name type ok complaint w p v) =
      told (sizeCheck name type ok complaint w q v) := by
  unfold sizeCheck
  split
  · split
    · exact told_report ..
    · rfl
  · rfl

theorem told_patternCheck (p q : Pointer) :
    told (patternCheck w p v) = told (patternCheck w q v) := by
  unfold patternCheck
  split
  · exact told_report ..
  · rfl

theorem told_formatCheck (p q : Pointer) :
    told (formatCheck w p v) = told (formatCheck w q v) := by
  unfold formatCheck
  split
  · exact told_report ..
  · rfl

theorem told_uniqueCheck (p q : Pointer) :
    told (uniqueCheck w p v) = told (uniqueCheck w q v) := by
  unfold uniqueCheck
  split
  · exact told_report ..
  · rfl

theorem told_missingFailures (p q : Pointer) (names : List String) (ns : Members) :
    told (missingFailures p names ns) = told (missingFailures q names ns) := by
  unfold missingFailures
  exact tolerance_told.flatMap fun n _ => told_report ..

theorem told_requiredCheck (p q : Pointer) :
    told (requiredCheck w p v) = told (requiredCheck w q v) := by
  unfold requiredCheck
  split
  · exact told_missingFailures ..
  · rfl

/-! ### Contents -/

theorem told_mediaTypeCheck (p q : Pointer) :
    told (mediaTypeCheck (Parts.of checkNode f ms) w p v) =
      told (mediaTypeCheck (Parts.of checkNode g ms) w q v) := by
  unfold mediaTypeCheck
  simp only [Parts.value_get?_of]
  split
  · split
    · exact told_report ..
    · split
      · rfl
      · split
        · rfl
        · exact told_report ..
    · rfl
  · rfl

theorem told_encodingCheck (p q : Pointer) :
    told (encodingCheck (Parts.of checkNode f ms) w p v) =
      told (encodingCheck (Parts.of checkNode g ms) w q v) := by
  unfold encodingCheck
  simp only [Parts.get?_of, Option.isSome_map]
  split
  · split
    · rfl
    · exact told_report ..
  · rfl

/-! ### Arrays -/

theorem Similar.item {s t : Check} (hE : Tolerance E) (h : Similar E P s t) (p q : Pointer)
    (i : Nat) (hv : P v) : E (itemFailures (s p) i v) (itemFailures (t q) i v) :=
  hE.below _ (h p q v hv)

theorem similar_itemsCheck (hE : Tolerance E) (h : SimilarIn E P f g ms) (hm : ("items", w) ∈ ms)
    (p q : Pointer) (hv : ∀ xs, v = .arr xs → ∀ x ∈ xs, P x) :
    E (itemsCheck (Part.of checkNode f w) p v) (itemsCheck (Part.of checkNode g w) q v) := by
  cases v with
  | arr xs =>
    show E (if isSchema w then _ else _) (if isSchema w then _ else _)
    split
    · next hw =>
      have self : Similar E P (within f w) (within g w) := h.under hm (mem_schemasUnder_items_self hw)
      refine hE.flatMap fun x hx => ?_
      exact self.item hE _ _ x.2 (hv xs rfl _ (List.fst_mem_of_mem_zipIdx hx))
    · -- The items of the array, each with the schema at its place.
      have pairs (e : Guide Verdict) : (xs.zip (Part.of checkNode e w).items).zipIdx =
          (xs.zip (w.arr?.getD [])).zipIdx.map fun x => ((x.1.1, within e x.1.2), x.2) := by
        rw [Part.of, List.zip_map_right, List.zipIdx_map]
        rfl
      rw [pairs, pairs, List.flatMap_map, List.flatMap_map]
      refine hE.flatMap fun x hx => ?_
      have hx := List.of_mem_zip (List.fst_mem_of_mem_zipIdx hx)
      have item := h.under hm (mem_schemasUnder_items hx.2)
      exact item.item hE _ _ x.2 (hv xs rfl _ hx.1)
  | _ => exact hE.refl []

theorem similar_additionalItemsCheck (hE : Tolerance E) (hP : Hereditary P)
    (h : SimilarIn E P f g ms) (hm : ("additionalItems", w) ∈ ms) (p q : Pointer) (hv : P v) :
    E (additionalItemsCheck (Parts.of checkNode f ms) (Part.of checkNode f w) p v)
      (additionalItemsCheck (Parts.of checkNode g ms) (Part.of checkNode g w) q v) := by
  have self : Similar E P (within f w) (within g w) := h.under hm List.mem_cons_self
  unfold additionalItemsCheck
  simp only [Parts.value_get?_of]
  split
  · exact hE.of_told rfl
  · next listed xs _ =>
    simp only [Part.value_of]
    split
    · exact hE.report ..
    · refine hE.flatMap fun x hx => ?_
      have hx := List.fst_mem_of_mem_zipIdx (List.mem_of_mem_drop hx)
      exact self.item hE _ _ x.2 (hP.item hv hx)
    · exact hE.refl []
  · exact hE.refl []

theorem Similar.isEmpty {s t : Check} (hE : Tolerance E) (h : Similar E P s t) (p q : Pointer)
    (hv : P v) : (s p v).isEmpty = (t q v).isEmpty :=
  hE.isEmpty (h p q v hv)

theorem similar_containsCheck (hE : Tolerance E) (hP : Hereditary P) (h : SimilarIn E P f g ms)
    (hm : ("contains", w) ∈ ms) (p q : Pointer) (hv : P v) :
    E (containsCheck (Part.of checkNode f w) p v)
      (containsCheck (Part.of checkNode g w) q v) := by
  have self : Similar E P (within f w) (within g w) := h.under hm List.mem_cons_self
  cases v with
  | arr xs =>
    have same : (xs.any fun x => (within f w (p ++ [Step.key "contains"]) x).isEmpty) =
        xs.any fun x => (within g w (q ++ [Step.key "contains"]) x).isEmpty :=
      any_congr_of_mem fun x hx => self.isEmpty hE _ _ (hP.item hv hx)
    show E (report _ (xs.any fun x => (within f w _ x).isEmpty) _) _
    rw [same]
    exact hE.report ..
  | _ => exact hE.refl []

/-! ### Objects -/

theorem Similar.member {s t : Check} (hE : Tolerance E) (h : Similar E P s t) (p q : Pointer)
    (k : String) (hv : P v) : E (memberFailures (s p) k v) (memberFailures (t q) k v) :=
  hE.below _ (h p q v hv)

theorem similar_propertiesCheck (hE : Tolerance E) (h : SimilarIn E P f g ms) (p q : Pointer)
    (hv : ∀ ns, v = .obj ns → ∀ n ∈ ns, P n.2) :
    E (propertiesCheck (Parts.of checkNode f ms) p v)
      (propertiesCheck (Parts.of checkNode g ms) q v) := by
  cases v with
  | obj ns =>
    unfold propertiesCheck
    simp only [Parts.closesProperties_of, Parts.named_of]
    split
    · exact hE.refl []
    · rw [List.flatMap_map, List.flatMap_map]
      refine hE.flatMap fun m hm => ?_
      cases hw : Members.get? ns m.1 with
      | none => exact hE.refl []
      | some x =>
        exact (h.at (.inl rfl) hm).member hE _ _ _ (hv ns rfl _ (Members.mem_of_get? hw))
  | _ => exact hE.refl []

theorem similar_patternPropertiesCheck (hE : Tolerance E) (hP : Hereditary P)
    (h : SimilarIn E P f g ms) (p q : Pointer) (hv : P v) :
    E (patternPropertiesCheck (Parts.of checkNode f ms) p v)
      (patternPropertiesCheck (Parts.of checkNode g ms) q v) := by
  cases v with
  | obj ns =>
    unfold patternPropertiesCheck
    simp only [Parts.closesProperties_of, Parts.named_of]
    split
    · exact hE.refl []
    · rw [List.flatMap_map, List.flatMap_map]
      refine hE.flatMap fun m hm => hE.flatMap fun x hx => ?_
      exact (h.at (.inr rfl) hm).member hE _ _ _ (hP.member hv (List.mem_of_mem_filter hx))
  | _ => exact hE.refl []

/-- The patterns that match a key, with the schemas they ask for. -/
def patternsFor (ms : Members) (k : String) : Members :=
  (objectAt ms "patternProperties").filter fun m => keyMatches m.1 k

theorem matching_of (f : Guide Verdict) (ms : Members) (p : Pointer) (k : String) :
    matching (Parts.of checkNode f ms) p k =
      (patternsFor ms k).map fun m =>
        within f m.2 (p ++ [Step.key "patternProperties", .key m.1]) := by
  rw [matching, Parts.named_of, List.filterMap_map, patternsFor, ← List.filterMap_eq_filter,
    List.map_filterMap]
  congr 1
  funext m
  show (if keyMatches m.1 k then _ else _) = (Option.guard _ m).map _
  split <;> simp_all [Option.guard]

theorem listedFailures_of (f : Guide Verdict) (ms : Members) (p : Pointer) (k : String)
    (v : Json) :
    listedFailures (Parts.of checkNode f ms) p k v =
      (Members.get? (objectAt ms "properties") k).map fun s =>
        memberFailures (within f s (p ++ [Step.key "properties", .key k])) k v := by
  rw [listedFailures, Parts.named_of, Members.get?_map (inner checkNode f), Option.map_map]
  rfl

theorem unlisted_of (f : Guide Verdict) (ms ns : Members) :
    unlisted (Parts.of checkNode f ms) ns =
      ns.filter fun n => !Members.has (objectAt ms "properties") n.1
        && (patternsFor ms n.1).isEmpty := by
  unfold unlisted
  congr 1
  funext n
  rw [matching_of, List.isEmpty_map, Parts.named_of, Members.has,
    Members.get?_map (inner checkNode f), Option.isSome_map, Members.has]

theorem similar_closedFailures (hE : Tolerance E) (h : SimilarIn E P f g ms) (p q : Pointer)
    {s t : Option Verdict} (hst : s = none ∧ t = none ∨
      ∃ a b, s = some a ∧ t = some b ∧ E (memberFailures a k v) (memberFailures b k v))
    (hv : P v) :
    E (closedFailures (Parts.of checkNode f ms) p s k v)
      (closedFailures (Parts.of checkNode g ms) q t k v) := by
  have patterns : E ((matching (Parts.of checkNode f ms) p k).flatMap fun d =>
      memberFailures d k v) ((matching (Parts.of checkNode g ms) q k).flatMap fun d =>
      memberFailures d k v) := by
    rw [matching_of, matching_of, List.flatMap_map, List.flatMap_map]
    refine hE.flatMap fun m hm => ?_
    exact (h.at (.inr rfl) (List.mem_of_mem_filter hm)).member hE _ _ _ hv
  unfold closedFailures
  rw [listedFailures_of, listedFailures_of]
  cases hl : Members.get? (objectAt ms "properties") k with
  | some x =>
    have listed := (h.at (.inl rfl) (Members.mem_of_get? hl)).member hE
      (p ++ [Step.key "properties", .key k]) (q ++ [Step.key "properties", .key k]) k hv
    exact hE.append listed patterns
  | none =>
    have none : (matching (Parts.of checkNode f ms) p k).isEmpty =
        (matching (Parts.of checkNode g ms) q k).isEmpty := by
      rw [matching_of, matching_of, List.isEmpty_map, List.isEmpty_map]
    simp only [Option.map_none, none]
    split
    · rcases hst with ⟨rfl, rfl⟩ | ⟨a, b, rfl, rfl, hab⟩
      · exact hE.refl []
      · exact hab
    · exact patterns

theorem similar_additionalPropertiesCheck (hE : Tolerance E) (hP : Hereditary P)
    (h : SimilarIn E P f g ms) (hm : ("additionalProperties", w) ∈ ms) (p q : Pointer) (hv : P v) :
    E (additionalPropertiesCheck (Parts.of checkNode f ms) (Part.of checkNode f w) p v)
      (additionalPropertiesCheck (Parts.of checkNode g ms) (Part.of checkNode g w) q v) := by
  have self : Similar E P (within f w) (within g w) := h.under hm List.mem_cons_self
  cases v with
  | obj ns =>
    unfold additionalPropertiesCheck
    simp only [Part.value_of]
    split
    · refine hE.flatMap fun n hn => ?_
      have hn := hP.member hv hn
      exact similar_closedFailures hE h p q (.inr ⟨_, _, rfl, rfl, self.member hE _ _ n.1 hn⟩) hn
    · simp only [Parts.get?_of, Option.isNone_map]
      split
      · split <;> exact hE.of_told rfl
      · rw [unlisted_of, unlisted_of]
        refine hE.append (hE.flatMap fun n hn => ?_) (hE.report ..)
        exact similar_closedFailures hE h p q (.inl ⟨rfl, rfl⟩) (hP.member hv hn)
    · exact hE.refl []
  | _ => exact hE.refl []

theorem similar_propertyNamesCheck (hE : Tolerance E) (hP : Hereditary P)
    (h : SimilarIn E P f g ms) (hm : ("propertyNames", w) ∈ ms) (p q : Pointer) (hv : P v) :
    E (propertyNamesCheck (Part.of checkNode f w) p v)
      (propertyNamesCheck (Part.of checkNode g w) q v) := by
  have self : Similar E P (within f w) (within g w) := h.under hm List.mem_cons_self
  cases v with
  | obj ns =>
    show E (if w = .bool false then _ else _) (if w = .bool false then _ else _)
    split
    · exact hE.report ..
    · exact hE.flatMap fun n hn => self _ _ _ (hP.name hv hn)
  | _ => exact hE.refl []

theorem similar_dependenciesCheck (hE : Tolerance E) (h : SimilarIn E P f g ms)
    (hm : ("dependencies", w) ∈ ms) (p q : Pointer) (hv : P v) :
    E (dependenciesCheck (Part.of checkNode f w) p v)
      (dependenciesCheck (Part.of checkNode g w) q v) := by
  cases v with
  | obj ns =>
    -- Each dependency beside the check of its own schema.
    have pairs (e : Guide Verdict) :
        ((Part.of checkNode e w).value.obj?.getD []).zip (Part.of checkNode e w).members =
          (w.obj?.getD []).map fun m => (m, m.1, within e m.2) :=
      List.map_prod_left_eq_zip.symm
    unfold dependenciesCheck
    simp only [pairs, List.flatMap_map]
    refine hE.flatMap fun m hm' => ?_
    split
    · split
      · exact hE.of_told (told_missingFailures ..)
      · exact h.under hm (List.mem_map_of_mem hm') _ _ _ hv
    · exact hE.refl []
  | _ => exact hE.refl []

/-! ### Combinations -/

theorem branches_of (f : Guide Verdict) (w : Json) (p : Pointer) (k : String) :
    branches (Part.of checkNode f w) p k =
      (w.arr?.getD []).zipIdx.map fun x => within f x.1 (p ++ [Step.key k, .index x.2]) := by
  rw [branches, Part.of, List.zipIdx_map, List.map_map]
  rfl

theorem SimilarIn.branch (h : SimilarIn E P f g ms) (hm : (k, w) ∈ ms)
    (hk : k = "allOf" ∨ k = "anyOf" ∨ k = "oneOf") {x : Json × Nat}
    (hx : x ∈ (w.arr?.getD []).zipIdx) : Similar E P (within f x.1) (within g x.1) := by
  refine h.under hm ?_
  have := List.fst_mem_of_mem_zipIdx hx
  rcases hk with rfl | rfl | rfl <;> exact this

theorem similar_allOfCheck (hE : Tolerance E) (h : SimilarIn E P f g ms) (hm : ("allOf", w) ∈ ms)
    (p q : Pointer) (hv : P v) :
    E (allOfCheck (Part.of checkNode f w) p v) (allOfCheck (Part.of checkNode g w) q v) := by
  unfold allOfCheck
  rw [branches_of, branches_of, List.flatMap_map, List.flatMap_map]
  exact hE.flatMap fun x hx => h.branch hm (.inl rfl) hx _ _ _ hv

theorem similar_anyOfCheck (hE : Tolerance E) (h : SimilarIn E P f g ms) (hm : ("anyOf", w) ∈ ms)
    (p q : Pointer) (hv : P v) :
    E (anyOfCheck (Part.of checkNode f w) p v) (anyOfCheck (Part.of checkNode g w) q v) := by
  unfold anyOfCheck
  have same : ((branches (Part.of checkNode f w) p "anyOf").any fun s => (s v).isEmpty) =
      (branches (Part.of checkNode g w) q "anyOf").any fun s => (s v).isEmpty := by
    rw [branches_of, branches_of, List.any_map, List.any_map]
    exact any_congr_of_mem fun x hx => (h.branch hm (.inr (.inl rfl)) hx).isEmpty hE _ _ hv
  rw [same]
  exact hE.report ..

theorem similar_oneOfCheck (hE : Tolerance E) (h : SimilarIn E P f g ms) (hm : ("oneOf", w) ∈ ms)
    (p q : Pointer) (hv : P v) :
    E (oneOfCheck (Part.of checkNode f w) p v) (oneOfCheck (Part.of checkNode g w) q v) := by
  unfold oneOfCheck
  -- The same branches pass on both sides, so there are equally many.
  have same : (w.arr?.getD []).zipIdx.filter
        (fun x => (within f x.1 (p ++ [Step.key "oneOf", .index x.2]) v).isEmpty) =
      (w.arr?.getD []).zipIdx.filter
        fun x => (within g x.1 (q ++ [Step.key "oneOf", .index x.2]) v).isEmpty :=
    List.filter_congr fun x hx => (h.branch hm (.inr (.inr rfl)) hx).isEmpty hE _ _ hv
  have passing (e : Guide Verdict) (r : Pointer) :
      ((branches (Part.of checkNode e w) r "oneOf").filter fun s => (s v).isEmpty) =
        ((w.arr?.getD []).zipIdx.filter
          fun x => (within e x.1 (r ++ [Step.key "oneOf", .index x.2]) v).isEmpty).map
            fun x => within e x.1 (r ++ [Step.key "oneOf", .index x.2]) := by
    rw [branches_of, List.filter_map]
    rfl
  rw [passing, passing, same]
  rcases List.filter _ _ with _ | ⟨x, _ | ⟨y, xs⟩⟩ <;> exact hE.of_told rfl

theorem similar_notCheck (hE : Tolerance E) (h : SimilarIn E P f g ms) (hm : ("not", w) ∈ ms)
    (p q : Pointer) (hv : P v) :
    E (notCheck (Part.of checkNode f w) p v) (notCheck (Part.of checkNode g w) q v) := by
  have self : Similar E P (within f w) (within g w) := h.under hm List.mem_cons_self
  have same := self.isEmpty hE (p ++ [Step.key "not"]) (q ++ [Step.key "not"]) hv
  show E (report _ (!(within f w _ v).isEmpty) _) _
  rw [same]
  exact hE.report ..

theorem similar_ifCheck (hE : Tolerance E) (h : SimilarIn E P f g ms) (hm : ("if", w) ∈ ms)
    (p q : Pointer) (hv : P v) :
    E (ifCheck (Parts.of checkNode f ms) (Part.of checkNode f w) p v)
      (ifCheck (Parts.of checkNode g ms) (Part.of checkNode g w) q v) := by
  have self : Similar E P (within f w) (within g w) := h.under hm List.mem_cons_self
  have same := self.isEmpty hE (p ++ [Step.key "if"]) (q ++ [Step.key "if"]) hv
  unfold ifCheck
  simp only [Parts.get?_of]
  show E (if (within f w _ v).isEmpty then _ else _) _
  rw [same]
  show E _ (if (within g w _ v).isEmpty then _ else _)
  split
  · cases ht : Members.get? ms "then" with
    | none => exact hE.refl []
    | some s => exact h.under (Members.mem_of_get? ht) List.mem_cons_self _ _ _ hv
  · cases ht : Members.get? ms "else" with
    | none => exact hE.refl []
    | some s => exact h.under (Members.mem_of_get? ht) List.mem_cons_self _ _ _ hv

/-! ### By name -/

theorem similar_ite {c : Prop} [Decidable c] {s s' t t' : Check} {p q : Pointer}
    (hs : c → E (s p v) (s' q v)) (ht : ¬c → E (t p v) (t' q v)) :
    E ((if c then s else t) p v) ((if c then s' else t') q v) := by
  split
  · exact hs ‹_›
  · exact ht ‹_›

theorem similar_keyword (hE : Tolerance E) (hP : Hereditary P) (h : SimilarIn E P f g ms)
    (hm : (k, w) ∈ ms) (p q : Pointer) (hv : P v) :
    E (keyword (Parts.of checkNode f ms) k (Part.of checkNode f w) p v)
      (keyword (Parts.of checkNode g ms) k (Part.of checkNode g w) q v) := by
  have items : ∀ xs, v = .arr xs → ∀ x ∈ xs, P x := fun xs hx x => (hP.item (hx ▸ hv) ·)
  have members : ∀ ns, v = .obj ns → ∀ n ∈ ns, P n.2 := fun ns hn n => (hP.member (hn ▸ hv) ·)
  have here {j : String} (hj : k = j) : (j, w) ∈ ms := by rwa [← hj]
  dsimp only [keyword, Part.value_of]
  refine similar_ite (fun _ => hE.of_told (told_typeCheck p q)) fun _ => ?_
  refine similar_ite (fun _ => hE.report ..) fun _ => ?_
  refine similar_ite (fun _ => hE.report ..) fun _ => ?_
  refine similar_ite (fun _ => hE.of_told (told_boundCheck p q)) fun _ => ?_
  refine similar_ite (fun _ => hE.of_told (told_boundCheck p q)) fun _ => ?_
  refine similar_ite (fun _ => hE.of_told (told_boundCheck p q)) fun _ => ?_
  refine similar_ite (fun _ => hE.of_told (told_boundCheck p q)) fun _ => ?_
  refine similar_ite (fun _ => hE.of_told (told_multipleCheck p q)) fun _ => ?_
  refine similar_ite (fun _ => hE.of_told (told_sizeCheck p q)) fun _ => ?_
  refine similar_ite (fun _ => hE.of_told (told_sizeCheck p q)) fun _ => ?_
  refine similar_ite (fun _ => hE.of_told (told_patternCheck p q)) fun _ => ?_
  refine similar_ite (fun _ => hE.of_told (told_formatCheck p q)) fun _ => ?_
  refine similar_ite (fun _ => hE.of_told (told_mediaTypeCheck p q)) fun _ => ?_
  refine similar_ite (fun _ => hE.of_told (told_encodingCheck p q)) fun _ => ?_
  refine similar_ite (fun hk => similar_itemsCheck hE h (here hk) p q items) fun _ => ?_
  refine similar_ite (fun hk => similar_additionalItemsCheck hE hP h (here hk) p q hv) fun _ => ?_
  refine similar_ite (fun _ => hE.of_told (told_sizeCheck p q)) fun _ => ?_
  refine similar_ite (fun _ => hE.of_told (told_sizeCheck p q)) fun _ => ?_
  refine similar_ite (fun _ => hE.of_told (told_uniqueCheck p q)) fun _ => ?_
  refine similar_ite (fun hk => similar_containsCheck hE hP h (here hk) p q hv) fun _ => ?_
  refine similar_ite (fun _ => hE.of_told (told_sizeCheck p q)) fun _ => ?_
  refine similar_ite (fun _ => hE.of_told (told_sizeCheck p q)) fun _ => ?_
  refine similar_ite (fun _ => hE.of_told (told_requiredCheck p q)) fun _ => ?_
  refine similar_ite (fun _ => similar_propertiesCheck hE h p q members) fun _ => ?_
  refine similar_ite (fun _ => similar_patternPropertiesCheck hE hP h p q hv) fun _ => ?_
  refine similar_ite (fun hk => similar_additionalPropertiesCheck hE hP h (here hk) p q hv)
    fun _ => ?_
  refine similar_ite (fun hk => similar_propertyNamesCheck hE hP h (here hk) p q hv) fun _ => ?_
  refine similar_ite (fun hk => similar_dependenciesCheck hE h (here hk) p q hv) fun _ => ?_
  refine similar_ite (fun hk => similar_allOfCheck hE h (here hk) p q hv) fun _ => ?_
  refine similar_ite (fun hk => similar_anyOfCheck hE h (here hk) p q hv) fun _ => ?_
  refine similar_ite (fun hk => similar_oneOfCheck hE h (here hk) p q hv) fun _ => ?_
  refine similar_ite (fun hk => similar_notCheck hE h (here hk) p q hv) fun _ => ?_
  exact similar_ite (fun hk => similar_ifCheck hE h (here hk) p q hv) fun _ => hE.refl []

end

/-! ## Schemas -/

section
variable {E : List Failure → List Failure → Prop} {P : Json → Prop} {a b : Base → String → Check}

/-- **Agreement.** Two checks of a schema agree when the references in it do. -/
theorem check_similar (hE : Tolerance E) (hP : Hereditary P) {T : Json → Base → Base → Prop}
    (hT : Inherited T) (h : ∀ s x y r, T s x y → Reference.held? s = some r →
      Similar E P (a x r) (b y r)) {schema : Json} {x y : Base} (hs : T schema x y) :
    Similar E P (check ⟨x, a⟩ schema) (check ⟨y, b⟩ schema) := by
  induction schema using schemaInduction generalizing x y with
  | h schema ih =>
    have inside : ∀ s ∈ Reference.subschemas schema,
        Similar E P (within ⟨x, a⟩ s) (within ⟨y, b⟩ s) := fun s hin => ih s hin (hT _ _ _ hs s hin)
    intro p q v hv
    cases ho : schema.obj? with
    | none =>
      by_cases hf : schema = .bool false
      · rw [hf]
        exact hE.of_told rfl
      · rw [check_of_not_schema ho hf, check_of_not_schema ho hf]
        exact hE.refl []
    | some ms =>
      obtain rfl : schema = .obj ms := by cases schema <;> cases ho; rfl
      cases hr : Reference.held? (.obj ms) with
      | some r =>
        rw [check_obj_of_held hr, check_obj_of_held hr]
        exact h _ x y r hs hr p q v hv
      | none =>
        rw [check_obj hr, check_obj hr]
        exact hE.flatMap fun m hm => similar_keyword hE hP inside hm p q hv

variable {schema : Json} {base : Base}

/-- Two checks of a schema with one base agree when the references in it do. -/
theorem check_similar_of_refers (hE : Tolerance E) (hP : Hereditary P)
    (h : ∀ c r, Refers ⟨base, schema⟩ c r → Similar E P (a c r) (b c r)) :
    Similar E P (check ⟨base, a⟩ schema) (check ⟨base, b⟩ schema) := by
  refine check_similar hE hP (inherited_refers fun c r => Similar E P (a c r) (b c r))
    (fun s x y r hs hr => ?_) ⟨rfl, h⟩
  obtain ⟨rfl, hs⟩ := hs
  exact hs x r (.held hr)

/-- Two checks of a schema tell the same when the references in it do. -/
theorem check_alike (hP : Hereditary P)
    (h : ∀ c r, Refers ⟨base, schema⟩ c r → Alike P (a c r) (b c r)) :
    Alike P (check ⟨base, a⟩ schema) (check ⟨base, b⟩ schema) :=
  check_similar_of_refers tolerance_told hP h

/-- A schema without references tells the same at every place, however references are followed. -/
theorem NoReferences.check_told (h : NoReferences schema) (f g : Guide Verdict) (p q : Pointer)
    (v : Json) : told (check f schema p v) = told (check g schema q v) := by
  refine check_similar tolerance_told hereditary_true inherited_noReferences
    (fun s x y r hs hr => ?_) h p q v trivial
  exact absurd (.held hr) (hs r)

theorem NoReferences.check_eq_nil {v : Json} (h : NoReferences schema) (f g : Guide Verdict)
    (p q : Pointer) : check f schema p v = [] ↔ check g schema q v = [] := by
  rw [← told_eq_nil, h.check_told f g p q, told_eq_nil]

end

end EntitySchema.Draft7
