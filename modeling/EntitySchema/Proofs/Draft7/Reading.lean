import EntitySchema.Draft7.Compiled
import EntitySchema.Proofs.Draft7.Identifiers
import EntitySchema.Proofs.Outcome
import Mathlib.Data.List.Basic

/-!
# Two readings side by side

What is read of a document depends on the references that have been met, and each refusal ends the
reading. Two readings of one schema differ only where references are met. So a relation between
steps that is kept by all that readings are made of (`Scan.Congruence`) holds of two readings as
soon as it holds of the steps that meet the references in the schema (`reading_congr`).

`Follows` relates two steps of which the second always passes as soon as the first passed once. A
schema without references does not look at what has been met: when it passed once, somewhere in some
document, it passes always, in every document and at every place (`reading_follows`).
-/

namespace EntitySchema.Draft7

namespace Scan

/-- Some run of a step passes. -/
def MayPass (x : Scan) : Prop := ∃ r r', x.run r = .ok ((), r')

/-- Every run of a step passes. -/
def Passes (x : Scan) : Prop := ∀ r, ∃ r', x.run r = .ok ((), r')

/-- A step always passes when another one passed once. -/
def Follows (x y : Scan) : Prop := x.MayPass → y.Passes

variable {x x' y y' : Scan}

theorem Passes.mayPass (h : x.Passes) : x.MayPass :=
  let ⟨r, hr⟩ := h {}
  ⟨{}, r, hr⟩

theorem passes_lift {u : Except Refusal Unit} (h : u = .ok ()) : Passes (liftM u) := by
  subst h
  exact fun r => ⟨r, rfl⟩

theorem mayPass_lift {u : Except Refusal Unit} (h : MayPass (liftM u)) : u = .ok () := by
  obtain ⟨r, r', h⟩ := h
  cases u with
  | error e => cases h
  | ok _ => rfl

theorem mayPass_bind (h : MayPass (x >>= fun _ => y)) : x.MayPass ∧ y.MayPass := by
  obtain ⟨r, r', h⟩ := h
  rw [StateT.run_bind] at h
  cases hr : x.run r with
  | error e =>
    rw [hr] at h
    cases h
  | ok z =>
    rw [hr] at h
    exact ⟨⟨r, z.2, hr⟩, ⟨z.2, r', h⟩⟩

theorem passes_bind (hx : x.Passes) (hy : y.Passes) : Passes (x >>= fun _ => y) := by
  intro r
  obtain ⟨s, hs⟩ := hx r
  obtain ⟨t, ht⟩ := hy s
  refine ⟨t, ?_⟩
  rw [StateT.run_bind, hs]
  exact ht

theorem mayPass_forM {α : Type} {xs : List α} {s : α → Scan} (h : MayPass (xs.forM s)) :
    ∀ a ∈ xs, (s a).MayPass := by
  induction xs with
  | nil => exact nofun
  | cons a rest ih =>
    obtain ⟨ha, hrest⟩ := mayPass_bind (x := s a) (y := rest.forM s) h
    exact List.forall_mem_cons.2 ⟨ha, ih hrest⟩

theorem passes_forM {α : Type} {xs : List α} {s : α → Scan} (h : ∀ a ∈ xs, (s a).Passes) :
    Passes (xs.forM s) := by
  induction xs with
  | nil => exact fun r => ⟨r, rfl⟩
  | cons a rest ih =>
    obtain ⟨ha, hrest⟩ := List.forall_mem_cons.1 h
    exact passes_bind ha (ih hrest)

theorem run_discard (r : Reading) : x.discard.run r = x.run r >>= fun z =>
    return ((), { z.2 with plan := r.plan }) := rfl

theorem mayPass_silence (h : x.silence.MayPass) : x.MayPass := by
  obtain ⟨r, r', hr⟩ := h
  exact ⟨r, r', mapError_eq_ok.1 hr⟩

theorem passes_silence (h : x.Passes) : x.silence.Passes := by
  intro r
  obtain ⟨s, hs⟩ := h r
  exact ⟨s, mapError_eq_ok.2 hs⟩

theorem mayPass_discard (h : x.discard.MayPass) : x.MayPass := by
  obtain ⟨r, r', hr⟩ := h
  obtain ⟨z, hz, -⟩ := bind_eq_ok.1 (run_discard r ▸ hr)
  exact ⟨r, z.2, hz⟩

theorem passes_discard (h : x.Passes) : x.discard.Passes := by
  intro r
  obtain ⟨s, hs⟩ := h r
  exact ⟨{ s with plan := r.plan }, by rw [run_discard, hs]; rfl⟩

/-! ## Relations between steps -/

/-- A relation between steps that is kept by all that readings are made of. -/
structure Congruence (R : Scan → Scan → Prop) : Prop where
  lift (u : Except Refusal Unit) : R (liftM u) (liftM u)
  bind {x x' y y' : Scan} : R x x' → R y y' → R (x >>= fun _ => y) (x' >>= fun _ => y')
  silence {x y : Scan} : R x y → R x.silence y.silence
  discard {x y : Scan} : R x y → R x.discard y.discard

namespace Congruence

variable {R : Scan → Scan → Prop}

theorem pass (hR : Congruence R) : R (pure ()) (pure ()) := hR.lift (.ok ())

theorem refuse (hR : Congruence R) (e : Refusal) : R (throw e) (throw e) := hR.lift (.error e)

/-- Two loops over the same list, each with a step of its own. -/
theorem forM (hR : Congruence R) {α β γ : Type} {xs : List γ} {a : γ → α} {b : γ → β}
    {s : α → Scan} {t : β → Scan} (h : ∀ x ∈ xs, R (s (a x)) (t (b x))) :
    R ((xs.map a).forM s) ((xs.map b).forM t) := by
  induction xs with
  | nil => exact hR.pass
  | cons x rest ih =>
    exact hR.bind (h x List.mem_cons_self) (ih fun z hz => h z (List.mem_cons_of_mem _ hz))

end Congruence

theorem rel_ite {R : Scan → Scan → Prop} {c : Prop} [Decidable c] (hs : c → R x x')
    (ht : ¬c → R y y') : R (if c then x else y) (if c then x' else y') := by
  split
  · exact hs ‹_›
  · exact ht ‹_›

theorem congruence_follows : Congruence Follows where
  lift _ h := passes_lift (mayPass_lift h)
  bind hx hy h := passes_bind (hx (mayPass_bind h).1) (hy (mayPass_bind h).2)
  silence h hx := passes_silence (h (mayPass_silence hx))
  discard h hx := passes_discard (h (mayPass_discard hx))

end Scan

open Scan (Follows Congruence rel_ite)
open Reference (Base)

/-! ## Keywords -/

section
variable {R : Scan → Scan → Prop} {f g : Guide Scan} {ms : Members} {k : String} {w : Json}

/-- Reads a schema that stands in another one. -/
abbrev readWithin (g : Guide Scan) : Json → Pointer → Scan := inner readNode g

/-- The readings of the schemas in an object are related. -/
abbrev RelatedIn (R : Scan → Scan → Prop) (f g : Guide Scan) (ms : Members) : Prop :=
  ∀ s ∈ Reference.subschemas (.obj ms), ∀ p q, R (readWithin f s p) (readWithin g s q)

theorem RelatedIn.under (h : RelatedIn R f g ms) (hm : (k, w) ∈ ms) {s : Json}
    (hs : s ∈ schemasUnder k w) (p q : Pointer) : R (readWithin f s p) (readWithin g s q) :=
  h s (mem_subschemas_of_mem hm hs) p q

theorem rel_scanNamed (hR : Congruence R) (h : RelatedIn R f g ms)
    (hk : k = "properties" ∨ k = "patternProperties") (p q : Pointer) :
    R (scanNamed (Parts.of readNode f ms) k p) (scanNamed (Parts.of readNode g ms) k q) := by
  rw [scanNamed, scanNamed, Parts.named_of, Parts.named_of]
  exact hR.forM fun m hm => h m.2 (mem_subschemas_of_objectAt hk hm) _ _

/-- The schemas by name under a keyword, each with its entry. -/
theorem zip_members_of (g : Guide Scan) (w : Json) :
    (w.obj?.getD []).zip (Part.of readNode g w).members =
      (w.obj?.getD []).map fun m => (m, m.1, readWithin g m.2) :=
  List.map_prod_left_eq_zip.symm

theorem rel_scanPatterns (hR : Congruence R) (h : RelatedIn R f g ms)
    (hm : ("patternProperties", w) ∈ ms) (p q : Pointer) :
    R (scanPatterns (Part.of readNode f w) p) (scanPatterns (Part.of readNode g w) q) := by
  unfold scanPatterns
  simp only [Part.value_of]
  refine hR.bind (hR.lift _) ?_
  rw [zip_members_of, zip_members_of]
  refine hR.forM fun m hm' => rel_ite (fun _ => ?_) fun _ => ?_
  · exact hR.bind (hR.refuse _) (h.under hm (List.mem_map_of_mem hm') _ _)
  · exact h.under hm (List.mem_map_of_mem hm') _ _

/-- Reads the schemas that `properties` lists, where `additionalProperties` looks after them. -/
def scanListed (ps : Parts Scan) (place : Pointer) : Scan := do
  if let some listed := ps.get? "properties" then
    if listed.value.obj?.isNone then throw .untold
  scanNamed ps "properties" place

theorem scanOthers_eq (ps : Parts Scan) (part : Part Scan) (place : Pointer) :
    scanOthers ps part place =
      match part.value, ps.get? "patternProperties" with
      | .bool false, none => scanListed ps place
      | .bool false, some patterns => do
        (scanPatterns patterns place).silence
        scanListed ps place
      | .obj _, none => do
        scanListed ps place
        part.self (place ++ [Step.key "additionalProperties"])
      | .obj _, some patterns => do
        (scanPatterns patterns place).silence
        part.self (place ++ [Step.key "additionalProperties"])
        scanListed ps place
      | _, none => pure ()
      | _, some patterns => (scanPatterns patterns place).silence.discard := rfl

theorem rel_scanListed (hR : Congruence R) (h : RelatedIn R f g ms) (p q : Pointer) :
    R (scanListed (Parts.of readNode f ms) p) (scanListed (Parts.of readNode g ms) q) := by
  have named := rel_scanNamed hR h (.inl rfl) p q
  unfold scanListed
  simp only [Parts.get?_of]
  cases Members.get? ms "properties" with
  | none => exact named
  | some v => exact rel_ite (fun _ => hR.bind (hR.refuse _) named) fun _ => named

theorem rel_scanOthers (hR : Congruence R) (h : RelatedIn R f g ms)
    (hm : ("additionalProperties", w) ∈ ms) (p q : Pointer) :
    R (scanOthers (Parts.of readNode f ms) (Part.of readNode f w) p)
      (scanOthers (Parts.of readNode g ms) (Part.of readNode g w) q) := by
  have self : R (readWithin f w (p ++ [Step.key "additionalProperties"]))
      (readWithin g w (q ++ [Step.key "additionalProperties"])) := h.under hm List.mem_cons_self _ _
  have listed := rel_scanListed hR h p q
  rw [scanOthers_eq, scanOthers_eq, Parts.get?_of, Parts.get?_of]
  cases hp : Members.get? ms "patternProperties" with
  | none =>
    rcases w with _ | (_ | _) | _ | _ | _ | ns
    case bool.false => exact listed
    case obj => exact hR.bind listed self
    all_goals exact hR.pass
  | some x =>
    have patterns := hR.silence (rel_scanPatterns hR h (Members.mem_of_get? hp) p q)
    rcases w with _ | (_ | _) | _ | _ | _ | ns
    case bool.false => exact hR.bind patterns listed
    case obj => exact hR.bind patterns (hR.bind self listed)
    all_goals exact hR.discard patterns

/-- The items of a list of schemas, each with its index. -/
theorem zipIdx_items_of (g : Guide Scan) (w : Json) :
    (Part.of readNode g w).items.zipIdx = (w.arr?.getD []).zipIdx.map fun x => (readWithin g x.1, x.2) := by
  rw [Part.of, List.zipIdx_map]
  rfl

theorem rel_items (hR : Congruence R) (h : RelatedIn R f g ms) (hm : (k, w) ∈ ms)
    (hk : ∀ s ∈ w.arr?.getD [], s ∈ schemasUnder k w) (p q : Pointer) :
    R ((Part.of readNode f w).items.zipIdx.forM fun m => m.1 (p ++ [Step.key k, .index m.2]))
      ((Part.of readNode g w).items.zipIdx.forM fun m => m.1 (q ++ [Step.key k, .index m.2])) := by
  rw [zipIdx_items_of, zipIdx_items_of]
  exact hR.forM fun x hx => h.under hm (hk _ (List.fst_mem_of_mem_zipIdx hx)) _ _

theorem rel_dependencies (hR : Congruence R) (h : RelatedIn R f g ms)
    (hm : ("dependencies", w) ∈ ms) (p q : Pointer) :
    R (((w.obj?.getD []).zip (Part.of readNode f w).members).forM fun x => match x.1.2 with
        | .arr names => liftM (Refusal.ofStrings names)
        | _ => x.2.2 (p ++ [Step.key "dependencies", .key x.1.1]))
      (((w.obj?.getD []).zip (Part.of readNode g w).members).forM fun x => match x.1.2 with
        | .arr names => liftM (Refusal.ofStrings names)
        | _ => x.2.2 (q ++ [Step.key "dependencies", .key x.1.1])) := by
  rw [zip_members_of, zip_members_of]
  refine hR.forM fun m hm' => ?_
  dsimp only
  split
  · exact hR.lift _
  · exact h.under hm (List.mem_map_of_mem hm') _ _

theorem rel_branch (hR : Congruence R) (h : RelatedIn R f g ms) (hk : k = "then" ∨ k = "else")
    (p q : Pointer) :
    R
      (match (Members.get? ms k).map (Part.of readNode f) with
        | some part => part.self (p ++ [Step.key k])
        | none => pure ())
      (match (Members.get? ms k).map (Part.of readNode g) with
        | some part => part.self (q ++ [Step.key k])
        | none => pure ()) := by
  cases hw : Members.get? ms k with
  | none => exact hR.pass
  | some w =>
    refine h.under (Members.mem_of_get? hw) ?_ _ _
    rcases hk with rfl | rfl <;> exact List.mem_cons_self

theorem rel_scanKeyword (hR : Congruence R) (h : RelatedIn R f g ms) (hm : (k, w) ∈ ms)
    (p q : Pointer) :
    R (scanKeyword (Parts.of readNode f ms) k (Part.of readNode f w) p)
      (scanKeyword (Parts.of readNode g ms) k (Part.of readNode g w) q) := by
  have self (hk : w ∈ schemasUnder k w) :
      R ((Part.of readNode f w).self (p ++ [Step.key k])) ((Part.of readNode g w).self (q ++ [Step.key k])) :=
    h.under hm hk _ _
  unfold scanKeyword
  simp only [Part.value_of, Parts.closesProperties_of, Parts.value_get?_of]
  refine rel_ite (fun hk => ?_) fun _ => ?_
  · subst hk
    exact rel_ite (fun _ => hR.bind (hR.lift _) (rel_scanNamed hR h (.inl rfl) p q))
      fun _ => hR.pass
  refine rel_ite (fun hk => ?_) fun _ => ?_
  · subst hk
    exact rel_ite (fun _ => rel_scanPatterns hR h hm p q) fun _ => hR.pass
  refine rel_ite (fun hk => ?_) fun _ => ?_
  · subst hk
    exact rel_scanOthers hR h hm p q
  refine rel_ite (fun hk => ?_) fun _ => ?_
  · subst hk
    exact rel_ite (fun hw => self (mem_schemasUnder_items_self hw))
      fun _ => rel_items hR h hm (fun _ => mem_schemasUnder_items) p q
  refine rel_ite (fun hk => ?_) fun _ => ?_
  · subst hk
    split
    · exact self List.mem_cons_self
    · exact hR.pass
  refine rel_ite (fun hk => ?_) fun _ => ?_
  · exact self (by rcases hk with rfl | rfl <;> exact List.mem_cons_self)
  refine rel_ite (fun hk => ?_) fun _ => ?_
  · subst hk
    exact rel_ite (fun _ => self List.mem_cons_self) fun _ => hR.pass
  refine rel_ite (fun hk => ?_) fun _ => ?_
  · exact hR.bind (hR.lift _) (rel_items hR h hm
      (fun _ hs => by rcases hk with rfl | rfl | rfl <;> exact hs) p q)
  refine rel_ite (fun hk => ?_) fun _ => ?_
  · subst hk
    exact hR.bind (hR.lift _) (rel_dependencies hR h hm p q)
  refine rel_ite (fun hk => ?_) fun _ => hR.lift _
  subst hk
  simp only [Parts.get?_of, Option.isSome_map]
  refine rel_ite (fun _ => ?_) fun _ => hR.pass
  exact hR.bind (self List.mem_cons_self)
    (hR.bind (rel_branch hR h (.inl rfl) p q) (rel_branch hR h (.inr rfl) p q))

end

/-! ## Schemas -/

section
variable {f g : Guide Scan} {schema : Json} {ps ps' : Parts Scan} {p q : Pointer} {ms : Members}

theorem readNode_of_held? {r : String} (h : Reference.held? schema = some r) :
    readNode g schema ps p = (do
      Refusal.ofBase g.base
      Refusal.ofTypes ["boolean", "object"] schema
      g.lead r p) := by
  unfold readNode
  rw [h]

/-- How a schema that is no reference is read. -/
theorem readNode_of_held?_eq_none (h : Reference.held? schema = none) :
    readNode g schema ps p = (do
      Refusal.ofBase g.base
      Refusal.ofTypes ["boolean", "object"] schema
      if let some v := schema.get? "$ref" then Refusal.ofTypes ["string"] v
      ps.forM fun p' => scanKeyword ps p'.1 p'.2 p) := by
  unfold readNode
  exact h ▸ rfl

/-- A schema is read only where it stands in a resource. -/
theorem base_of_mayPass (h : (view readNode g schema p).MayPass) : ∃ r, g.base = .ok r := by
  have named : Scan.MayPass (liftM (Refusal.ofBase g.base)) := by
    cases ho : schema.obj? with
    | none =>
      rw [view_of_obj?_eq_none ho] at h
      exact (Scan.mayPass_bind h).1
    | some ms =>
      obtain rfl : schema = .obj ms := by cases schema <;> cases ho; rfl
      rw [view_obj] at h
      exact (Scan.mayPass_bind h).1
  have named := Scan.mayPass_lift named
  cases hb : g.base with
  | ok r => exact ⟨r, rfl⟩
  | error b =>
    rw [hb] at named
    cases named

/-- An object that is no reference is read only if all of its keywords are. -/
theorem mayPass_obj (h : Reference.held? (.obj ms) = none)
    (hm : (view readNode g (.obj ms) p).MayPass) :
    (∀ v, Members.get? ms "$ref" = some v → Refusal.ofTypes ["string"] v = .ok ()) ∧
    ∀ m ∈ ms, (scanKeyword (Parts.of readNode g ms) m.1 (Part.of readNode g m.2) p).MayPass := by
  rw [view_obj, readNode_of_held?_eq_none h] at hm
  obtain ⟨-, hm⟩ := Scan.mayPass_bind hm
  obtain ⟨-, hm⟩ := Scan.mayPass_bind hm
  have keywords (hk : Scan.MayPass ((Parts.of readNode g ms).forM fun x =>
      scanKeyword (Parts.of readNode g ms) x.1 x.2 p)) (m : String × Json) (hmem : m ∈ ms) :=
    Scan.mayPass_forM hk _ (List.mem_map_of_mem hmem)
  cases hr : (Json.obj ms).get? "$ref" with
  | none =>
    rw [hr] at hm
    refine ⟨fun v hv => ?_, keywords hm⟩
    cases hr.symm.trans hv
  | some v =>
    rw [hr] at hm
    obtain ⟨typed, hm⟩ := Scan.mayPass_bind hm
    refine ⟨fun w hw => ?_, keywords hm⟩
    obtain rfl : v = w := Option.some.inj (hr.symm.trans hw)
    exact Scan.mayPass_lift typed

theorem passes_obj (h : Reference.held? (.obj ms) = none) {r : Uri.Resource}
    (hb : g.base = .ok r)
    (hr : ∀ v, Members.get? ms "$ref" = some v → Refusal.ofTypes ["string"] v = .ok ())
    (hk : ∀ m ∈ ms, (scanKeyword (Parts.of readNode g ms) m.1 (Part.of readNode g m.2) p).Passes) :
    (view readNode g (.obj ms) p).Passes := by
  have keywords : Scan.Passes ((Parts.of readNode g ms).forM fun x =>
      scanKeyword (Parts.of readNode g ms) x.1 x.2 p) := by
    refine Scan.passes_forM fun x hx => ?_
    obtain ⟨m, hm, rfl⟩ := List.mem_map.1 hx
    exact hk m hm
  rw [view_obj, readNode_of_held?_eq_none h, hb]
  refine Scan.passes_bind (Scan.passes_lift rfl) (Scan.passes_bind (Scan.passes_lift rfl) ?_)
  cases hv : (Json.obj ms).get? "$ref" with
  | none => exact keywords
  | some v => exact Scan.passes_bind (Scan.passes_lift (hr v hv)) keywords

theorem rel_readNode {R : Scan → Scan → Prop} (hR : Congruence R)
    (hb : R (liftM (Refusal.ofBase f.base)) (liftM (Refusal.ofBase g.base)))
    (hm : ∀ r, Reference.held? schema = some r → R (f.lead r p) (g.lead r q))
    (hps : R (ps.forM fun x => scanKeyword ps x.1 x.2 p)
      (ps'.forM fun x => scanKeyword ps' x.1 x.2 q)) :
    R (readNode f schema ps p) (readNode g schema ps' q) := by
  cases h : Reference.held? schema with
  | some r =>
    rw [readNode_of_held? h, readNode_of_held? h]
    exact hR.bind hb (hR.bind (hR.lift _) (hm r h))
  | none =>
    rw [readNode_of_held?_eq_none h, readNode_of_held?_eq_none h]
    refine hR.bind hb (hR.bind (hR.lift _) ?_)
    cases schema.get? "$ref" with
    | none => exact hps
    | some v => exact hR.bind (hR.lift _) hps

end

section
variable {a b : Base → String → Pointer → Scan} {schema : Json} {x y : Base}

/-- **Reading.** Readings of a schema are related when the steps that meet the references in it
are, and what is known of the bases relates these. -/
theorem reading_congr {R : Scan → Scan → Prop} (hR : Congruence R)
    {T : Json → Base → Base → Prop} (hT : Inherited T)
    (hbase : ∀ s x y, T s x y → R (liftM (Refusal.ofBase x)) (liftM (Refusal.ofBase y)))
    (h : ∀ s x y r, T s x y → Reference.held? s = some r → ∀ p q, R (a x r p) (b y r q))
    (hs : T schema x y) (p q : Pointer) :
    R (view readNode ⟨x, a⟩ schema p) (view readNode ⟨y, b⟩ schema q) := by
  induction schema using schemaInduction generalizing x y p q with
  | h schema ih =>
    have inside : ∀ s ∈ Reference.subschemas schema, ∀ p q,
        R (readWithin ⟨x, a⟩ s p) (readWithin ⟨y, b⟩ s q) :=
      fun s hin => ih s hin (hT _ _ _ hs s hin)
    have held : ∀ r, Reference.held? schema = some r → R (a x r p) (b y r q) :=
      fun r hr => h _ _ _ r hs hr p q
    cases ho : schema.obj? with
    | none =>
      rw [view_of_obj?_eq_none ho, view_of_obj?_eq_none ho]
      exact rel_readNode hR (hbase _ _ _ hs) held hR.pass
    | some ms =>
      obtain rfl : schema = .obj ms := by cases schema <;> cases ho; rfl
      rw [view_obj, view_obj]
      exact rel_readNode hR (hbase _ _ _ hs) held
        (hR.forM fun m hm => rel_scanKeyword hR inside hm p q)

/-- Readings of a schema in one place are related when the steps that meet the references are. -/
theorem reading_congr_of_refers {R : Scan → Scan → Prop} (hR : Congruence R)
    (h : ∀ c r, Refers ⟨x, schema⟩ c r → ∀ p q, R (a c r p) (b c r q)) (p q : Pointer) :
    R (view readNode ⟨x, a⟩ schema p) (view readNode ⟨x, b⟩ schema q) := by
  refine reading_congr hR (inherited_refers fun c r => ∀ p q, R (a c r p) (b c r q)) ?_ ?_
    ⟨rfl, h⟩ p q
  · rintro s x y ⟨rfl, -⟩
    exact hR.lift _
  · rintro s x y r ⟨rfl, hs⟩ hr
    exact hs x r (.held hr)

/-- A schema without references that was read once can always be read, where what it names can be
named. -/
theorem reading_follows (h : NoReferences schema) (hxy : Beside x y)
    (a b : Base → String → Pointer → Scan) (p q : Pointer) :
    Follows (view readNode ⟨x, a⟩ schema p) (view readNode ⟨y, b⟩ schema q) := by
  refine reading_congr Scan.congruence_follows inherited_beside ?_ ?_ ⟨h, hxy⟩ p q
  · rintro s x y ⟨-, hxy⟩ named
    have named := Scan.mayPass_lift named
    cases x with
    | error b => cases named
    | ok r =>
      obtain ⟨r', rfl, -⟩ := hxy r rfl
      exact Scan.passes_lift rfl
  · rintro s x y r ⟨hs, -⟩ hr
    exact absurd (.held hr) (hs r)

end

end EntitySchema.Draft7
