import EntitySchema.Proofs.Draft7.Identifiers
import EntitySchema.Proofs.Uri.NormalForm

/-!
# Where references lead

A reference leads from a resource that is registered along a pointer, or to what is registered under
a name. `resolve_eq_ok` says when it leads somewhere.

References are taken for the same when their locators have one normal form. They lead to the same
place if no two schemas in the document are given one name (`Unambiguous`, `eq_of_normal_eq`): a
pointer depends on the bytes it stands for only, and what is registered under names with one normal
form is the same then.

A pointer leads from counterparts to counterparts, whatever these are, as long as each step does
(`descend_transfer`).
-/

namespace EntitySchema.Draft7.Reference

variable {root : Json} {g g' : Index} {l l' : Uri.Locator} {x y : Spot} {base base' : Base}
  {r r' : String} {segment : List Char} {step : Step}

/-! ## The index of a document -/

theorem Index.mem_of_find? (h : g.find? l = some x) : (l, x) ∈ g := by
  obtain ⟨e, he, rfl⟩ := Option.map_eq_some_iff.1 h
  obtain ⟨mem, name⟩ := List.mem_filter.1 (List.mem_of_getLast? he)
  obtain rfl : e.1 = l := of_decide_eq_true name
  exact mem

theorem Index.exists_find? (h : (l, x) ∈ g) : ∃ y, g.find? l = some y := by
  have mem : (l, x) ∈ g.filter fun e => e.1 = l := List.mem_filter.2 ⟨h, decide_eq_true rfl⟩
  rw [find?, List.getLast?_eq_some_getLast (List.ne_nil_of_mem mem)]
  exact ⟨_, rfl⟩

theorem Index.find?_eq_none_iff : g.find? l = none ↔ ∀ x, (l, x) ∉ g := by
  constructor
  · intro h x hx
    obtain ⟨y, hy⟩ := exists_find? hx
    cases h.symm.trans hy
  · intro h
    refine Option.eq_none_iff_forall_ne_some.2 fun x hx => ?_
    exact h x (mem_of_find? hx)

/-- What is registered later counts. -/
theorem Index.find?_append : Index.find? (g ++ g') l = (g'.find? l).or (g.find? l) := by
  simp only [find?, List.filter_append, List.getLast?_append, Option.map_or]

/-- A spot is registered as the whole document, or under the name that it gives itself. -/
theorem mem_own : (l, x) ∈ Index.own root ↔
    (x = top root ∧ x.base = .ok l.resource ∧ l.fragment = none) ∨
    (Contains (top root) x ∧ claim? x = some l) := by
  unfold Index.own
  dsimp only
  rw [List.mem_append, List.mem_filterMap]
  refine or_congr ?_ ?_
  · cases hb : (top root).base with
    | ok r =>
      rw [List.mem_singleton, Prod.mk.injEq]
      constructor
      · rintro ⟨rfl, rfl⟩
        exact ⟨rfl, hb, rfl⟩
      · rintro ⟨rfl, hr, hf⟩
        obtain rfl := Except.ok.inj (hb.symm.trans hr)
        exact ⟨by rw [← hf], rfl⟩
    | error b =>
      refine iff_of_false List.not_mem_nil ?_
      rintro ⟨rfl, hr, -⟩
      cases hb.symm.trans hr
  · constructor
    · rintro ⟨y, hy, h⟩
      obtain ⟨l', hl, h⟩ := Option.map_eq_some_iff.1 h
      obtain ⟨rfl, rfl⟩ := Prod.mk.inj h
      exact ⟨mem_spots_iff.1 hy, hl⟩
    · rintro ⟨hx, hl⟩
      exact ⟨x, mem_spots_iff.2 hx, by rw [hl]; rfl⟩

/-- What stands under a name is relative to the resource of the name. -/
theorem base_of_claim? (h : claim? x = some l) : x.base = .ok l.resource := by
  unfold claim? at h
  cases hb : x.base with
  | error b =>
    rw [hb] at h
    cases h
  | ok r =>
    rw [hb] at h
    dsimp only at h
    split at h
    · cases h
      rfl
    · obtain ⟨name, -, rfl⟩ := Option.map_eq_some_iff.1 h
      rfl

theorem base_of_mem_own (h : (l, x) ∈ Index.own root) : x.base = .ok l.resource := by
  rcases mem_own.1 h with ⟨-, hb, -⟩ | ⟨-, hl⟩
  · exact hb
  · exact base_of_claim? hl

/-- What the index of a document has under a name. -/
theorem Index.find?_of : (Index.of root).find? l =
    ((own root).find? l).or (Meta.index.find? l) := find?_append

theorem child_arr_eq_ok {pointer : String} {xs : List Json} {w : Json} :
    child pointer (.arr xs) segment = .ok (step, w) ↔
      ∃ i, index? segment = some i ∧ xs[i]? = some w ∧ .index i = step := by
  unfold child
  cases index? segment with
  | none => simp
  | some i =>
    dsimp only
    cases hx : xs[i]? <;> simp [hx, and_comm]

theorem child_obj_eq_ok {pointer : String} {ms : Members} {w : Json} :
    child pointer (.obj ms) segment = .ok (step, w) ↔
      Members.get? ms (String.ofList (Pointer.unescape segment)) = some w ∧
        .key (String.ofList (Pointer.unescape segment)) = step := by
  unfold child
  dsimp only
  cases Members.get? ms _ <;> simp [and_comm]

/-- A pointer leads from two spots to two others that are related as these are, where each step
does. -/
theorem descend_transfer {pointer pointer' : String} {Q : Spot → Spot → Prop}
    (hbase : ∀ x x', Q x x' → x.base = x'.base)
    (hstep : ∀ x x' segment step v, Q x x' → child pointer x.schema segment = .ok (step, v) →
      ∃ v', child pointer' x'.schema segment = .ok (step, v') ∧
        Q ⟨x.base, v⟩ ⟨x.base, v'⟩ ∧ Q ⟨enter x.base v, v⟩ ⟨enter x.base v', v'⟩)
    {x x' y : Spot} (h : Q x x') {way : List Step} {segments : List (List Char)}
    (hy : descend pointer way x segments = .ok y) :
    ∃ y', descend pointer' way x' segments = .ok y' ∧ Q y y' := by
  induction segments generalizing way x x' with
  | nil =>
    cases hy
    exact ⟨x', rfl, h⟩
  | cons segment rest ih =>
    obtain ⟨⟨step, v⟩, hv, hy⟩ := bind_eq_ok.1 hy
    obtain ⟨r, named, hy⟩ := bind_eq_ok.1 hy
    obtain ⟨v', hv', outside, inside⟩ := hstep x x' segment step v h hv
    have next : Q (x.next (way ++ [step]) v) (x'.next (way ++ [step]) v') := by
      unfold Spot.next
      rw [← hbase x x' h]
      split
      · exact inside
      · exact outside
    obtain ⟨y', hy', hQ⟩ := ih next hy
    refine ⟨y', bind_eq_ok.2 ⟨_, hv', bind_eq_ok.2 ⟨r, ?_, ?_⟩⟩, hQ⟩
    · exact (hbase _ _ next).symm.trans named
    · rw [← hbase _ _ next, ← hbase x x' h]
      exact hy'

/-- A locator names the whole resource, a place that a pointer leads to, or one with a name. -/
theorem placeIn_eq_ok : placeIn g x l = .ok y ↔
    (l.fragment.getD [] = [] ∧ y = x) ∨
    (∃ rest decoded, l.fragment = some ('/' :: rest) ∧ Uri.decode rest = some decoded ∧
      descend (String.ofList ('/' :: rest)) [] x (Text.splitOn '/' decoded) = .ok y) ∨
    (∃ c name, l.fragment = some (c :: name) ∧ c ≠ '/' ∧ g.find? l = some y) := by
  unfold placeIn
  rcases l.fragment with _ | _ | ⟨c, rest⟩
  · simp [eq_comm]
  · simp [eq_comm]
  · by_cases hc : c = '/'
    · subst hc
      cases hd : Uri.decode rest <;> simp [hd]
    · cases hf : g.find? l with
      | some z => simp [hc]
      | none =>
        simp [hc]
        split <;> simp

/-- A reference leads from a resource that is registered to a place in it. -/
theorem resolve_eq_ok {k : Uri.Locator} : resolve g base r = .ok (k, y) ↔
    ∃ b l x, base = .ok b ∧ locate b r = .ok l ∧ g.find? ⟨l.resource, none⟩ = some x ∧
      placeIn g x l = .ok y ∧ l.normal = k := by
  unfold resolve
  simp only [bind_eq_ok]
  constructor
  · rintro ⟨b, rfl, l, hl, h⟩
    cases hx : g.find? ⟨l.resource, none⟩ with
    | none =>
      rw [hx] at h
      cases h
    | some x =>
      rw [hx] at h
      obtain ⟨y', hy, h⟩ := bind_eq_ok.1 h
      cases h
      exact ⟨b, l, x, rfl, hl, hx, hy, rfl⟩
  · rintro ⟨b, l, x, rfl, hl, hx, hy, rfl⟩
    refine ⟨b, rfl, l, hl, ?_⟩
    rw [hx]
    exact bind_eq_ok.2 ⟨y, hy, rfl⟩

/-! ## Normal forms -/

/-- No two schemas in a document are given one name. -/
def Unambiguous (root : Json) : Prop :=
  ∀ e ∈ Index.own root, ∀ e' ∈ Index.own root, e.1.normal = e'.1.normal →
    e.2.schema = e'.2.schema

instance (root : Json) : Decidable (Unambiguous root) :=
  inferInstanceAs (Decidable (∀ e ∈ Index.own root, ∀ e' ∈ Index.own root,
    e.1.normal = e'.1.normal → e.2.schema = e'.2.schema))

theorem Unambiguous.eq (h : Unambiguous root) (hx : (l, x) ∈ Index.own root)
    (hy : (l', y) ∈ Index.own root) (hl : l.normal = l'.normal) : x = y := by
  have resource : l.resource = l'.resource := congrArg (·.resource) hl
  have base : x.base = y.base := by rw [base_of_mem_own hx, base_of_mem_own hy, resource]
  have schema : x.schema = y.schema := h _ hx _ hy hl
  cases x
  cases y
  simp_all

end EntitySchema.Draft7.Reference
