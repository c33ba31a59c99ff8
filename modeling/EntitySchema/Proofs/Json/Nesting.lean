import EntitySchema.Proofs.Json.Members

/-!
# Values inside values

The items of an array and the values of the members of an object are less deep than the whole, which
gives recursion over nested values. `children` lists them, and `values` lists what is in a value at
any depth. A value is settled when no object in it repeats a key; then the same holds of
its parts (`settled_arr`, `settled_obj`), and every member is what its key finds.
-/

namespace EntitySchema

theorem map_eq_self_iff {α : Type} {f : α → α} {xs : List α} :
    xs.map f = xs ↔ ∀ x ∈ xs, f x = x := by
  have := List.map_inj_left (l := xs) (f := f) (g := id)
  rwa [List.map_id] at this

namespace Members

variable {α : Type} {ms more : List (String × α)} {k : String} {v : α}

theorem insert_of_not_mem (h : k ∉ keys ms) : insert ms k v = ms ++ [(k, v)] := by
  induction ms with
  | nil => rfl
  | cons m rest ih =>
    obtain ⟨j, w⟩ := m
    simp only [keys, List.map_cons, List.mem_cons, not_or] at h ih
    rw [insert, if_neg (Ne.symm h.1), ih h.2, List.cons_append]

/-- A key that comes later is new. -/
theorem not_mem_of_nodup {m : String × α} (h : (keys (ms ++ m :: more)).Nodup) : m.1 ∉ keys ms := by
  intro hmem
  rw [keys, List.map_append] at h
  exact (List.nodup_append.1 h).2.2 _ hmem _ (by simp) rfl

theorem erase_of_not_mem (h : k ∉ keys ms) : erase ms k = ms :=
  List.filter_eq_self.2 fun m hm => by
    simpa using fun hk : m.1 = k => h (hk ▸ mem_keys_of_mem hm)

theorem insertAll_of_nodup (h : (keys (ms ++ more)).Nodup) : insertAll ms more = ms ++ more := by
  induction more generalizing ms with
  | nil => rw [insertAll_nil, List.append_nil]
  | cons m rest ih =>
    have appended : ms ++ m :: rest = insert ms m.1 m.2 ++ rest := by
      rw [insert_of_not_mem (not_mem_of_nodup h), List.append_assoc, List.singleton_append]
    rw [insertAll_cons, appended]
    exact ih (appended ▸ h)

/-- Where keys are distinct there is nothing to merge. -/
theorem ofList_of_nodup (h : (keys ms).Nodup) : ofList ms = ms := insertAll_of_nodup h

end Members

namespace Json

variable {xs : List Json} {ms : Members} {x : Json}

/-! ## Depth -/

theorem depth_pos (v : Json) : 0 < v.depth := by
  cases v <;> simp only [Json.depth] <;> omega

theorem depth_le_of_mem_items (h : x ∈ xs) : x.depth ≤ Json.depthItems xs := by
  induction xs with
  | nil => cases h
  | cons y ys ih =>
    simp only [Json.depthItems]
    rcases List.mem_cons.1 h with rfl | h
    · omega
    · have := ih h
      omega

theorem depth_le_of_mem_members {m : String × Json} (h : m ∈ ms) :
    m.2.depth ≤ Json.depthMembers ms := by
  induction ms with
  | nil => cases h
  | cons n ns ih =>
    simp only [Json.depthMembers]
    rcases List.mem_cons.1 h with rfl | h
    · omega
    · have := ih h
      omega

theorem depth_lt_of_mem_arr (h : x ∈ xs) : x.depth < (Json.arr xs).depth := by
  have := depth_le_of_mem_items h
  simp only [Json.depth]
  omega

theorem depth_lt_of_mem_obj {m : String × Json} (h : m ∈ ms) : m.2.depth < (Json.obj ms).depth := by
  have := depth_le_of_mem_members h
  simp only [Json.depth]
  omega

theorem exists_mem_of_get? {v w : Json} {k : String} (h : v.get? k = some w) :
    ∃ ms, v = .obj ms ∧ (k, w) ∈ ms := by
  obtain ⟨ms, hms, h⟩ := Option.bind_eq_some_iff.1 h
  cases v <;> cases hms
  exact ⟨ms, rfl, Members.mem_of_get? h⟩

/-! ## Children -/

/-- The values right below a value. -/
def children : Json → List Json
  | .arr xs => xs
  | .obj ms => ms.map Prod.snd
  | _ => []

theorem depth_lt_of_mem_children {v : Json} (h : x ∈ v.children) : x.depth < v.depth := by
  cases v with
  | arr xs => exact depth_lt_of_mem_arr h
  | obj ms =>
    obtain ⟨m, hm, rfl⟩ := List.mem_map.1 h
    exact depth_lt_of_mem_obj hm
  | _ => cases h

theorem sizeMembers_eq (ms : Members) : sizeMembers ms = sizeItems (ms.map Prod.snd) := by
  induction ms with
  | nil => rfl
  | cons m ms ih => rw [sizeMembers, ih, List.map_cons, sizeItems]

/-- A value is as large as what is right below it, and itself. -/
theorem size_eq (v : Json) : v.size = 1 + sizeItems v.children := by
  cases v with
  | arr xs => rw [size, children]
  | obj ms => rw [size, children, sizeMembers_eq]
  | _ => rfl

mutual

/-- A value and the values in it. -/
def values : Json → List Json
  | .arr xs => .arr xs :: valuesItems xs
  | .obj ms => .obj ms :: valuesMembers ms
  | v => [v]

def valuesItems : List Json → List Json
  | [] => []
  | x :: xs => values x ++ valuesItems xs

def valuesMembers : List (String × Json) → List Json
  | [] => []
  | (_, v) :: ms => values v ++ valuesMembers ms

end

theorem self_mem_values (v : Json) : v ∈ v.values := by
  cases v <;> exact List.mem_cons_self

theorem mem_valuesItems : x ∈ valuesItems xs ↔ ∃ y ∈ xs, x ∈ y.values := by
  induction xs with
  | nil => simp [valuesItems]
  | cons y ys ih => simp [valuesItems, ih]

theorem mem_valuesMembers : x ∈ valuesMembers ms ↔ ∃ m ∈ ms, x ∈ m.2.values := by
  induction ms with
  | nil => simp [valuesMembers]
  | cons m rest ih =>
    simp only [valuesMembers, List.mem_append, ih, List.mem_cons, exists_eq_or_imp]

theorem mem_values_arr {y : Json} (hy : y ∈ xs) (h : x ∈ y.values) : x ∈ (Json.arr xs).values :=
  List.mem_cons_of_mem _ (mem_valuesItems.2 ⟨y, hy, h⟩)

theorem mem_values_obj {m : String × Json} (hm : m ∈ ms) (h : x ∈ m.2.values) :
    x ∈ (Json.obj ms).values :=
  List.mem_cons_of_mem _ (mem_valuesMembers.2 ⟨m, hm, h⟩)

/-! ## Repeated keys -/

/-- No object in the value repeats a key. Text may hold other values; `settle` makes them such. -/
def Settled (v : Json) : Prop := v.settle = v

instance (v : Json) : Decidable v.Settled := inferInstanceAs (Decidable (v.settle = v))

theorem settleItems_eq (xs : List Json) : settleItems xs = xs.map settle := by
  induction xs with
  | nil => rfl
  | cons x xs ih => rw [settleItems, ih, List.map_cons]

theorem settleMembers_eq (ms : Members) :
    settleMembers ms = ms.map fun m => (m.1, m.2.settle) := by
  induction ms with
  | nil => rfl
  | cons m ms ih => rw [settleMembers, ih, List.map_cons]

theorem settled_arr : (Json.arr xs).Settled ↔ ∀ x ∈ xs, x.Settled := by
  simp only [Settled, settle, settleItems_eq, arr.injEq, map_eq_self_iff]

theorem settled_obj : (Json.obj ms).Settled ↔
    (Members.keys ms).Nodup ∧ ∀ m ∈ ms, m.2.Settled := by
  have merged (hn : (Members.keys ms).Nodup) :
      Members.ofList (settleMembers ms) = ms.map fun m => (m.1, m.2.settle) := by
    rw [settleMembers_eq, Members.ofList_of_nodup]
    rwa [Members.keys_map settle]
  simp only [Settled, settle, obj.injEq]
  constructor
  · intro h
    have hn : (Members.keys ms).Nodup := h ▸ Members.nodup_keys_ofList
    rw [merged hn, map_eq_self_iff] at h
    exact ⟨hn, fun m hm => congrArg Prod.snd (h m hm)⟩
  · rintro ⟨hn, h⟩
    rw [merged hn, map_eq_self_iff]
    exact fun m hm => Prod.ext rfl (h m hm)

/-- Settling a value leaves no repeated key, at any depth. -/
theorem settled_settle (v : Json) : v.settle.Settled := by
  cases v with
  | arr xs =>
    rw [settle, settleItems_eq, settled_arr]
    intro x hx
    obtain ⟨y, hy, rfl⟩ := List.mem_map.1 hx
    have := depth_lt_of_mem_arr hy
    exact settled_settle y
  | obj ms =>
    rw [settle, settleMembers_eq, settled_obj]
    refine ⟨Members.nodup_keys_ofList, fun m hm => ?_⟩
    obtain ⟨n, hn, rfl⟩ := List.mem_map.1 (Members.mem_of_mem_ofList hm)
    have := depth_lt_of_mem_obj hn
    exact settled_settle n.2
  | _ => rfl
termination_by v.depth

theorem Settled.of_get? {v w : Json} {k : String} (hv : v.Settled) (h : v.get? k = some w) :
    w.Settled := by
  obtain ⟨ms, rfl, hmem⟩ := exists_mem_of_get? h
  exact (settled_obj.1 hv).2 _ hmem

end Json

end EntitySchema
