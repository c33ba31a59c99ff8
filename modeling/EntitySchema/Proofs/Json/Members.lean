import EntitySchema.Json.Basic
import EntitySchema.Proofs.Outcome

/-!
# Entries by key

How a look-up sees what is done to entries: a map over the values keeps the keys, and inserting
entries one after the other lets the last one of a key win (`get?_insertAll`). Where keys are
distinct, an entry is what the look-up of its key gives.
-/

namespace EntitySchema.Members

variable {α β : Type} {ms more : List (String × α)} {j k : String} {v : α}

/-! ## Look-up and membership -/

theorem get?_map (g : α → β) (ms : List (String × α)) (k : String) :
    get? (ms.map fun m => (m.1, g m.2)) k = (get? ms k).map g := by
  induction ms with
  | nil => rfl
  | cons m rest ih =>
    simp only [List.map_cons, get?]
    split
    · rfl
    · exact ih

theorem keys_map (g : α → β) (ms : List (String × α)) :
    keys (ms.map fun m => (m.1, g m.2)) = keys ms := by
  simp [keys]

theorem get?_singleton {w : α} : get? [(j, v)] k = some w ↔ j = k ∧ v = w := by
  rw [get?_cons]
  split
  · next h => simp [h]
  · next h => simp [h]

theorem mem_of_get? (h : get? ms k = some v) : (k, v) ∈ ms := by
  induction ms with
  | nil => cases h
  | cons m rest ih =>
    obtain ⟨j, w⟩ := m
    rw [get?_cons] at h
    split at h
    · next hj =>
      cases h
      subst hj
      exact List.mem_cons_self
    · exact List.mem_cons_of_mem _ (ih h)

theorem get?_isSome_iff : (get? ms k).isSome ↔ k ∈ keys ms := by
  induction ms with
  | nil => simp [keys]
  | cons m rest ih =>
    obtain ⟨j, w⟩ := m
    simp only [get?_cons, keys, List.map_cons, List.mem_cons] at ih ⊢
    split
    · next h => simp [h]
    · next h => simp [ih, Ne.symm h]

theorem get?_eq_none_iff : get? ms k = none ↔ k ∉ keys ms := by
  rw [← get?_isSome_iff, Option.not_isSome_iff_eq_none]

theorem mem_keys_of_get? (h : get? ms k = some v) : k ∈ keys ms :=
  get?_isSome_iff.1 (h ▸ rfl)

theorem exists_get?_of_mem_keys (h : k ∈ keys ms) : ∃ v, get? ms k = some v :=
  Option.isSome_iff_exists.1 (get?_isSome_iff.2 h)

theorem mem_keys_of_mem {m : String × α} (h : m ∈ ms) : m.1 ∈ keys ms := List.mem_map_of_mem h

/-- Where keys are distinct, every entry is found. -/
theorem get?_of_mem (hn : (keys ms).Nodup) (h : (k, v) ∈ ms) : get? ms k = some v := by
  induction ms with
  | nil => cases h
  | cons m rest ih =>
    obtain ⟨j, w⟩ := m
    obtain ⟨hj, hrest⟩ := List.nodup_cons.1 hn
    rw [get?_cons]
    rcases List.mem_cons.1 h with h | h
    · cases h
      exact if_pos rfl
    · rw [if_neg, ih hrest h]
      rintro rfl
      exact hj (List.mem_map.2 ⟨_, h, rfl⟩)

theorem get?_eq_some_iff (hn : (keys ms).Nodup) : get? ms k = some v ↔ (k, v) ∈ ms :=
  ⟨mem_of_get?, get?_of_mem hn⟩

theorem perm_keys {ns : List (String × α)} (h : ms.Perm ns) : (keys ms).Perm (keys ns) := h.map _

/-- Where keys are distinct, their order does not matter to a look-up. -/
theorem get?_perm {ns : List (String × α)} (hn : (keys ms).Nodup) (h : ms.Perm ns) (k : String) :
    get? ms k = get? ns k := by
  ext v
  rw [get?_eq_some_iff hn, get?_eq_some_iff ((perm_keys h).nodup hn), h.mem_iff]

/-- An entry that is found is the first one with its key. -/
theorem exists_append_of_get? (h : get? ms k = some v) :
    ∃ before after, ms = before ++ (k, v) :: after ∧ k ∉ keys before := by
  induction ms with
  | nil => cases h
  | cons m rest ih =>
    obtain ⟨j, w⟩ := m
    rw [get?_cons] at h
    split at h
    · next hj =>
      cases h
      subst hj
      exact ⟨[], rest, rfl, List.not_mem_nil⟩
    · next hj =>
      obtain ⟨before, after, rfl, hk⟩ := ih h
      exact ⟨(j, w) :: before, after, rfl, List.not_mem_cons_of_ne_of_not_mem (Ne.symm hj) hk⟩

theorem get?_append (ms more : List (String × α)) (k : String) :
    get? (ms ++ more) k = (get? ms k).or (get? more k) := by
  induction ms with
  | nil => rfl
  | cons m rest ih =>
    rw [List.cons_append, get?_cons, get?_cons, ih]
    split <;> rfl

theorem get?_append_cons {before : List (String × α)} (h : k ∉ keys before)
    (after : List (String × α)) : get? (before ++ (k, v) :: after) k = some v := by
  rw [get?_append, get?_eq_none_iff.2 h, Option.none_or]
  exact if_pos rfl

theorem insert_append_cons {before : List (String × α)} (h : k ∉ keys before)
    (after : List (String × α)) (w : α) :
    insert (before ++ (k, v) :: after) k w = before ++ (k, w) :: after := by
  induction before with
  | nil => exact if_pos rfl
  | cons m rest ih =>
    obtain ⟨hk, hrest⟩ := not_or.1 (mt List.mem_cons.2 h)
    exact (if_neg (Ne.symm hk)).trans (congrArg (m :: ·) (ih hrest))

/-! ## Filters -/

theorem get?_filter (s : String → Bool) (ms : List (String × α)) (k : String) :
    get? (ms.filter fun m => s m.1) k = if s k then get? ms k else none := by
  induction ms with
  | nil => simp
  | cons m rest ih =>
    obtain ⟨j, w⟩ := m
    rw [List.filter_cons]
    by_cases hjk : j = k
    · subst hjk
      cases hs : s j <;> simp_all [get?_cons]
    · cases hs : s j <;> simp [get?_cons, hjk, ih]

theorem nodup_keys_filter (s : String × α → Bool) (h : (keys ms).Nodup) :
    (keys (ms.filter s)).Nodup :=
  h.sublist (List.filter_sublist.map _)

theorem foldl_erase (names : List String) (ms : List (String × α)) :
    names.foldl erase ms = ms.filter fun m => !names.contains m.1 := by
  induction names generalizing ms with
  | nil => simp
  | cons name names ih =>
    rw [List.foldl_cons, ih, erase, List.filter_filter]
    refine List.filter_congr fun m _ => ?_
    simp [Bool.and_comm]

/-! ## Insertion -/

/-- What is inserted under a key that a filter drops is not seen behind the filter. -/
theorem filter_insert {s : String → Bool} (hk : s k = false) :
    (insert ms k v).filter (fun m => s m.1) = ms.filter fun m => s m.1 := by
  induction ms with
  | nil => simp [insert, hk]
  | cons m rest ih =>
    obtain ⟨j, w⟩ := m
    rw [insert]
    split
    · next h => simp [h, hk]
    · simp [List.filter_cons, ih]

/-- The last value that is put under a key wins. -/
theorem insert_insert (ms : List (String × α)) (k : String) (v w : α) :
    insert (insert ms k v) k w = insert ms k w := by
  induction ms with
  | nil => simp [insert]
  | cons m rest ih =>
    obtain ⟨j, x⟩ := m
    by_cases h : j = k
    · simp [insert, h]
    · simp [insert, h, ih]

/-- A key that has a place keeps it, whatever is inserted under another key in between. -/
theorem insert_insert_of_ne (h : j ≠ k) (hk : k ∈ keys ms) (v w : α) :
    insert (insert ms j v) k w = insert (insert ms k w) j v := by
  induction ms with
  | nil => cases hk
  | cons m rest ih =>
    obtain ⟨i, x⟩ := m
    by_cases hj : i = j
    · subst hj
      simp [insert, h]
    · by_cases hi : i = k
      · subst hi
        simp [insert, hj]
      · have later : k ∈ keys rest := (List.mem_cons.1 hk).resolve_left (Ne.symm hi)
        simp [insert, hj, hi, ih later]

/-- Putting the value that is found changes nothing. -/
theorem insert_of_get? (h : get? ms k = some v) : insert ms k v = ms := by
  induction ms with
  | nil => cases h
  | cons m rest ih =>
    obtain ⟨j, w⟩ := m
    rw [get?_cons] at h
    by_cases hj : j = k
    · rw [if_pos hj] at h
      cases h
      simp [insert, hj]
    · rw [if_neg hj] at h
      simp [insert, hj, ih h]

theorem insertAll_nil (ms : List (String × α)) : insertAll ms [] = ms := rfl

theorem insertAll_cons (ms : List (String × α)) (m : String × α) (more : List (String × α)) :
    insertAll ms (m :: more) = insertAll (insert ms m.1 m.2) more := rfl

theorem insertAll_append (ms more others : List (String × α)) :
    insertAll ms (more ++ others) = insertAll (insertAll ms more) others :=
  List.foldl_append

/-- Of the inserted entries of a key the last one is found, else the old one. -/
theorem get?_insertAll_reverse (ms more : List (String × α)) (k : String) :
    get? (insertAll ms more) k = (get? more.reverse k).or (get? ms k) := by
  induction more generalizing ms with
  | nil => rfl
  | cons m rest ih =>
    rw [insertAll_cons, ih, get?_insert, List.reverse_cons, get?_append, Option.or_assoc, get?_cons]
    split <;> rfl

/-- Of the inserted entries of a key the only one is found, else the old one. -/
theorem get?_insertAll (hn : (keys more).Nodup) :
    get? (insertAll ms more) k = (get? more k).or (get? ms k) := by
  rw [get?_insertAll_reverse, get?_perm hn (List.reverse_perm more).symm]

theorem mem_keys_insert : j ∈ keys (insert ms k v) ↔ j = k ∨ j ∈ keys ms := by
  rw [← get?_isSome_iff, ← get?_isSome_iff, get?_insert]
  split
  · next h => simp [h]
  · next h => simp [Ne.symm h]

theorem mem_keys_insertAll : k ∈ keys (insertAll ms more) ↔ k ∈ keys ms ∨ k ∈ keys more := by
  induction more generalizing ms with
  | nil => simp [insertAll_nil, keys]
  | cons m rest ih =>
    have cons : k ∈ keys (m :: rest) ↔ k = m.1 ∨ k ∈ keys rest := List.mem_cons
    rw [insertAll_cons, ih, mem_keys_insert, cons, or_comm (a := k = m.1), or_assoc]

/-- What is inserted under keys that a filter drops is not seen behind the filter. -/
theorem filter_insertAll {s : String → Bool} (h : ∀ k ∈ keys more, s k = false) :
    (insertAll ms more).filter (fun m => s m.1) = ms.filter fun m => s m.1 := by
  induction more generalizing ms with
  | nil => rfl
  | cons m rest ih =>
    rw [insertAll_cons, ih fun k hk => h k (List.mem_cons_of_mem _ hk),
      filter_insert (h m.1 List.mem_cons_self)]

theorem mem_of_mem_insert {m : String × α} (h : m ∈ insert ms k v) : m = (k, v) ∨ m ∈ ms := by
  induction ms with
  | nil => exact .inl (List.mem_singleton.1 h)
  | cons n rest ih =>
    obtain ⟨j, w⟩ := n
    rw [insert] at h
    split at h
    · next hj =>
      rcases List.mem_cons.1 h with rfl | h
      · exact .inl (by rw [hj])
      · exact .inr (List.mem_cons_of_mem _ h)
    · rcases List.mem_cons.1 h with rfl | h
      · exact .inr List.mem_cons_self
      · exact (ih h).imp_right (List.mem_cons_of_mem _)

/-- Where keys are distinct, an inserted entry takes the place of the one with its key. -/
theorem forall_mem_insert (hn : (keys ms).Nodup) {P : String × α → Prop} :
    (∀ m ∈ insert ms k v, P m) ↔ P (k, v) ∧ ∀ m ∈ ms, m.1 ≠ k → P m := by
  have entry (m : String × α) : m ∈ insert ms k v ↔ m = (k, v) ∨ m ∈ ms ∧ m.1 ≠ k := by
    obtain ⟨j, w⟩ := m
    rw [← get?_eq_some_iff (nodup_keys_insert hn), get?_insert, ← get?_eq_some_iff hn]
    split
    · next h => simp [h, eq_comm]
    · next h => simp [Ne.symm h]
  simp only [entry, or_imp, forall_and, forall_eq, and_imp]

theorem mem_of_mem_insertAll {m : String × α} (h : m ∈ insertAll ms more) : m ∈ ms ∨ m ∈ more := by
  induction more generalizing ms with
  | nil => exact .inl h
  | cons n rest ih =>
    rcases ih h with h | h
    · rcases mem_of_mem_insert h with rfl | h
      · exact .inr List.mem_cons_self
      · exact .inl h
    · exact .inr (List.mem_cons_of_mem _ h)

/-- Merging entries makes no new ones. -/
theorem mem_of_mem_ofList {m : String × α} (h : m ∈ ofList ms) : m ∈ ms :=
  (mem_of_mem_insertAll h).resolve_left List.not_mem_nil

/-! ## Entries made one by one -/

/-- What is made of entries one by one is found under the same keys. -/
theorem get?_of_mapM {ε : Type} {g : String × α → Except ε β}
    {ns : List (String × β)} (h : ms.mapM (fun m => do return (m.1, ← g m)) = .ok ns) :
    keys ns = keys ms ∧ ∀ k v, get? ms k = some v →
      ∃ w, get? ns k = some w ∧ g (k, v) = .ok w := by
  induction ms generalizing ns with
  | nil =>
    cases h
    exact ⟨rfl, nofun⟩
  | cons m rest ih =>
    obtain ⟨j, x⟩ := m
    rw [List.mapM_cons] at h
    obtain ⟨y, hy, h⟩ := bind_eq_ok.1 h
    obtain ⟨ys, hys, h⟩ := bind_eq_ok.1 h
    obtain ⟨w, hw, hy⟩ := bind_eq_ok.1 hy
    cases hy
    cases h
    obtain ⟨hk, hg⟩ := ih hys
    refine ⟨congrArg (j :: ·) hk, fun k v hv => ?_⟩
    rw [get?_cons] at hv ⊢
    split at hv
    · next hjk =>
      subst hjk
      cases hv
      exact ⟨w, if_pos rfl, hw⟩
    · next hjk =>
      rw [if_neg hjk]
      exact hg k v hv

/-- An entry that was made was made of one with its key. -/
theorem mem_of_mapM {ε : Type} {g : String × α → Except ε β} {ns : List (String × β)}
    (h : ms.mapM (fun m => do return (m.1, ← g m)) = .ok ns) {n : String × β} (hn : n ∈ ns) :
    ∃ m ∈ ms, m.1 = n.1 ∧ g m = .ok n.2 := by
  obtain ⟨m, hm, hmn⟩ := (EntitySchema.mem_of_mapM h).1 n hn
  obtain ⟨w, hw, hmn⟩ := bind_eq_ok.1 hmn
  cases hmn
  exact ⟨m, hm, rfl, hw⟩

/-- Entries made for some keys have those keys. -/
theorem keys_of_mapM {ε : Type} {g : String → Except ε β} {names : List String}
    {ns : List (String × β)} (h : names.mapM (fun n => do return (n, ← g n)) = .ok ns) :
    keys ns = names := by
  induction names generalizing ns with
  | nil =>
    cases h
    rfl
  | cons n rest ih =>
    rw [List.mapM_cons] at h
    obtain ⟨entry, hentry, h⟩ := bind_eq_ok.1 h
    obtain ⟨entries, hentries, h⟩ := bind_eq_ok.1 h
    obtain ⟨w, -, hentry⟩ := bind_eq_ok.1 hentry
    cases hentry
    cases h
    exact congrArg (n :: ·) (ih hentries)

end EntitySchema.Members
