import Mathlib.Data.List.Forall2
import Mathlib.Logic.Basic

/-!
# Outcomes

When steps that may fail succeed: one after the other, with their errors reworded, or looked at as
an optional value.
-/

namespace EntitySchema

variable {ε δ α β : Type}

theorem bind_eq_ok {x : Except ε α} {g : α → Except ε β} {b : β} :
    x >>= g = .ok b ↔ ∃ a, x = .ok a ∧ g a = .ok b := by
  cases x <;> simp [bind, Except.bind]

theorem bind_eq_error {x : Except ε α} {g : α → Except ε β} {e : ε} :
    x >>= g = .error e ↔ x = .error e ∨ ∃ a, x = .ok a ∧ g a = .error e := by
  cases x <;> simp [bind, Except.bind]

theorem map_eq_ok {x : Except ε α} {g : α → β} {b : β} :
    x.map g = .ok b ↔ ∃ a, x = .ok a ∧ g a = b := by
  cases x <;> simp [Except.map]

theorem map_map {γ : Type} (x : Except ε α) (g : α → β) (h : β → γ) :
    (x.map g).map h = x.map fun a => h (g a) := by
  cases x <;> rfl

theorem map_eq_error {x : Except ε α} {g : α → β} {e : ε} :
    x.map g = .error e ↔ x = .error e := by
  cases x <;> simp [Except.map]

theorem mapError_eq_ok {x : Except ε α} {g : ε → δ} {a : α} :
    x.mapError g = .ok a ↔ x = .ok a := by
  cases x with
  | error e =>
    show Except.error (g e) = Except.ok a ↔ _
    simp only [reduceCtorEq]
  | ok b =>
    show Except.ok b = Except.ok a ↔ _
    rw [Except.ok.injEq, Except.ok.injEq]

theorem mapError_eq_error {x : Except ε α} {g : ε → δ} {d : δ} :
    x.mapError g = .error d ↔ ∃ e, x = .error e ∧ g e = d := by
  cases x with
  | error e =>
    show Except.error (g e) = Except.error d ↔ _
    simp only [Except.error.injEq, exists_eq_left']
  | ok a =>
    show Except.ok a = Except.error d ↔ _
    simp only [reduceCtorEq, false_and, exists_false]

theorem toOption_eq_some {x : Except ε α} {a : α} :
    x.toOption = some a ↔ x = .ok a := by
  cases x <;> simp [Except.toOption]

theorem exists_of_isOk {x : Except ε α} (h : x.isOk = true) : ∃ a, x = .ok a := by
  cases x with
  | error _ => cases h
  | ok a => exact ⟨a, rfl⟩

/-- What every step keeps holds at the end of a run. -/
theorem foldlM_induction {step : β → α → Except ε β} {P : β → Prop} {xs : List α} {s t : β}
    (keep : ∀ x ∈ xs, ∀ s t, P s → step s x = .ok t → P t) (start : P s)
    (h : xs.foldlM step s = .ok t) : P t := by
  induction xs generalizing s with
  | nil =>
    cases h
    exact start
  | cons x xs ih =>
    rw [List.foldlM_cons] at h
    obtain ⟨u, hu, h⟩ := bind_eq_ok.1 h
    exact ih (fun y hy => keep y (List.mem_cons_of_mem _ hy)) (keep x (by simp) s u start hu) h

/-- A run whose steps collect what they are given, one after the other. -/
theorem foldlM_collect {f : β → α → Except ε β} {l : List α} (put : List α → β)
    (h : ∀ done x rest, done ++ x :: rest = l → f (put done) x = .ok (put (done ++ [x]))) :
    l.foldlM f (put []) = .ok (put l) := by
  have run (rest : List α) : ∀ done, done ++ rest = l →
      rest.foldlM f (put done) = .ok (put l) := by
    induction rest with
    | nil =>
      rintro done rfl
      rw [List.append_nil]
      rfl
    | cons x rest ih =>
      intro done hl
      rw [List.foldlM_cons, h done x rest hl]
      exact ih (done ++ [x]) (by rw [List.append_assoc, List.singleton_append, hl])
  exact run l [] rfl

theorem forM_eq_ok {f : α → Except ε Unit} {xs : List α} :
    xs.forM f = .ok () ↔ ∀ x ∈ xs, f x = .ok () := by
  induction xs with
  | nil => exact ⟨fun _ => nofun, fun _ => rfl⟩
  | cons x xs ih =>
    have steps : (x :: xs).forM f = (f x >>= fun _ => xs.forM f) := rfl
    rw [steps, bind_eq_ok, List.forall_mem_cons, ← ih]
    exact ⟨fun ⟨_, hx, h⟩ => ⟨hx, h⟩, fun ⟨hx, h⟩ => ⟨(), hx, h⟩⟩

/-- A check of a list fails at the first item that does not pass. -/
theorem forM_eq_error_iff {f : α → Except ε Unit} {xs : List α} {e : ε} :
    xs.forM f = .error e ↔ ∃ good bad more, xs = good ++ bad :: more ∧
      (∀ x ∈ good, f x = .ok ()) ∧ f bad = .error e := by
  induction xs with
  | nil => exact ⟨nofun, fun ⟨good, bad, more, h, _⟩ => by simp at h⟩
  | cons x xs ih =>
    have steps : (x :: xs).forM f = (f x >>= fun _ => xs.forM f) := rfl
    rw [steps, bind_eq_error]
    constructor
    · rintro (hx | ⟨⟨⟩, hx, h⟩)
      · exact ⟨[], x, xs, rfl, nofun, hx⟩
      · obtain ⟨good, bad, more, rfl, hgood, hbad⟩ := ih.1 h
        exact ⟨x :: good, bad, more, rfl, List.forall_mem_cons.2 ⟨hx, hgood⟩, hbad⟩
    · rintro ⟨_ | ⟨y, good⟩, bad, more, hxs, hgood, hbad⟩
      · cases hxs
        exact .inl hbad
      · cases hxs
        obtain ⟨hx, hgood⟩ := List.forall_mem_cons.1 hgood
        exact .inr ⟨(), hx, ih.2 ⟨good, bad, more, rfl, hgood, hbad⟩⟩

/-- The results on a list are those of its items, in order. -/
theorem mapM_eq_ok_iff {f : α → Except ε β} {xs : List α} {ys : List β} :
    xs.mapM f = .ok ys ↔ List.Forall₂ (fun x y => f x = .ok y) xs ys := by
  induction xs generalizing ys with
  | nil =>
    rw [List.forall₂_nil_left_iff, List.mapM_nil]
    exact ⟨fun h => (Except.ok.inj h).symm, fun h => h ▸ rfl⟩
  | cons x xs ih =>
    simp only [List.mapM_cons, bind_eq_ok, ih, List.forall₂_cons_left_iff]
    constructor
    · rintro ⟨y, hy, ys', hys, h⟩
      exact ⟨y, ys', hy, hys, (Except.ok.inj h).symm⟩
    · rintro ⟨y, ys', hy, hys, rfl⟩
      exact ⟨y, hy, ys', hys, rfl⟩

/-- Where every item has a result, so has the list. -/
theorem mapM_eq_ok {f : α → Except ε β} {g : α → β} {xs : List α}
    (h : ∀ x ∈ xs, f x = .ok (g x)) : xs.mapM f = .ok (xs.map g) :=
  mapM_eq_ok_iff.2 (List.forall₂_map_right_iff.2 (List.forall₂_same.2 h))

/-- Where every step succeeds, each result is that of an item, and each item has a result. -/
theorem mem_of_mapM {f : α → Except ε β} {xs : List α} {ys : List β} (h : xs.mapM f = .ok ys) :
    (∀ y ∈ ys, ∃ x ∈ xs, f x = .ok y) ∧ ∀ x ∈ xs, ∃ y ∈ ys, f x = .ok y := by
  have results := mapM_eq_ok_iff.1 h
  clear h
  induction results with
  | nil => exact ⟨nofun, nofun⟩
  | cons hx _ ih =>
    obtain ⟨back, forth⟩ := ih
    simp only [List.mem_cons, exists_eq_or_imp, forall_eq_or_imp]
    exact ⟨⟨.inl hx, fun y hy => .inr (back y hy)⟩, .inl hx, fun z hz => .inr (forth z hz)⟩

/-- A list fails where the first of its items fails. -/
theorem mapM_eq_error_iff {f : α → Except ε β} {xs : List α} {e : ε} :
    xs.mapM f = .error e ↔ ∃ good bad more ys, xs = good ++ bad :: more ∧
      List.Forall₂ (fun x y => f x = .ok y) good ys ∧ f bad = .error e := by
  induction xs with
  | nil => simp [pure, Except.pure]
  | cons x xs ih =>
    rw [List.mapM_cons, bind_eq_error]
    constructor
    · rintro (hx | ⟨y, hy, h⟩)
      · exact ⟨[], x, xs, [], rfl, .nil, hx⟩
      · rcases bind_eq_error.1 h with h | ⟨ys, -, h⟩
        · obtain ⟨good, bad, more, ys, rfl, hys, hbad⟩ := ih.1 h
          exact ⟨x :: good, bad, more, y :: ys, rfl, .cons hy hys, hbad⟩
        · cases h
    · rintro ⟨_ | ⟨z, good⟩, bad, more, ys, hxs, hys, hbad⟩
      · cases hxs
        exact .inl hbad
      · cases hxs
        obtain ⟨y, ys', hy, hys, -⟩ := List.forall₂_cons_left_iff.1 hys
        refine .inr ⟨y, hy, bind_eq_error.2 (.inl (ih.2 ⟨good, bad, more, ys', rfl, hys, hbad⟩))⟩

/-- Items that are all related to something are related to a list. -/
theorem exists_forall₂_iff {R : α → β → Prop} {xs : List α} :
    (∃ ys, List.Forall₂ R xs ys) ↔ ∀ x ∈ xs, ∃ y, R x y := by
  induction xs with
  | nil => simp
  | cons x xs ih =>
    rw [List.forall_mem_cons, ← ih]
    constructor
    · rintro ⟨_, _ | ⟨hx, hxs⟩⟩
      exact ⟨⟨_, hx⟩, _, hxs⟩
    · rintro ⟨⟨y, hx⟩, ys, hxs⟩
      exact ⟨y :: ys, .cons hx hxs⟩

/-- Reading undoes writing on a list if it does so on every item. -/
theorem mapM_map_eq_ok {read : β → Except ε α} {write : α → β} {xs : List α}
    (h : ∀ x ∈ xs, read (write x) = .ok x) : (xs.map write).mapM read = .ok xs := by
  rw [List.mapM_map]
  exact (mapM_eq_ok h).trans (congrArg _ (List.map_id xs))

/-! ## Successes that are kept -/

/-- Where the first succeeds, the second has the same result. -/
def Carries (x y : Except ε α) : Prop := ∀ a, x = .ok a → y = .ok a

namespace Carries

variable {x y : Except ε α}

theorem refl (x : Except ε α) : Carries x x := fun _ => id

theorem bind {f g : α → Except ε β} (hx : Carries x y) (h : ∀ a, Carries (f a) (g a)) :
    Carries (x >>= f) (y >>= g) := fun _ hb => by
  obtain ⟨a, ha, hb⟩ := bind_eq_ok.1 hb
  exact bind_eq_ok.2 ⟨a, hx a ha, h a _ hb⟩

theorem mapM {f g : α → Except ε β} {xs : List α} (h : ∀ x ∈ xs, Carries (f x) (g x)) :
    Carries (xs.mapM f) (xs.mapM g) := by
  induction xs with
  | nil => exact refl _
  | cons x xs ih =>
    rw [List.mapM_cons, List.mapM_cons]
    exact bind (h x (by simp)) fun _ =>
      bind (ih fun y hy => h y (List.mem_cons_of_mem _ hy)) fun _ => refl _

theorem mapError {e e' : ε → δ} (h : Carries x y) : Carries (x.mapError e) (y.mapError e') :=
  fun a ha => mapError_eq_ok.2 (h a (mapError_eq_ok.1 ha))

end Carries

end EntitySchema
