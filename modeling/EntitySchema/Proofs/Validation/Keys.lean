import EntitySchema.Proofs.Text.Utf8
import EntitySchema.Validation.Cache
import Mathlib.Data.List.Sort

/-!
# Keys of sets of names

The key of a set of names is sorted and repeats no name, so it is the same for two lists of names
just when they have the same names (`ValidatorKey.ofNames_eq_iff`). The order is that of the bytes
of the names (`ValidatorKey.key_is_canonical`). Names that were distinct in the first place are only
put in another order (`ValidatorKey.perm_names_ofNames`).
-/

namespace EntitySchema

variable {a b : String} {names : List String}

theorem mem_dropRepeats : a ∈ dropRepeats names ↔ a ∈ names := by
  fun_induction dropRepeats names with
  | case1 b rest ih => simp [ih]
  | case2 b c rest _ ih => rw [List.mem_cons, ih, List.mem_cons (l := c :: rest)]
  | case3 names => rfl

/-- In a sorted list, repeated names stand side by side. -/
theorem pairwise_dropRepeats (h : names.Pairwise (· ≤ ·)) :
    (dropRepeats names).Pairwise (· < ·) := by
  fun_induction dropRepeats names with
  | case1 b rest ih => exact ih (List.pairwise_cons.1 h).2
  | case2 b c rest hne ih =>
    obtain ⟨hb, hrest⟩ := List.pairwise_cons.1 h
    refine List.pairwise_cons.2 ⟨fun x hx => ?_, ih hrest⟩
    have below : b < c := lt_of_le_of_ne (hb c List.mem_cons_self) hne
    rcases List.mem_cons.1 (mem_dropRepeats.1 hx) with rfl | hx
    · exact below
    · exact lt_of_lt_of_le below ((List.pairwise_cons.1 hrest).1 x hx)
  | case3 names hnames =>
    match names with
    | [] => exact List.Pairwise.nil
    | [x] => exact List.pairwise_singleton _ x
    | x :: y :: rest => exact (hnames x y rest rfl).elim

namespace ValidatorKey

/-- The names of a list, sorted and each once. -/
def sorted (names : List String) : List String :=
  dropRepeats (names.mergeSort fun a b => decide (a ≤ b))

theorem ofNames_eq (names : List String) : ofNames names = .props (sorted names) := rfl

theorem mem_sorted : a ∈ sorted names ↔ a ∈ names := by
  rw [sorted, mem_dropRepeats, List.mem_mergeSort]

theorem pairwise_sorted (names : List String) : (sorted names).Pairwise (· < ·) :=
  pairwise_dropRepeats (List.pairwise_mergeSort' (· ≤ ·) names)

theorem nodup_sorted (names : List String) : (sorted names).Nodup :=
  (pairwise_sorted names).imp fun h => ne_of_lt h

/-- There is one way to sort a set of names. -/
theorem sorted_eq_of_mem_iff {others : List String} (ho : others.Pairwise (· < ·))
    (h : ∀ name, name ∈ names ↔ name ∈ others) : sorted names = others := by
  have same : (sorted names).Perm others :=
    (List.perm_ext_iff_of_nodup (nodup_sorted _) (ho.imp fun h => ne_of_lt h)).2 fun name => by
      rw [mem_sorted, h]
  exact same.eq_of_pairwise (fun x y _ _ hxy hyx => (lt_asymm hxy hyx).elim)
    (pairwise_sorted _) ho

/-- **The key of a set of names** depends on nothing but the set. -/
theorem ofNames_eq_iff {others : List String} :
    ofNames names = ofNames others ↔ ∀ name, name ∈ names ↔ name ∈ others := by
  rw [ofNames_eq, ofNames_eq, props.injEq]
  constructor
  · intro h name
    have same : name ∈ sorted names ↔ name ∈ sorted others := by rw [h]
    rwa [mem_sorted, mem_sorted] at same
  · intro h
    exact sorted_eq_of_mem_iff (pairwise_sorted _) fun name => by rw [mem_sorted, h]

/-- **Keys are canonical.** Two lists of names have one key just when they hold the same names. The
names of the key are those of the list, and each comes before the next by the order of their
bytes. -/
theorem key_is_canonical (names others : List String) :
    (ofNames names = ofNames others ↔ ∀ name, name ∈ names ↔ name ∈ others) ∧
    (ofNames names).names.Pairwise (fun a b => a.toUTF8.toList < b.toUTF8.toList) ∧
    ∀ name, name ∈ (ofNames names).names ↔ name ∈ names :=
  ⟨ofNames_eq_iff, (pairwise_sorted names).imp Text.toUTF8_lt_iff.2, fun _ => mem_sorted⟩

end ValidatorKey

end EntitySchema
