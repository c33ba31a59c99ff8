import EntitySchema.Proofs.Json.Pointers
import EntitySchema.Validation.Report
import Mathlib.Data.Option.Basic

/-!
# Labels and paths

The label of a value is often the way to it from a larger value. A failure below the labelled value
is then told with the label and the way that is left, and one would like this to be the whole way.
It is, as long as the steps are named plainly. The label is joined by looking at how the way that is
left is written, though: an empty key at its beginning leaves no trace there, so that the failure
may even be told about the labelled value itself, and a key that begins with a bracket is taken for
an index (`target_eq_access_iff`).

What the label is joined to is never longer than what the steps would be written as after it
(`length_targetChars_le`), and shorter where one of these two things happens.
-/

namespace EntitySchema

open Pointer

namespace Entry

variable {label s : List Char} {ss : List (List Char)}

/-! ## Joining a label -/

theorem targetChars_nil (label : List Char) : targetChars (some label) [] = label := rfl

theorem targetChars_bracket {path : List Char} (h : path.head? = some '[') :
    targetChars (some label) path = label ++ path := by
  cases path with
  | nil => cases h
  | cons c rest =>
    cases h
    rfl

theorem targetChars_dot {path : List Char} (h : path ≠ []) (hb : path.head? ≠ some '[') :
    targetChars (some label) path = label ++ '.' :: path := by
  rw [targetChars, if_neg (by simpa using h), if_neg hb]

/-- A plain first step is joined as it is written after something. -/
theorem targetChars_plain (h : s ≠ []) (hb : s.head? ≠ some '[') :
    targetChars (some label) (accessChars (s :: ss)) = label ++ (s :: ss).flatMap rendered := by
  rw [List.flatMap_cons]
  cases hs : isIndex s with
  | true =>
    have bracket : (accessChars (s :: ss)).head? = some '[' := by
      rw [head?_accessChars_cons h, accessStep_nil_of_index hs, rendered, if_pos hs]
      rfl
    rw [targetChars_bracket bracket, accessChars_cons h, accessStep_nil_of_index hs]
  | false =>
    have dot : (accessChars (s :: ss)).head? ≠ some '[' := by
      rwa [head?_accessChars_cons h, accessStep_nil_of_not_index hs]
    have some : accessChars (s :: ss) ≠ [] := fun none =>
      h (accessChars_eq_nil_iff.1 none s List.mem_cons_self)
    rw [targetChars_dot some dot, accessChars_cons h, accessStep_nil_of_not_index hs, rendered, hs]
    rfl

/-- A first key that begins with a bracket is joined without a dot. -/
theorem targetChars_key_bracket (hb : s.head? = some '[') :
    targetChars (some label) (accessChars (s :: ss)) = label ++ (s ++ ss.flatMap rendered) := by
  have h : s ≠ [] := by
    rintro rfl
    cases hb
  have key := isIndex_of_head?_bracket hb
  have bracket : (accessChars (s :: ss)).head? = some '[' := by
    rwa [head?_accessChars_cons h, accessStep_nil_of_not_index key]
  rw [targetChars_bracket bracket, accessChars_cons h, accessStep_nil_of_not_index key]

theorem length_targetChars_le (label : List Char) (ss : List (List Char)) :
    (targetChars (some label) (accessChars ss)).length ≤
      (label ++ ss.flatMap rendered).length := by
  induction ss with
  | nil => simp [accessChars, targetChars_nil]
  | cons s rest ih =>
    by_cases h : s = []
    · rw [h, accessChars_nil_cons]
      refine Nat.le_trans ih ?_
      simp
    · by_cases hb : s.head? = some '['
      · rw [targetChars_key_bracket hb]
        simp [rendered, isIndex_of_head?_bracket hb]
      · exact Nat.le_of_eq (congrArg List.length (targetChars_plain h hb))

/-- Behind a label that is not empty, the way that is left is joined as it should be just when its
first step is neither the empty key nor a key that begins with a bracket. -/
theorem targetChars_eq_foldl_iff (hlabel : label ≠ []) (ss : List (List Char)) :
    targetChars (some label) (accessChars ss) = ss.foldl accessStep label ↔
      ∀ s ∈ ss.head?, s ≠ [] ∧ s.head? ≠ some '[' := by
  rw [foldl_accessStep hlabel]
  cases ss with
  | nil => simp [accessChars, targetChars_nil]
  | cons s rest =>
    have first : (∀ t ∈ (s :: rest).head?, t ≠ [] ∧ t.head? ≠ some '[') ↔
        s ≠ [] ∧ s.head? ≠ some '[' := by simp
    rw [first]
    refine ⟨fun same => ?_, fun plain => targetChars_plain plain.1 plain.2⟩
    have lengths := congrArg List.length same
    constructor
    · rintro rfl
      have shorter := length_targetChars_le label rest
      rw [accessChars_nil_cons] at lengths
      have dot : rendered [] = ['.'] := rfl
      simp [dot] at lengths shorter
      omega
    · intro hb
      rw [targetChars_key_bracket hb] at lengths
      simp [rendered, isIndex_of_head?_bracket hb] at lengths

/-- Behind an empty label, the way that is left is joined as it should be just when it is empty or
begins with a bracket. -/
theorem targetChars_empty_eq_iff (path : List Char) :
    targetChars (some []) path = path ↔ path = [] ∨ path.head? = some '[' := by
  by_cases h : path = []
  · simp [h, targetChars_nil]
  · by_cases hb : path.head? = some '['
    · simp [targetChars_bracket hb, hb]
    · rw [targetChars_dot h hb]
      simp [h, hb]

theorem targetChars_eq_label_iff (label path : List Char) :
    targetChars (some label) path = label ↔ path = [] := by
  by_cases h : path = []
  · simp [h, targetChars_nil]
  · by_cases hb : path.head? = some '['
    · simp [targetChars_bracket hb, h]
    · rw [targetChars_dot h hb]
      simp [h]

end Entry

/-! ## Labels that are paths -/

/-- **Labels and paths.** The label of a value is the way to it, and a failure is told about a place
below it. What is told is the whole way just when one of two things holds: the label is not empty,
and the first step below it, if there is one, is neither the empty key nor a key that begins with a
bracket; or the label is empty, and the first step below it that is not the empty key, if there is
one, is an index or a key that begins with a bracket. The failure is told about the labelled value
itself just when all steps below it are the empty key. -/
theorem target_eq_access_iff (a b : Pointer) {e : Entry} (he : e.instancePath = Pointer.text b) :
    (e.target (some (Pointer.access (Pointer.text a))) =
        Pointer.access (Pointer.text (a ++ b)) ↔
      ((∃ s ∈ a, segment s ≠ []) ∧
        ∀ s ∈ b.head?, segment s ≠ [] ∧ (segment s).head? ≠ some '[') ∨
      ((∀ s ∈ a, segment s = []) ∧
        ∀ s ∈ b.find? (fun s => segment s ≠ []),
          isIndex (segment s) = true ∨ (segment s).head? = some '[')) ∧
    ∀ label, e.target (some label) = label ↔ ∀ s ∈ b, segment s = [] := by
  have target (label : String) : e.target (some label) = String.ofList
      (Entry.targetChars (some label.toList) (accessChars (b.map segment))) := by
    rw [Entry.target, he, segments_text]
    rfl
  constructor
  · rw [target, access, access, segments_text, segments_text, String.toList_ofList,
      String.ofList_inj, List.map_append, accessChars_append]
    have empty : accessChars (a.map segment) = [] ↔ ∀ s ∈ a, segment s = [] :=
      accessChars_eq_nil_iff.trans List.forall_mem_map
    by_cases none : ∀ s ∈ a, segment s = []
    · have no : ¬ ∃ s ∈ a, segment s ≠ [] := by
        rintro ⟨s, hs, h⟩
        exact h (none s hs)
      rw [empty.2 none, ← accessChars, Entry.targetChars_empty_eq_iff,
        accessChars_eq_nil_or_bracket_iff, List.find?_map]
      simp only [no, false_and, false_or, and_iff_right none]
      exact Option.forall_mem_map
    · have some : ∃ s ∈ a, segment s ≠ [] := by simpa using none
      rw [Entry.targetChars_eq_foldl_iff (mt empty.1 none), List.head?_map]
      simp only [none, false_and, or_false, and_iff_right some]
      exact Option.forall_mem_map
  · intro label
    rw [target, ← String.toList_inj, String.toList_ofList, Entry.targetChars_eq_label_iff,
      accessChars_eq_nil_iff, List.forall_mem_map]

/-- A place below a value is told as the label of the value and the way below it. -/
theorem item_label_is_path :
    (Entry.mk (Pointer.text [.index 0, .key "x/y"]) "" "bad").target (some "rows") =
      Pointer.access (Pointer.text [.key "rows", .index 0, .key "x/y"]) := by
  have same := (target_eq_access_iff [.key "rows"] [.index 0, .key "x/y"]
    (e := ⟨Pointer.text [.index 0, .key "x/y"], "", "bad"⟩) rfl).1
  have label : Pointer.access (Pointer.text [.key "rows"]) = "rows" := by decide
  rw [label] at same
  exact same.2 (.inl ⟨⟨_, List.mem_cons_self, by decide⟩, by decide⟩)

/-- A failure below a labelled value, under the empty key, is told about the value itself. -/
theorem failure_below_told_of_value :
    let e : Entry := ⟨Pointer.text [.key ""], "", "bad"⟩
    let label := Pointer.access (Pointer.text [.key "a"])
    label = "a" ∧ e.target (some label) = "a" ∧
    Pointer.access (Pointer.text ([.key "a"] ++ [.key ""])) = "a." ∧
    formatEntries (some label) [e] = "a bad" := by
  decide

end EntitySchema
