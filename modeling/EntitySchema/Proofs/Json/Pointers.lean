import EntitySchema.Json.Pointer
import EntitySchema.Proofs.Text.Numerals
import Mathlib.Data.List.Induction

/-!
# Reading pointers back

The text of a pointer is read back into its steps: an escaped key holds no slash, so that a text is
cut between the steps, and both escapes are undone (`segments_chars`). A step is read as its
characters, which are the digits of an index, or the key as it is.

In access notation a step that follows something is written in brackets or after a dot (`rendered`),
and steps are appended one after the other (`foldl_accessStep`, `shown_iff`). While nothing has been
written a key is written as it is, so that empty keys at the beginning leave no trace
(`accessChars_eq_nil_iff`).
-/

namespace EntitySchema.Pointer

variable {a b c x y : Char} {cs rest part path s : List Char} {ss : List (List Char)}

/-! ## Escapes -/

theorem replacePair_pair : replacePair a b c (a :: b :: rest) = c :: replacePair a b c rest := by
  rw [replacePair, if_pos ⟨rfl, rfl⟩]

theorem replacePair_of_ne (h : x ≠ a) :
    replacePair a b c (x :: rest) = x :: replacePair a b c rest := by
  cases rest with
  | nil => rfl
  | cons y rest => rw [replacePair, if_neg fun hx => h hx.1]

theorem replacePair_of_ne_right (h : y ≠ b) :
    replacePair a b c (x :: y :: rest) = x :: replacePair a b c (y :: rest) := by
  rw [replacePair, if_neg fun hy => h hy.2]

theorem replacePair_of_not_mem (h : a ∉ cs) : replacePair a b c cs = cs := by
  induction cs with
  | nil => rfl
  | cons x rest ih =>
    obtain ⟨hx, hrest⟩ := not_or.1 (mt List.mem_cons.2 h)
    rw [replacePair_of_ne (Ne.symm hx), ih hrest]

theorem unescape_of_not_mem (h : '~' ∉ cs) : unescape cs = cs := by
  rw [unescape, replacePair_of_not_mem h, replacePair_of_not_mem h]

/-- A key of which only `~` is escaped. -/
def escapeTildes (cs : List Char) : List Char :=
  cs.flatMap fun c => if c = '~' then ['~', '0'] else [c]

theorem replacePair_escape (cs : List Char) :
    replacePair '~' '1' '/' (escape cs) = escapeTildes cs := by
  induction cs with
  | nil => rfl
  | cons c rest ih =>
    rw [escape, escapeTildes, List.flatMap_cons, List.flatMap_cons, ← escapeTildes, ← ih, ← escape]
    by_cases tilde : c = '~'
    · rw [if_pos tilde, if_pos tilde]
      exact (replacePair_of_ne_right (by decide)).trans
        (congrArg _ (replacePair_of_ne (by decide)))
    · by_cases slash : c = '/'
      · rw [if_neg tilde, if_neg tilde, if_pos slash, slash]
        exact replacePair_pair
      · rw [if_neg tilde, if_neg tilde, if_neg slash]
        exact replacePair_of_ne tilde

theorem replacePair_escapeTildes (cs : List Char) :
    replacePair '~' '0' '~' (escapeTildes cs) = cs := by
  induction cs with
  | nil => rfl
  | cons c rest ih =>
    rw [escapeTildes, List.flatMap_cons, ← escapeTildes]
    by_cases tilde : c = '~'
    · rw [if_pos tilde, tilde]
      exact replacePair_pair.trans (congrArg _ ih)
    · rw [if_neg tilde]
      exact (replacePair_of_ne tilde).trans (congrArg _ ih)

theorem unescape_escape (cs : List Char) : unescape (escape cs) = cs := by
  rw [unescape, replacePair_escape, replacePair_escapeTildes]

/-! ## Steps -/

/-- What a step is read back as. -/
def segment : Step → List Char
  | .key k => k.toList
  | .index i => Nat.toDigits 10 i

theorem slash_not_mem_stepChars (step : Step) : '/' ∉ stepChars step := by
  cases step with
  | index i => exact Text.not_mem_toDigits (by decide) i
  | key k =>
    intro h
    obtain ⟨c, -, hc⟩ := List.mem_flatMap.1 h
    split_ifs at hc with tilde slash
    · simp at hc
    · simp at hc
    · exact slash (List.mem_singleton.1 hc).symm

theorem unescape_stepChars (step : Step) : unescape (stepChars step) = segment step := by
  cases step with
  | key k => exact unescape_escape k.toList
  | index i => exact unescape_of_not_mem (Text.not_mem_toDigits (by decide) i)

theorem splitOn_append_chars (h : '/' ∉ part) (p : Pointer) :
    Text.splitOn '/' (part ++ chars p) = part :: p.map stepChars := by
  induction p generalizing part with
  | nil =>
    rw [show part ++ chars [] = part from List.append_nil part]
    exact Text.splitOn_of_not_mem h
  | cons step p ih =>
    have first : chars (step :: p) = '/' :: (stepChars step ++ chars p) := rfl
    rw [first, Text.splitOn_append h, ih (slash_not_mem_stepChars step), List.map_cons]

/-- **Reading a pointer.** The text of a pointer is read as its steps. -/
theorem segments_chars (p : Pointer) : segments (chars p) = p.map segment := by
  rw [segments, ← List.nil_append (chars p), splitOn_append_chars List.not_mem_nil, List.tail_cons,
    List.map_map]
  exact List.map_congr_left fun step _ => unescape_stepChars step

theorem segments_text (p : Pointer) : segments (text p).toList = p.map segment := by
  rw [text, String.toList_ofList, segments_chars]

/-! ## Access notation -/

/-- A step that follows something: in brackets, or after a dot. -/
def rendered (s : List Char) : List Char :=
  if isIndex s then '[' :: s ++ [']'] else '.' :: s

theorem accessStep_of_ne_nil (h : path ≠ []) (s : List Char) :
    accessStep path s = path ++ rendered s := by
  rw [accessStep, rendered]
  split
  · rw [List.append_assoc]
  · rw [if_neg (by simpa using h)]

theorem foldl_accessStep (h : path ≠ []) (ss : List (List Char)) :
    ss.foldl accessStep path = path ++ ss.flatMap rendered := by
  induction ss generalizing path with
  | nil => exact (List.append_nil path).symm
  | cons s rest ih =>
    rw [List.foldl_cons, accessStep_of_ne_nil h, ih (List.append_ne_nil_of_left_ne_nil h _),
      List.flatMap_cons, List.append_assoc]

theorem accessStep_nil_of_index (h : isIndex s = true) : accessStep [] s = rendered s := by
  rw [accessStep, rendered, if_pos h, if_pos h]
  rfl

theorem accessStep_nil_of_not_index (h : isIndex s = false) : accessStep [] s = s := by
  rw [accessStep, h]
  rfl

theorem accessStep_nil_ne_nil (h : s ≠ []) : accessStep [] s ≠ [] := by
  cases hs : isIndex s with
  | true => simp [accessStep_nil_of_index hs, rendered, hs]
  | false => rwa [accessStep_nil_of_not_index hs]

/-- An empty key at the beginning leaves no trace. -/
theorem accessChars_nil_cons (ss : List (List Char)) :
    accessChars ([] :: ss) = accessChars ss := rfl

theorem accessChars_cons (h : s ≠ []) (ss : List (List Char)) :
    accessChars (s :: ss) = accessStep [] s ++ ss.flatMap rendered := by
  rw [accessChars, List.foldl_cons, foldl_accessStep (accessStep_nil_ne_nil h)]

theorem accessChars_append (ss ts : List (List Char)) :
    accessChars (ss ++ ts) = ts.foldl accessStep (accessChars ss) :=
  List.foldl_append

theorem accessChars_eq_nil_iff : accessChars ss = [] ↔ ∀ s ∈ ss, s = [] := by
  induction ss with
  | nil => simp [accessChars]
  | cons s rest ih =>
    by_cases h : s = []
    · rw [h, accessChars_nil_cons, ih, List.forall_mem_cons, and_iff_right rfl]
    · rw [accessChars_cons h, List.forall_mem_cons]
      simp [h, accessStep_nil_ne_nil h]

/-- A bracket is no digit. -/
theorem isIndex_of_head?_bracket (h : s.head? = some '[') : isIndex s = false := by
  cases s with
  | nil => rfl
  | cons c rest =>
    cases h
    rfl

theorem head?_accessChars_cons (h : s ≠ []) (ss : List (List Char)) :
    (accessChars (s :: ss)).head? = (accessStep [] s).head? := by
  rw [accessChars_cons h, List.head?_append_of_ne_nil _ (accessStep_nil_ne_nil h)]

/-- What is shown is empty or begins with a bracket just when the first step that is not the empty
key is an index or begins with a bracket itself. -/
theorem accessChars_eq_nil_or_bracket_iff :
    accessChars ss = [] ∨ (accessChars ss).head? = some '[' ↔
      ∀ s ∈ ss.find? (· ≠ []), isIndex s = true ∨ s.head? = some '[' := by
  induction ss with
  | nil => simp [accessChars]
  | cons s rest ih =>
    by_cases h : s = []
    · rw [h, accessChars_nil_cons, ih, List.find?_cons_of_neg (by simp)]
    · rw [accessChars_eq_nil_iff, head?_accessChars_cons h,
        List.find?_cons_of_pos (by simpa using h)]
      cases hs : isIndex s with
      | true => simp [accessStep_nil_of_index hs, rendered, hs]
      | false => simp [accessStep_nil_of_not_index hs, hs, h]

/-! ## From left to right -/

/-- Digits only, and at least one. -/
def IsNumeral (s : List Char) : Prop := s ≠ [] ∧ ∀ c ∈ s, '0' ≤ c ∧ c ≤ '9'

/-- **Access notation** from left to right: a numeral is written in brackets, anything else after a
dot, which is left out as long as nothing has been written. -/
inductive Shown : List (List Char) → List Char → Prop
  | nil : Shown [] []
  | numeral {ss : List (List Char)} {path s : List Char} :
      Shown ss path → IsNumeral s → Shown (ss ++ [s]) (path ++ '[' :: s ++ [']'])
  | first {ss : List (List Char)} {s : List Char} :
      Shown ss [] → ¬ IsNumeral s → Shown (ss ++ [s]) s
  | dotted {ss : List (List Char)} {path s : List Char} :
      Shown ss path → path ≠ [] → ¬ IsNumeral s → Shown (ss ++ [s]) (path ++ '.' :: s)

theorem isIndex_iff : isIndex s = true ↔ IsNumeral s := by
  simp [isIndex, IsNumeral, Char.isDigit, Char.le_def]

theorem shown_accessStep (h : Shown ss path) (s : List Char) :
    Shown (ss ++ [s]) (accessStep path s) := by
  rw [accessStep]
  by_cases index : isIndex s = true
  · rw [if_pos index]
    exact .numeral h (isIndex_iff.1 index)
  · rw [if_neg index]
    have key := mt isIndex_iff.2 index
    by_cases empty : path = []
    · subst empty
      exact .first h key
    · rw [if_neg (by simpa using empty)]
      exact .dotted h empty key

theorem shown_accessChars (ss : List (List Char)) : Shown ss (accessChars ss) := by
  induction ss using List.reverseRecOn with
  | nil => exact .nil
  | append_singleton ss s ih =>
    rw [accessChars_append]
    exact shown_accessStep ih s

/-- There is one way to show segments. -/
theorem shown_iff : Shown ss path ↔ path = accessChars ss := by
  refine ⟨fun h => ?_, fun h => h ▸ shown_accessChars ss⟩
  induction h with
  | nil => rfl
  | numeral _ numeral ih =>
    rw [accessChars_append, ← ih, List.foldl_cons, accessStep, if_pos (isIndex_iff.2 numeral)]
    rfl
  | first _ key ih =>
    rw [accessChars_append, ← ih, List.foldl_cons, accessStep, if_neg (mt isIndex_iff.1 key)]
    rfl
  | dotted _ some key ih =>
    rw [accessChars_append, ← ih, List.foldl_cons, accessStep, if_neg (mt isIndex_iff.1 key),
      if_neg (by simpa using some)]
    rfl

/-- **Pointers are read exactly.** The two replacements, one after the other, give back what was
escaped. So the text of a pointer is read as its steps, in order: the keys as they are and the
digits of the indices; and it is shown as these are, from left to right. -/
theorem pointer_is_read_exactly (p : Pointer) :
    (∀ cs, replacePair '~' '0' '~' (replacePair '~' '1' '/' (escape cs)) = cs) ∧
    segments (text p).toList = p.map segment ∧
    ∀ path, Shown (p.map segment) path ↔ path = (access (text p)).toList := by
  refine ⟨unescape_escape, segments_text p, fun path => ?_⟩
  rw [access, String.toList_ofList, segments_text, shown_iff]

example : (access (text [.key "~1", .index 0, .key "/~", .key "~01", .key "12"])) =
    "~1[0]./~.~01[12]" := by decide

end EntitySchema.Pointer
