/-!
# Splitting text

The parts of a text between separators. There is one more part than there are separators, so the
empty text has one part, and putting the separators back gives the text.
-/

namespace EntitySchema.Text

def splitOn (sep : Char) : List Char → List (List Char)
  | [] => [[]]
  | c :: rest =>
    if c = sep then [] :: splitOn sep rest else (splitOn sep rest).modifyHead (c :: ·)

variable {sep : Char} {part rest : List Char}

theorem splitOn_of_not_mem (h : sep ∉ part) : splitOn sep part = [part] := by
  induction part with
  | nil => rfl
  | cons c cs ih =>
    simp only [List.mem_cons, not_or] at h
    rw [splitOn, if_neg (Ne.symm h.1), ih h.2]
    rfl

/-- A part with its separator is cut off the text. -/
theorem splitOn_append (h : sep ∉ part) :
    splitOn sep (part ++ sep :: rest) = part :: splitOn sep rest := by
  induction part with
  | nil => simp [splitOn]
  | cons c cs ih =>
    simp only [List.mem_cons, not_or] at h
    rw [List.cons_append, splitOn, if_neg (Ne.symm h.1), ih h.2]
    rfl

theorem splitOn_ne_nil (text : List Char) : splitOn sep text ≠ [] := by
  induction text with
  | nil => simp [splitOn]
  | cons c cs ih =>
    rw [splitOn]
    split
    · simp
    · cases h : splitOn sep cs with
      | nil => exact absurd h ih
      | cons p ps => simp

theorem intercalate_cons (p : List Char) (ps : List (List Char)) :
    [sep].intercalate (p :: ps) = p ++ ps.flatMap fun p => sep :: p := by
  induction ps generalizing p with
  | nil => simp [List.intercalate]
  | cons q qs ih =>
    have rest := ih q
    simp only [List.intercalate, List.intersperse, List.flatten_cons] at rest ⊢
    simp [rest]

/-- Putting the separators back gives the text. -/
theorem intercalate_splitOn (text : List Char) :
    [sep].intercalate (splitOn sep text) = text := by
  induction text with
  | nil => rfl
  | cons c cs ih =>
    rw [splitOn]
    cases h : splitOn sep cs with
    | nil => exact absurd h (splitOn_ne_nil cs)
    | cons p ps =>
      rw [h] at ih
      split
      · subst c
        simp only [List.intercalate, List.intersperse, List.flatten_cons] at ih ⊢
        simp [ih]
      · cases ps <;>
          simp_all [List.intercalate, List.intersperse]

end EntitySchema.Text
