import EntitySchema.Text.Lines
import Mathlib.Data.List.Basic

/-!
# Cutting texts into lines

A text that ends with a line feed may be cut before or after another one is put behind it
(`lines_append_of_getLast?`), and what is written as lines is cut into these lines
(`lines_flatMap`).
-/

namespace EntitySchema.Text

variable {α β : Type} [DecidableEq α] {lf cr : α}

theorem linesFrom_of_not_mem {part : List α} (h : lf ∉ part) (started rest : List α) :
    linesFrom lf cr started (part ++ rest) = linesFrom lf cr (part.reverse ++ started) rest := by
  induction part generalizing started with
  | nil => rfl
  | cons c cs ih =>
    obtain ⟨hc, hcs⟩ := not_or.1 (mt List.mem_cons.2 h)
    rw [List.cons_append, linesFrom, if_neg (Ne.symm hc), ih hcs]
    simp

theorem linesFrom_append_feed (lf cr : α) (started a b : List α) :
    linesFrom lf cr started (a ++ lf :: b) =
      linesFrom lf cr started (a ++ [lf]) ++ lines lf cr b := by
  induction a generalizing started with
  | nil => simp [linesFrom, lines]
  | cons c cs ih =>
    rw [List.cons_append, List.cons_append, linesFrom, linesFrom]
    split_ifs
    · rw [ih, List.cons_append]
    · exact ih _

theorem lines_append_of_getLast? {a : List α} (h : a.getLast? = some lf) (b : List α) :
    lines lf cr (a ++ b) = lines lf cr a ++ lines lf cr b := by
  obtain ⟨start, rfl⟩ := List.getLast?_eq_some_iff.1 h
  rw [List.append_assoc, List.singleton_append]
  exact linesFrom_append_feed lf cr [] start b

theorem dropReturn_of_not_mem {line : List α} (h : cr ∉ line) : dropReturn cr line = line :=
  if_neg fun last => h (List.mem_of_getLast? last)

theorem lines_flatMap {f : β → List α} {xs : List β} (h : ∀ x ∈ xs, lf ∉ f x ∧ cr ∉ f x) :
    lines lf cr (xs.flatMap fun x => f x ++ [lf]) = xs.map f := by
  induction xs with
  | nil => rfl
  | cons x xs ih =>
    obtain ⟨feed, ret⟩ := h x List.mem_cons_self
    rw [List.flatMap_cons, List.append_assoc, List.singleton_append, lines_append _ _ _ _ feed,
      dropReturn_of_not_mem ret, ih fun y hy => h y (List.mem_cons_of_mem _ hy), List.map_cons]

end EntitySchema.Text
