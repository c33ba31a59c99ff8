/-!
# Lines

A text is cut after each line feed; the line feed does not belong to the line, nor does a carriage
return right before it. What follows the last line feed is a line unless it is empty.

The same cut serves characters and bytes, so it is stated for any alphabet.
-/

namespace EntitySchema.Text

variable {α : Type} [DecidableEq α]

/-- A line without the carriage return at its end. -/
def dropReturn (cr : α) (line : List α) : List α :=
  if line.getLast? = some cr then line.dropLast else line

/-- The lines of a text; `started` is the line read so far, in reverse. -/
def linesFrom (lf cr : α) (started : List α) : List α → List (List α)
  | [] => if started.isEmpty then [] else [started.reverse]
  | c :: rest =>
    if c = lf then dropReturn cr started.reverse :: linesFrom lf cr [] rest
    else linesFrom lf cr (c :: started) rest

def lines (lf cr : α) (text : List α) : List (List α) := linesFrom lf cr [] text

theorem linesFrom_append (lf cr : α) (line rest started : List α) (h : lf ∉ line) :
    linesFrom lf cr started (line ++ lf :: rest) =
      dropReturn cr (started.reverse ++ line) :: lines lf cr rest := by
  induction line generalizing started with
  | nil => simp [linesFrom, lines]
  | cons c cs ih =>
    simp only [List.mem_cons, not_or] at h
    rw [List.cons_append, linesFrom, if_neg (Ne.symm h.1), ih _ h.2]
    simp

/-- A line with its line feed is cut off the text. -/
theorem lines_append (lf cr : α) (line rest : List α) (h : lf ∉ line) :
    lines lf cr (line ++ lf :: rest) = dropReturn cr line :: lines lf cr rest := by
  simp [lines, linesFrom_append lf cr line rest [] h]

/-- The lines of a sequence of characters. -/
def charLines (text : List Char) : List (List Char) := lines '\n' '\r' text

/-- The lines of a sequence of bytes, each read as UTF-8 on its own. -/
def byteLines (bytes : List UInt8) : List (Option (List Char)) :=
  (lines 10 13 bytes).map fun line => (String.fromUTF8? ⟨line.toArray⟩).map String.toList

end EntitySchema.Text
