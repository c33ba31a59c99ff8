import EntitySchema.Json.Printer
import EntitySchema.Proofs.Text.Numerals

/-!
# Compact text is one line

A string escapes the control characters and nothing else in a compact text contains any, so a text
never leaves its line (`Json.visible_chars`).
-/

namespace EntitySchema

namespace Text

/-- No character is a control character. -/
def Visible (cs : List Char) : Prop := ∀ c ∈ cs, 0x20 ≤ c.toNat

variable {c : Char} {cs ds : List Char}

theorem visible_nil : Visible [] := nofun

@[simp] theorem visible_cons : Visible (c :: cs) ↔ 0x20 ≤ c.toNat ∧ Visible cs :=
  List.forall_mem_cons

@[simp] theorem visible_append : Visible (cs ++ ds) ↔ Visible cs ∧ Visible ds :=
  List.forall_mem_append

theorem Visible.of_subset (h : Visible ds) (hs : cs ⊆ ds) : Visible cs := fun c hc => h c (hs hc)

theorem visible_replicate (n : Nat) (h : 0x20 ≤ c.toNat) : Visible (List.replicate n c) :=
  fun _ hd => List.eq_of_mem_replicate hd ▸ h

theorem visible_flatMap {α : Type} {f : α → List Char} {xs : List α} (h : ∀ x ∈ xs, Visible (f x)) :
    Visible (xs.flatMap f) := fun c hc =>
  have ⟨x, hx, hc⟩ := List.mem_flatMap.1 hc
  h x hx c hc

theorem visible_toDigits (n : Nat) : Visible (Nat.toDigits 10 n) := fun _ hc =>
  Nat.le_trans (by decide) (toNat_of_isDigit (isDigit_of_mem_toDigits hc)).1

end Text

open Text

/-! ## Numbers -/

namespace Double

variable {digits : List Char}

theorem visible_trimZeros (h : Visible digits) : Visible (trimZeros digits) := by
  refine h.of_subset fun c hc => ?_
  exact List.mem_reverse.1 ((List.dropWhile_subset _) (List.mem_reverse.1 hc))

theorem visible_positionalText (h : Visible digits) (lead : Int) (point : Bool) :
    Visible (positionalText digits lead point) := by
  have zeros (n : Nat) : Visible (zeros n) := visible_replicate n (by decide)
  have whole (n : Nat) : Visible (digits.take n) := h.of_subset (List.take_subset n digits)
  have fraction (n : Nat) : Visible (digits.drop n) := h.of_subset (List.drop_subset n digits)
  unfold positionalText
  dsimp only
  split_ifs <;> simp [*, visible_nil]

theorem visible_exponentText (h : Visible digits) (lead : Int) :
    Visible (exponentText digits lead) := by
  have first : Visible (digits.take 1) := h.of_subset (List.take_subset 1 digits)
  have others : Visible (digits.drop 1) := h.of_subset (List.drop_subset 1 digits)
  unfold exponentText
  dsimp only
  split <;> split_ifs <;> simp_all [visible_nil, visible_toDigits]

theorem visible_text (layout : Layout) (x : Double) : Visible (x.text layout).toList := by
  have digits := visible_trimZeros (visible_toDigits x.shortest.digits)
  rw [text, String.toList_ofList, visible_append]
  refine ⟨?_, ?_⟩
  · split_ifs <;> simp [visible_nil]
  · dsimp only
    split_ifs
    · simp [visible_nil]
    · simp [visible_nil]
    · exact visible_positionalText digits _ _
    · exact visible_exponentText digits _

end Double

namespace Json

theorem visible_numberChars (n : Number) : Visible (numberChars n) := by
  cases n with
  | int n =>
    show Visible (intChars n)
    unfold intChars
    split_ifs <;> simp [visible_toDigits]
  | real x => exact x.visible_text numberLayout

/-! ## Strings -/

theorem visible_hexDigit : ∀ n < 16, 0x20 ≤ (hexDigit n).toNat := by decide

theorem visible_stringChar (c : Char) : Visible (stringChar c) := by
  have high := visible_hexDigit (c.toNat / 16)
  have low := visible_hexDigit (c.toNat % 16) (Nat.mod_lt _ (by decide))
  unfold stringChar
  split_ifs
  case neg => simp [visible_nil, high (by omega), low]
  all_goals simp [visible_nil, *]

theorem visible_stringChars (s : String) : Visible (stringChars s) := by
  have inside : Visible (s.toList.flatMap stringChar) :=
    visible_flatMap fun c _ => visible_stringChar c
  simp [stringChars, inside, visible_nil]

/-! ## Values -/

mutual

/-- **Compact text** has no control characters. -/
theorem visible_chars : (v : Json) → Visible v.chars
  | .null | .bool true | .bool false | .arr [] | .obj [] => by simp [chars, visible_nil]
  | .num n => visible_numberChars n
  | .str s => visible_stringChars s
  | .arr (x :: xs) => by simp [chars, visible_chars x, visible_itemChars xs]
  | .obj ((k, v) :: ms) => by
    simp [chars, visible_stringChars k, visible_chars v, visible_memberChars ms]

theorem visible_itemChars : (xs : List Json) → Visible (itemChars xs)
  | [] => by simp [itemChars, visible_nil]
  | x :: xs => by simp [itemChars, visible_chars x, visible_itemChars xs]

theorem visible_memberChars : (ms : List (String × Json)) → Visible (memberChars ms)
  | [] => by simp [memberChars, visible_nil]
  | (k, v) :: ms => by
    simp [memberChars, visible_stringChars k, visible_chars v, visible_memberChars ms]

end

end Json

end EntitySchema
