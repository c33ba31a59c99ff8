import EntitySchema.Text.Characters
import Mathlib.Data.List.Basic
import Mathlib.Tactic.ByContra

/-!
# Numerals

A decimal numeral is made of digits, does not begin with a zero unless it is zero, and stands for
the number it was made from (`decimalValue_toDigits`).
-/

namespace EntitySchema.Text

variable {c : Char} {n : Nat}

theorem toNat_of_isDigit (h : c.isDigit = true) : 48 ≤ c.toNat ∧ c.toNat ≤ 57 := by
  simp only [Char.isDigit, Bool.and_eq_true, decide_eq_true_eq] at h
  exact ⟨UInt32.le_iff_toNat_le.1 h.1, UInt32.le_iff_toNat_le.1 h.2⟩

theorem isDigit_of_mem_toDigits (h : c ∈ Nat.toDigits 10 n) : c.isDigit = true :=
  Nat.isDigit_of_mem_toDigits (by decide) (by decide) h

theorem not_mem_toDigits (h : c.isDigit = false) (n : Nat) : c ∉ Nat.toDigits 10 n := fun hc => by
  rw [isDigit_of_mem_toDigits hc] at h
  cases h

theorem decimalValue_toDigits (n : Nat) : decimalValue (Nat.toDigits 10 n) = n :=
  Nat.ofDigitChars_ten_toDigits

theorem digitChar_ne_zero : ∀ n < 10, n ≠ 0 → Nat.digitChar n ≠ '0' := by decide

/-- A numeral of a number above zero does not begin with a zero. -/
theorem head?_toDigits_ne (hn : n ≠ 0) : (Nat.toDigits 10 n).head? ≠ some '0' := by
  induction n using Nat.strongRecOn with
  | ind n ih =>
    by_cases small : n < 10
    · rw [Nat.toDigits_of_lt_base small]
      simpa using digitChar_ne_zero n small hn
    · have lead : n / 10 ≠ 0 := by omega
      have shorter : n / 10 < n := by omega
      have split : Nat.toDigits 10 n = Nat.toDigits 10 (n / 10) ++ Nat.toDigits 10 (n % 10) := by
        rw [Nat.toDigits_append_toDigits (by decide) (by omega) (by omega), Nat.div_add_mod]
      rw [split, List.head?_append_of_ne_nil _ Nat.toDigits_ne_nil]
      exact ih _ shorter lead

end EntitySchema.Text
