import EntitySchema.Json.Order
import Mathlib.Algebra.Order.Field.Rat
import Mathlib.Data.Nat.Cast.Order.Field
import Mathlib.Order.Compare
import Mathlib.Tactic.Positivity

/-!
# Values of numbers

A number, whole or binary64, has a rational value. Comparisons with whole numbers are comparisons of
values, and the limit that a number sets to a size never lies above its value
(`limit_le_value`).
-/

namespace EntitySchema

namespace Double

/-- The rational number that a binary64 stands for. -/
def value (x : Double) : ℚ :=
  (if x.negative then -(x.ratio.1 : ℚ) else x.ratio.1) / x.ratio.2

theorem ratio_snd_pos (x : Double) : 0 < x.ratio.2 := by
  unfold ratio scaleRatio
  split
  · exact Nat.one_pos
  · exact Nat.mul_pos Nat.one_pos (Nat.pow_pos Nat.two_pos)

theorem compareInt_eq_lt {x : Double} {n : Int} : x.compareInt n = .lt ↔ x.value < n := by
  have hpos : (0 : ℚ) < x.ratio.2 := by exact_mod_cast x.ratio_snd_pos
  show Ord.compare (if x.negative then -(x.ratio.1 : Int) else x.ratio.1) (n * x.ratio.2) = .lt ↔ _
  rw [compare_lt_iff_lt, value, div_lt_iff₀ hpos]
  split <;> norm_cast

theorem wholePart_le_value {x : Double} (hn : x.negative = false) :
    (x.wholePart : ℚ) ≤ x.value := by
  rw [value, hn]
  exact Nat.cast_div_le

end Double

namespace Number

/-- The rational number that a number stands for. -/
def value : Number → ℚ
  | .int n => n
  | .real x => x.value

variable {l : Number} {n : Nat}

theorem lt_int_iff {n : Int} : l.lt (.int n) = true ↔ l.value < n := by
  cases l with
  | int m =>
    show (Ord.compare m n == .lt) = true ↔ (m : ℚ) < n
    rw [beq_iff_eq, compare_lt_iff_lt]
    norm_cast
  | real x =>
    show (x.compareInt n == .lt) = true ↔ x.value < n
    rw [beq_iff_eq, Double.compareInt_eq_lt]

/-- A whole number that is not negative sets a limit. -/
theorem exists_limit (hw : l.isWhole = true) (h0 : 0 ≤ l.value) : ∃ n, l.toLimit? = some n := by
  cases l with
  | int m =>
    have h0 : 0 ≤ m := Int.cast_nonneg_iff.1 h0
    exact ⟨m.toNat, if_pos h0⟩
  | real x => exact ⟨_, if_pos hw⟩

/-- A limit does not lie above the value of its number. -/
theorem limit_le_value (hl : l.toLimit? = some n) (h0 : 0 ≤ l.value) : (n : ℚ) ≤ l.value := by
  cases l with
  | int m =>
    change (if 0 ≤ m then some m.toNat else none) = some n at hl
    obtain ⟨hm, hn⟩ := Option.ite_none_right_eq_some.1 hl
    obtain rfl := Option.some.inj hn
    show ((m.toNat : ℕ) : ℚ) ≤ (m : ℚ)
    exact_mod_cast (Int.toNat_of_nonneg hm).le
  | real x =>
    change (if x.isWhole then some (if x.negative then 0 else min x.wholePart _) else none) =
      some n at hl
    obtain ⟨-, hn⟩ := Option.ite_none_right_eq_some.1 hl
    obtain rfl := Option.some.inj hn
    by_cases hneg : x.negative = true
    · rw [if_pos hneg]
      exact_mod_cast h0
    · have whole := Double.wholePart_le_value (by simpa using hneg)
      rw [if_neg hneg]
      exact le_trans (by exact_mod_cast Nat.min_le_left _ _) whole

end Number

end EntitySchema
