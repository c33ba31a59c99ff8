import EntitySchema.Json.Order
import EntitySchema.Json.Printer
import EntitySchema.Proofs.Text.Numerals
import Mathlib.Data.List.TakeWhile
import Mathlib.Tactic.Ring

/-!
# Whole numbers as text

A whole number above zero is written in one of three ways (`wholeText_numberChars`): as a decimal
numeral; if it is a binary64, as a numeral and `.0`, or with an exponent that is not below zero.

A binary64 is never written with a fraction behind a numeral, because the search for its shortest
decimal goes from coarse grids to fine ones. The grid of the units holds a whole number itself, so
it is the finest that can be needed; for a large number, a grid with 17 digits is fine enough, since
half a step of it is less than half a binary place (`shortest_cases`).
-/

namespace EntitySchema

/-! ## Numerals -/

namespace Double

theorem zeros_succ (n : Nat) : zeros (n + 1) = zeros n ++ ['0'] := List.replicate_succ'

/-- A numeral with zeros behind it. -/
theorem toDigits_zeros {n : Nat} (hn : 0 < n) (k : Nat) :
    Nat.toDigits 10 n ++ zeros k = Nat.toDigits 10 (n * 10 ^ k) := by
  induction k with
  | zero => simp [zeros]
  | succ k ih =>
    have pos : 0 < n * 10 ^ k := Nat.mul_pos hn (Nat.pow_pos (by decide))
    calc Nat.toDigits 10 n ++ zeros (k + 1) = Nat.toDigits 10 (n * 10 ^ k) ++ ['0'] := by
          rw [zeros_succ, ← List.append_assoc, ih]
      _ = Nat.toDigits 10 (n * 10 ^ k) ++ Nat.toDigits 10 0 := by
          rw [Nat.toDigits_of_lt_base (show 0 < 10 by decide)]
          rfl
      _ = Nat.toDigits 10 (n * 10 ^ (k + 1)) := by
          rw [Nat.toDigits_append_toDigits (by decide) pos (by decide)]
          congr 1
          ring

/-- The zeros that are taken off can be put on again. -/
theorem trimZeros_append_zeros (digits : List Char) :
    trimZeros digits ++ zeros (digits.length - (trimZeros digits).length) = digits := by
  have split := List.takeWhile_append_dropWhile (p := (· == '0')) (l := digits.reverse)
  have zero : digits.reverse.takeWhile (· == '0') =
      zeros (digits.reverse.takeWhile (· == '0')).length :=
    List.eq_replicate_of_mem fun c hc => by simpa using List.mem_takeWhile_imp hc
  have whole : digits = trimZeros digits ++ (digits.reverse.takeWhile (· == '0')).reverse := by
    rw [trimZeros, ← List.reverse_append, split, List.reverse_reverse]
  have length := congrArg List.length whole
  rw [List.length_append, List.length_reverse] at length
  rw [zero, zeros, List.reverse_replicate] at whole
  rw [length, Nat.add_sub_cancel_left]
  exact whole.symm

/-- A numeral of a number above zero has another digit than zero. -/
theorem exists_digit_ne_zero (n : Nat) (hn : n ≠ 0) : ∃ c ∈ Nat.toDigits 10 n, c ≠ '0' := by
  obtain ⟨c, cs, digits⟩ := List.exists_cons_of_ne_nil (Nat.toDigits_ne_nil (b := 10) (n := n))
  refine ⟨c, by rw [digits]; exact List.mem_cons_self, fun zero => ?_⟩
  exact Text.head?_toDigits_ne hn (by rw [digits, zero]; rfl)

theorem trimZeros_ne_nil {n : Nat} (hn : n ≠ 0) : trimZeros (Nat.toDigits 10 n) ≠ [] := by
  obtain ⟨c, hc, hne⟩ := exists_digit_ne_zero n hn
  intro hnil
  have all := List.dropWhile_eq_nil_iff.1 (List.reverse_eq_nil_iff.1 hnil) c (List.mem_reverse.2 hc)
  exact hne (by simpa using all)

/-! ## Grids -/

variable {x : Double} {k : Int}

theorem exponent_of_onGrid {d : Decimal} (h : x.onGrid k = some d) : d.exponent = k := by
  unfold onGrid at h
  dsimp only at h
  split_ifs at h <;> cases h <;> rfl

theorem scaleRatio_pos {num den : Nat} (hn : 0 < num) (hd : 0 < den) (e : Int) :
    0 < (scaleRatio num den e).1 ∧ 0 < (scaleRatio num den e).2 := by
  unfold scaleRatio
  split
  · exact ⟨Nat.mul_pos hn (Nat.pow_pos Nat.two_pos), hd⟩
  · exact ⟨hn, Nat.mul_pos hd (Nat.pow_pos Nat.two_pos)⟩

/-- The unit that the grids of a number count in: a quarter of its last binary place. -/
abbrev quarter (x : Double) : Nat × Nat := scaleRatio 1 1 (x.exponent - 2)

theorem quarter_pos (x : Double) : 0 < x.quarter.1 ∧ 0 < x.quarter.2 :=
  scaleRatio_pos Nat.one_pos Nat.one_pos _

/-- The value of a number, counted in its unit. -/
theorem ratio_quarter : x.ratio.1 * x.quarter.2 =
    x.ratio.2 * (4 * x.significand * x.quarter.1) := by
  unfold ratio quarter scaleRatio
  split_ifs with hunits hquarters hquarters
  · have places : x.exponent.toNat = (x.exponent - 2).toNat + 2 := by omega
    rw [places]
    show x.significand * 2 ^ ((x.exponent - 2).toNat + 2) * 1 =
      1 * (4 * x.significand * (1 * 2 ^ (x.exponent - 2).toNat))
    ring
  · have places : x.exponent.toNat + (-(x.exponent - 2)).toNat = 2 := by omega
    show x.significand * 2 ^ x.exponent.toNat * (1 * 2 ^ (-(x.exponent - 2)).toNat) =
      1 * (4 * x.significand * 1)
    rw [Nat.one_mul, Nat.mul_assoc, ← Nat.pow_add, places]
    ring
  · omega
  · have places : (-(x.exponent - 2)).toNat = (-x.exponent).toNat + 2 := by omega
    rw [places]
    show x.significand * (1 * 2 ^ ((-x.exponent).toNat + 2)) =
      1 * 2 ^ (-x.exponent).toNat * (4 * x.significand * 1)
    ring

theorem has_of_lt {i : Interval} {unit d : Nat} (hl : i.low * unit < d) (hh : d < i.high * unit) :
    i.has unit d = true := by
  unfold Interval.has
  split
  · simp [hl.le, hh.le]
  · simp [hl, hh]

/-- What is less than two units away from a number reads back as it; below a power of two, where the
numbers get closer to each other, it has to be less than one unit. -/
theorem interval_has {unit value d r : Nat} (hp : 0 < x.significand) (hr : r ≤ 2)
    (hpower : x.significand = 2 ^ 52 → r ≤ 1) (hv : 4 * x.significand * unit = value)
    (hl : value < d + r * unit) (hh : d < value + 2 * unit) : x.interval.has unit d = true := by
  subst hv
  have low : x.interval.low ≤ 4 * x.significand - r := by
    unfold interval
    dsimp only
    split
    · next h =>
      have := hpower h.1
      omega
    · omega
  refine has_of_lt ?_ ?_
  · calc x.interval.low * unit ≤ (4 * x.significand - r) * unit := Nat.mul_le_mul_right unit low
      _ = 4 * x.significand * unit - r * unit := Nat.sub_mul ..
      _ < d := Nat.sub_lt_right_of_lt_add (Nat.mul_le_mul_right unit (by omega)) hl
  · calc d < 4 * x.significand * unit + 2 * unit := hh
      _ = (4 * x.significand + 2) * unit := (Nat.add_mul ..).symm

/-- A grid of whole numbers, with its step `den` and the number counted in units. -/
theorem onGrid_natCast (k : Nat) : x.onGrid k =
    let den := x.quarter.2 * 10 ^ k
    let value := 4 * x.significand * x.quarter.1
    let lowHit := x.interval.has x.quarter.1 (value / den * den)
    let highHit := x.interval.has x.quarter.1 ((value / den + 1) * den)
    if lowHit && highHit then some ⟨roundDiv value den, k⟩
    else if lowHit then some ⟨value / den, k⟩
    else if highHit then some ⟨value / den + 1, k⟩
    else none := by
  have grid : (0 : Int) ≤ k := Int.natCast_nonneg k
  simp only [onGrid, if_pos grid, Int.toNat_natCast]
  rfl

/-- One of the two neighbours on a grid reads back, if the grid has 17 digits for the number. -/
theorem has_neighbour {unit den value : Nat} (hp : 0 < x.significand) (hs : x.significand < 2 ^ 53)
    (hunit : 0 < unit) (hd : 0 < den) (hv : 4 * x.significand * unit = value)
    (hden : den * 10 ^ 16 ≤ value) :
    x.interval.has unit (value / den * den) = true ∨
    x.interval.has unit ((value / den + 1) * den) = true := by
  -- The interval reaches `r` units down. Half a step is less, since `2 ^ 53 < 10 ^ 16`.
  obtain ⟨r, hr, hpower, near⟩ : ∃ r ≤ 2, (x.significand = 2 ^ 52 → r ≤ 1) ∧
      ∀ gap, 2 * gap ≤ den → gap < r * unit := by
    by_cases hpower : x.significand = 2 ^ 52
    · refine ⟨1, by decide, fun _ => Nat.le_refl 1, fun gap hgap => ?_⟩
      rw [hpower] at hv
      omega
    · refine ⟨2, Nat.le_refl 2, fun h => absurd h hpower, fun gap hgap => ?_⟩
      have most : 4 * x.significand * unit ≤ 4 * 2 ^ 53 * unit :=
        Nat.mul_le_mul_right unit (Nat.mul_le_mul_left 4 hs.le)
      omega
  have wide : r * unit ≤ 2 * unit := Nat.mul_le_mul_right unit hr
  have division : value / den * den + value % den = value := by
    rw [Nat.mul_comm, Nat.div_add_mod]
  have above : (value / den + 1) * den = value / den * den + den := Nat.succ_mul ..
  rw [above]
  by_cases hhalf : 2 * (value % den) ≤ den
  · have close := near _ hhalf
    generalize value / den * den = multiple, value % den = gap at division close ⊢
    exact .inl (interval_has hp hr hpower hv (by omega) (by omega))
  · have inside := Nat.mod_lt value hd
    have close := near (den - value % den) (by omega)
    generalize value / den * den = multiple, value % den = gap at division inside close ⊢
    exact .inr (interval_has hp hr hpower hv (by omega) (by omega))

/-- A grid of whole numbers has a decimal for a number where one of the neighbours reads back. -/
theorem exists_onGrid {den value k : Nat} (hd : x.quarter.2 * 10 ^ k = den)
    (hv : 4 * x.significand * x.quarter.1 = value) (hpos : den ≤ value)
    (hhit : x.interval.has x.quarter.1 (value / den * den) = true ∨
      x.interval.has x.quarter.1 ((value / den + 1) * den) = true) :
    ∃ d, x.onGrid k = some d ∧ d.digits ≠ 0 := by
  have hden : 0 < den := hd ▸ Nat.mul_pos x.quarter_pos.2 (Nat.pow_pos (by decide))
  have below := Nat.div_pos hpos hden
  rw [onGrid_natCast, hd, hv]
  dsimp only
  split_ifs with h₁ h₂ h₃
  · have rounded : roundDiv value den ≠ 0 := by
      rcases roundDiv_eq_or value den with h | h
      · rw [h]
        exact below.ne'
      · rw [h]
        exact Nat.succ_ne_zero _
    exact ⟨_, rfl, rounded⟩
  · exact ⟨_, rfl, below.ne'⟩
  · exact ⟨_, rfl, Nat.succ_ne_zero _⟩
  · simp_all

theorem dvd_of_isWhole (hw : x.isWhole = true) : x.ratio.2 ∣ x.ratio.1 :=
  Nat.dvd_of_mod_eq_zero (by simpa [isWhole] using hw)

/-- The grid of the units holds a whole number. -/
theorem exists_onGrid_zero (hw : x.isWhole = true) (hp : 0 < x.significand) :
    ∃ d, x.onGrid 0 = some d ∧ d.digits ≠ 0 := by
  obtain ⟨hunit, hden⟩ := x.quarter_pos
  obtain ⟨n, hn⟩ := dvd_of_isWhole hw
  have units : 4 * x.significand * x.quarter.1 = n * x.quarter.2 := by
    refine Nat.eq_of_mul_eq_mul_left (scaleRatio_pos hp Nat.one_pos x.exponent).2 ?_
    show x.ratio.2 * _ = x.ratio.2 * _
    rw [← ratio_quarter, hn, Nat.mul_assoc]
  have above : x.quarter.2 ≤ n * x.quarter.2 := by
    refine Nat.le_mul_of_pos_left _ (Nat.pos_of_mul_pos_right (a := n) (b := x.quarter.2) ?_)
    rw [← units]
    exact Nat.mul_pos (Nat.mul_pos (by decide) hp) hunit
  refine exists_onGrid (k := 0) (Nat.mul_one _) units above (.inl ?_)
  rw [Nat.mul_div_cancel n hden]
  exact interval_has hp (r := 1) (by decide) (fun _ => Nat.le_refl 1) units (by omega) (by omega)

/-- A grid with 17 digits for a number has a decimal for it. -/
theorem exists_onGrid_of_le {l : Nat} (hp : 0 < x.significand) (hs : x.significand < 2 ^ 53)
    (hl : 16 ≤ l) (h : 10 ^ l * x.ratio.2 ≤ x.ratio.1) :
    ∃ d, x.onGrid ((l - 16 : Nat) : Int) = some d ∧ d.digits ≠ 0 := by
  obtain ⟨hunit, hden⟩ := x.quarter_pos
  have grid : x.quarter.2 * 10 ^ (l - 16) * 10 ^ 16 ≤ 4 * x.significand * x.quarter.1 := by
    rw [Nat.mul_assoc, ← Nat.pow_add, Nat.sub_add_cancel hl]
    refine Nat.le_of_mul_le_mul_left ?_ (scaleRatio_pos hp Nat.one_pos x.exponent).2
    show x.ratio.2 * _ ≤ x.ratio.2 * _
    calc x.ratio.2 * (x.quarter.2 * 10 ^ l) = 10 ^ l * x.ratio.2 * x.quarter.2 := by ring
      _ ≤ x.ratio.1 * x.quarter.2 := Nat.mul_le_mul_right _ h
      _ = x.ratio.2 * (4 * x.significand * x.quarter.1) := ratio_quarter
  have step : 0 < x.quarter.2 * 10 ^ (l - 16) := Nat.mul_pos hden (Nat.pow_pos (by decide))
  exact exists_onGrid rfl rfl ((Nat.le_mul_of_pos_right _ (by decide)).trans grid)
    (has_neighbour hp hs hunit step rfl grid)

/-! ## The shortest decimal -/

/-- A search through a range finds something no later than at a place where there is something. -/
theorem exists_le_of_findSome?_range {α : Type} {f : Nat → Option α} {n m : Nat} {a : α}
    (h : (List.range n).findSome? f = some a) (hm : f m ≠ none) : ∃ i ≤ m, f i = some a := by
  obtain ⟨before, i, after, hl, hi, hnone⟩ := List.findSome?_eq_some_iff.1 h
  refine ⟨i, Nat.le_of_not_lt fun hlt => ?_, hi⟩
  have sorted : (before ++ i :: after).Pairwise (· < ·) := hl ▸ List.pairwise_lt_range
  have listed : i < n := List.mem_range.1 (hl ▸ by simp)
  have within : m ∈ before ++ i :: after := hl ▸ List.mem_range.2 (hlt.trans listed)
  rcases List.mem_append.1 within with hbefore | hafter
  · exact hm (hnone m hbefore)
  · rcases List.mem_cons.1 hafter with rfl | hafter
    · exact Nat.lt_irrefl _ hlt
    · have later := List.rel_of_pairwise_cons (List.pairwise_append.1 sorted).2.1 hafter
      omega

/-- The leading digit of what is one or more. -/
theorem exists_leadingExponent {num den : Nat} (hd : 0 < den) (h : den ≤ num) :
    ∃ l : Nat, leadingExponent num den = l ∧ 10 ^ l * den ≤ num := by
  have length : 0 < decimalLength (num / den) := Nat.length_toDigits_pos
  refine ⟨decimalLength (num / den) - 1, by rw [leadingExponent, if_pos h]; omega, ?_⟩
  rw [← Nat.le_div_iff_mul_le hd]
  cases hl : decimalLength (num / den) - 1 with
  | zero => exact Nat.div_pos h hd
  | succ l =>
    refine Nat.le_of_not_lt fun hlt => ?_
    have short := (Nat.length_toDigits_le_iff (by decide) l.succ_pos).2 hlt
    rw [decimalLength] at hl length
    omega

/-- The shortest decimal of a whole number has no fraction. There is one for a binary64, the
significand of which has 53 bits. -/
theorem shortest_cases (hw : x.isWhole = true) (hp : 0 < x.significand) :
    x.shortest.digits ≠ 0 ∧ 0 ≤ x.shortest.exponent ∨
      x.shortest = ⟨0, 0⟩ ∧ 2 ^ 53 ≤ x.significand := by
  obtain ⟨hnum, hden⟩ : 0 < x.ratio.1 ∧ 0 < x.ratio.2 := scaleRatio_pos hp Nat.one_pos _
  obtain ⟨l, hl, hle⟩ := exists_leadingExponent hden (Nat.le_of_dvd hnum (dvd_of_isWhole hw))
  have search : x.shortest = ((List.range 17).findSome? fun (n : Nat) =>
      (x.onGrid ((l : Int) - (n : Int))).filter fun d => d.digits != 0).getD ⟨0, 0⟩ := by
    rw [← hl]
    rfl
  rw [search]
  have hits {n : Nat} {d : Decimal} (hd : x.onGrid ((l : Int) - (n : Int)) = some d)
      (hne : d.digits ≠ 0) :
      (x.onGrid ((l : Int) - (n : Int))).filter (fun d => d.digits != 0) ≠ none := by
    simp [hd, hne]
  obtain ⟨units, hunits, hne⟩ := exists_onGrid_zero hw hp
  cases hfound : (List.range 17).findSome? fun (n : Nat) =>
      (x.onGrid ((l : Int) - (n : Int))).filter fun d => d.digits != 0 with
  | none =>
    refine .inr ⟨rfl, Nat.le_of_not_lt fun hs => ?_⟩
    have missed (n : Nat) (hn : n < 17) :=
      List.findSome?_eq_none_iff.1 hfound n (List.mem_range.2 hn)
    by_cases hfew : l ≤ 16
    · exact hits (by rwa [Int.sub_self]) hne (missed l (by omega))
    · obtain ⟨d, hd, hdigits⟩ := exists_onGrid_of_le hp hs (show 16 ≤ l by omega) hle
      exact hits (by rwa [← Int.natCast_sub (by omega)]) hdigits (missed 16 (by decide))
  | some found =>
    obtain ⟨i, hi, hgrid⟩ := exists_le_of_findSome?_range hfound
      (hits (n := l) (by rwa [Int.sub_self]) hne)
    obtain ⟨hgrid, hdigits⟩ := Option.filter_eq_some_iff.1 hgrid
    refine .inl ⟨by simpa using hdigits, ?_⟩
    show 0 ≤ found.exponent
    rw [exponent_of_onGrid hgrid]
    omega

/-! ## Text -/

theorem length_trimZeros_le (digits : List Char) : (trimZeros digits).length ≤ digits.length := by
  have length := congrArg List.length (trimZeros_append_zeros digits)
  rw [List.length_append] at length
  omega

theorem isDigit_of_mem_trimZeros {n : Nat} {c : Char}
    (hc : c ∈ trimZeros (Nat.toDigits 10 n)) : c.isDigit = true := by
  have whole := trimZeros_append_zeros (Nat.toDigits 10 n)
  exact Text.isDigit_of_mem_toDigits (whole ▸ List.mem_append_left _ hc : c ∈ Nat.toDigits 10 n)

/-- Trimmed digits with as many zeros behind them as a decimal without a fraction needs. -/
theorem positionalText_trimZeros {n : Nat} (hn : 0 < n) (k : Nat) :
    positionalText (trimZeros (Nat.toDigits 10 n))
        ((k : Int) + (Nat.toDigits 10 n).length - 1) true =
      Nat.toDigits 10 (n * 10 ^ k) ++ ['.', '0'] := by
  have length : 0 < (Nat.toDigits 10 n).length := Nat.length_toDigits_pos
  have shorter := length_trimZeros_le (Nat.toDigits 10 n)
  have places : ((k : Int) + (Nat.toDigits 10 n).length - 1).toNat + 1 =
      (Nat.toDigits 10 n).length + k := by omega
  have padded : trimZeros (Nat.toDigits 10 n) ++
      zeros ((Nat.toDigits 10 n).length + k - (trimZeros (Nat.toDigits 10 n)).length) =
        Nat.toDigits 10 (n * 10 ^ k) := by
    rw [Nat.sub_add_comm shorter, zeros, ← List.replicate_append_replicate, ← List.append_assoc,
      ← toDigits_zeros hn]
    exact congrArg (· ++ zeros k) (trimZeros_append_zeros _)
  unfold positionalText
  rw [if_neg (by omega)]
  dsimp only
  rw [places, if_pos (by omega), if_pos rfl, padded]

/-- The text of a whole number above zero is a numeral and `.0`, or it has an exponent that is not
below zero. -/
theorem text_of_whole (hw : x.isWhole = true) (hn : x.negative = false) (hp : 0 < x.significand) :
    (∃ m, (x.significand < 2 ^ 53 → 0 < m) ∧
      (x.text Json.numberLayout).toList = Nat.toDigits 10 m ++ ['.', '0']) ∨
    ∃ (d : Char) (ds : List Char) (e : Nat), d.isDigit = true ∧ (∀ c ∈ ds, c.isDigit = true) ∧
      (x.text Json.numberLayout).toList =
        d :: (if ds = [] then [] else '.' :: ds) ++ 'e' :: '+' :: Nat.toDigits 10 e := by
  have zero : x.isZero = false := by simpa [isZero] using hp.ne'
  rw [text, String.toList_ofList, hn, zero]
  simp only [Bool.false_eq_true, if_false, List.nil_append]
  rcases shortest_cases hw hp with ⟨hne, hexp⟩ | ⟨hd, hlarge⟩
  · obtain ⟨k, hk⟩ := Int.eq_ofNat_of_zero_le hexp
    have length : 0 < (Nat.toDigits 10 x.shortest.digits).length := Nat.length_toDigits_pos
    have lead : 0 ≤ x.shortest.exponent + (Nat.toDigits 10 x.shortest.digits).length - 1 := by
      omega
    split
    · rw [hk]
      have pos := Nat.pos_of_ne_zero hne
      exact .inl ⟨_, fun _ => Nat.mul_pos pos (Nat.pow_pos (by decide)),
        positionalText_trimZeros pos k⟩
    · obtain ⟨d, ds, hds⟩ := List.exists_cons_of_ne_nil (trimZeros_ne_nil hne)
      have digit : ∀ c ∈ d :: ds, c.isDigit = true :=
        fun c hc => isDigit_of_mem_trimZeros (hds ▸ hc)
      refine .inr ⟨d, ds,
        (x.shortest.exponent + (Nat.toDigits 10 x.shortest.digits).length - 1).natAbs,
        digit d List.mem_cons_self, fun c hc => digit c (List.mem_cons_of_mem d hc), ?_⟩
      rw [hds, exponentText, if_neg (by omega)]
      cases ds <;> rfl
  · exact .inl ⟨0, fun hs => absurd hs (Nat.not_lt.2 hlarge), by rw [hd]; decide⟩

/-- A number above zero has no sign. -/
theorem unsigned_of_compareInt (h : x.compareInt 0 = .gt) :
    x.negative = false ∧ 0 < x.significand := by
  have above : 0 * (x.ratio.2 : Int) < if x.negative then -(x.ratio.1 : Int) else x.ratio.1 :=
    Int.compare_eq_gt.1 h
  rw [Int.zero_mul] at above
  cases hneg : x.negative with
  | true =>
    rw [hneg, if_pos rfl] at above
    omega
  | false =>
    rw [hneg, if_neg (by decide)] at above
    refine ⟨rfl, Nat.pos_of_ne_zero fun hzero => ?_⟩
    have : x.ratio.1 = 0 := by
      unfold ratio scaleRatio
      rw [hzero]
      split
      · exact Nat.zero_mul _
      · rfl
    omega

end Double

/-! ## Whole numbers -/

/-- The texts of a whole number above zero. The significand of a binary64 has 53 bits. -/
inductive WholeText : Number → List Char → Prop
  | numeral {m : Nat} : 0 < m → WholeText (.int m) (Nat.toDigits 10 m)
  | point {x : Double} {m : Nat} : (x.significand < 2 ^ 53 → 0 < m) →
      WholeText (.real x) (Nat.toDigits 10 m ++ ['.', '0'])
  | exponent {x : Double} {d : Char} {ds : List Char} (e : Nat) : d.isDigit = true →
      (∀ c ∈ ds, c.isDigit = true) → WholeText (.real x)
        (d :: (if ds = [] then [] else '.' :: ds) ++ 'e' :: '+' :: Nat.toDigits 10 e)

theorem wholeText_numberChars {n : Number} (hw : n.isWhole = true)
    (hp : n.order (.int 0) = .gt) : WholeText n (Json.numberChars n) := by
  cases n with
  | int m =>
    have pos : 0 < m := Int.compare_eq_gt.1 hp
    obtain ⟨k, rfl⟩ := Int.eq_ofNat_of_zero_le pos.le
    rw [Json.numberChars, Json.intChars, if_neg (by omega)]
    exact .numeral (by omega)
  | real x =>
    obtain ⟨hneg, hsig⟩ := Double.unsigned_of_compareInt hp
    rcases Double.text_of_whole hw hneg hsig with ⟨m, hm, ht⟩ | ⟨d, ds, e, hd, hds, ht⟩
    · rw [Json.numberChars, ht]
      exact .point hm
    · rw [Json.numberChars, ht]
      exact .exponent e hd hds

end EntitySchema
