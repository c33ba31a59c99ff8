/-!
# Binary64 numbers

A finite binary64 number is a sign, a significand and an exponent; its value is
`± significand · 2 ^ exponent`. All arithmetic is done on natural numbers: an operation forms
the exact quotient of its result and rounds it once, to the nearest number, a half to the even
significand. Nothing here is a machine operation, so every result can be computed in a proof.
-/

namespace EntitySchema

/-- A finite binary64 number. `Double.ofRatio` builds the canonical ones: the significand is
below `2 ^ 53`, and it is at least `2 ^ 52` unless the exponent is the least one, `-1074`. -/
structure Double where
  negative : Bool
  significand : Nat
  exponent : Int
deriving DecidableEq, Repr

namespace Double

/-! ## Rounding a quotient -/

/-- The whole number nearest to `num / den`; a half goes to the even one. -/
def roundDiv (num den : Nat) : Nat :=
  let q := num / den
  let twice := 2 * (num % den)
  if twice < den then q
  else if den < twice then q + 1
  else if q % 2 = 0 then q else q + 1

/-- A quotient is rounded to one of its two neighbours. -/
theorem roundDiv_eq_or (num den : Nat) :
    roundDiv num den = num / den ∨ roundDiv num den = num / den + 1 := by
  unfold roundDiv
  dsimp only
  split
  · exact .inl rfl
  · split
    · exact .inr rfl
    · split
      · exact .inl rfl
      · exact .inr rfl

/-- `num / den · 2 ^ e` as a quotient of natural numbers. -/
def scaleRatio (num den : Nat) (e : Int) : Nat × Nat :=
  if 0 ≤ e then (num * Nat.pow 2 e.toNat, den) else (num, den * Nat.pow 2 (-e).toNat)

/-- The exponent that gives `num / den` a significand of 53 bits, but no less than `-1074`. -/
def exponentFor (num den : Nat) : Int :=
  let k : Int := (Nat.log2 num : Int) - (Nat.log2 den : Int)
  let (n, d) := scaleRatio num den (-k)
  max (if n < d then k - 53 else k - 52) (-1074)

/-- The binary64 number nearest to `± num / den`, or nothing when it is too large. -/
def ofRatio (negative : Bool) (num den : Nat) : Option Double :=
  if num = 0 ∨ den = 0 then some ⟨negative, 0, -1074⟩
  else
    let e := exponentFor num den
    let (n, d) := scaleRatio num den (-e)
    let m := roundDiv n d
    let (m, e) := if m = Nat.pow 2 53 then (Nat.pow 2 52, e + 1) else (m, e)
    if 971 < e then none else some ⟨negative, m, e⟩

def ofNat (n : Nat) : Option Double := ofRatio false n 1

def zero : Double := ⟨false, 0, -1074⟩

/-! ## Values -/

/-- The magnitude as a quotient of natural numbers. -/
def ratio (x : Double) : Nat × Nat := scaleRatio x.significand 1 x.exponent

/-- Nothing when the product is too large. -/
def mul? (x y : Double) : Option Double :=
  let (a, b) := x.ratio
  let (c, d) := y.ratio
  ofRatio (x.negative != y.negative) (a * c) (b * d)

/-- Nothing when the quotient is too large. The divisor is taken to be nonzero. -/
def div? (x y : Double) : Option Double :=
  let (a, b) := x.ratio
  let (c, d) := y.ratio
  ofRatio (x.negative != y.negative) (a * d) (b * c)

/-- `- num / den` when `negative`, compared with `n` exactly. -/
def compareRatio (negative : Bool) (num den : Nat) (n : Int) : Ordering :=
  compare (if negative then -(num : Int) else num) (n * den)

/-- The order of a binary64 number and a whole number, without rounding either. -/
def compareInt (x : Double) (n : Int) : Ordering :=
  let (a, b) := x.ratio
  compareRatio x.negative a b n

/-- The order of two binary64 numbers by value; the two zeros are equal. -/
def compare (x y : Double) : Ordering :=
  let (a, b) := x.ratio
  let (c, d) := y.ratio
  let left : Int := if x.negative then -(a * d : Nat) else (a * d : Nat)
  let right : Int := if y.negative then -(c * b : Nat) else (c * b : Nat)
  Ord.compare left right

/-- Whether the value is a whole number. -/
def isWhole (x : Double) : Bool :=
  let (a, b) := x.ratio
  a % b == 0

/-- The whole part of the magnitude. -/
def wholePart (x : Double) : Nat :=
  let (a, b) := x.ratio
  a / b

def isZero (x : Double) : Bool := x.significand == 0

/-! ## Decimal input -/

/-- `10 ^ k`, for `k ≤ 308`. -/
def powTen (k : Nat) : Double := (ofNat (Nat.pow 10 k)).getD zero

/-- The number written as `digits · 10 ^ exponent`: the digits become a binary64 number first and
are then multiplied or divided by a power of ten, in two steps below `10 ^ -308`. -/
def ofDecimal (digits : Nat) (exponent : Int) : Option Double := do
  let x ← ofNat digits
  if 0 ≤ exponent then
    if exponent ≤ 308 then x.mul? (powTen exponent.toNat)
    else if x.isZero then some x else none
  else if -308 ≤ exponent then x.div? (powTen (-exponent).toNat)
  else if -616 ≤ exponent then (← x.div? (powTen 308)).div? (powTen (-exponent - 308).toNat)
  else some zero

example : ofRatio false 1 3 = some ⟨false, 6004799503160661, -54⟩ := by decide
example : ofDecimal 5 (-324) = some ⟨false, 1, -1074⟩ := by decide +kernel
example : ofDecimal 1 309 = none := by decide +kernel
example : compareInt ⟨false, 3, -1⟩ 1 = .gt := by decide

end Double

end EntitySchema
