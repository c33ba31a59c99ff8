import EntitySchema.Decimal.Double

/-!
# The fewest digits that read back

Every real number in a certain interval around a binary64 number rounds to it. Among the decimals
in that interval the text of the number is one with the fewest digits, and of those the nearest.

For each count of digits, only the two neighbours of the number on that decimal grid can be
nearest, so `shortest` looks at these for 1, 2, … 17 digits and takes the first count that hits.
-/

namespace EntitySchema

/-- Decimal digits and the exponent of the last one: `digits · 10 ^ exponent`. -/
structure Decimal where
  digits : Nat
  exponent : Int
deriving DecidableEq, Repr

namespace Double

/-- The number of decimal digits of a positive number. -/
def decimalLength (n : Nat) : Nat := (Nat.toDigits 10 n).length

/-- The exponent of the leading decimal digit of `num / den`. -/
def leadingExponent (num den : Nat) : Int :=
  if den ≤ num then (decimalLength (num / den) : Int) - 1
  else -(decimalLength ((den + num - 1) / num - 1) : Int)

/-- The interval of reals that round to a number: its ends as multiples of `2 ^ (exponent - 2)`,
and whether the ends belong to it. -/
structure Interval where
  low : Nat
  high : Nat
  closed : Bool

def interval (x : Double) : Interval where
  low := 4 * x.significand - if x.significand = Nat.pow 2 52 ∧ -1074 < x.exponent then 1 else 2
  high := 4 * x.significand + 2
  closed := x.significand % 2 == 0

/-- Whether `d` rounds back to the number the interval belongs to; all three quantities are
brought to one denominator by the caller. -/
def Interval.has (i : Interval) (unit d : Nat) : Bool :=
  if i.closed then i.low * unit ≤ d && d ≤ i.high * unit
  else i.low * unit < d && d < i.high * unit

/-- The nearest decimal of the grid `10 ^ k` that reads back, if one does. A tie goes to the even
digit. -/
def onGrid (x : Double) (k : Int) : Option Decimal :=
  -- in units of `10 ^ k / den`: the value is `4 · significand · unit`, a grid step is `den`
  let (p, q) := scaleRatio 1 1 (x.exponent - 2)
  let unit := if 0 ≤ k then p else p * Nat.pow 10 (-k).toNat
  let den := if 0 ≤ k then q * Nat.pow 10 k.toNat else q
  let value := 4 * x.significand * unit
  let below := value / den
  let i := x.interval
  let lowHit := i.has unit (below * den)
  let highHit := i.has unit ((below + 1) * den)
  if lowHit && highHit then some ⟨roundDiv value den, k⟩
  else if lowHit then some ⟨below, k⟩
  else if highHit then some ⟨below + 1, k⟩
  else none

/-- The decimal for the magnitude of a nonzero number. -/
def shortest (x : Double) : Decimal :=
  let (num, den) := x.ratio
  let lead := leadingExponent num den
  ((List.range 17).findSome? fun (n : Nat) =>
    (x.onGrid (lead - (n : Int))).filter fun d => d.digits != 0).getD ⟨0, 0⟩

/-- The magnitude as its shortest decimal, as a quotient. -/
def shortestRatio (x : Double) : Nat × Nat :=
  let d := x.shortest
  (d.digits * Nat.pow 10 d.exponent.toNat, Nat.pow 10 (-d.exponent).toNat)

/-! ## Text -/

/-- How a decimal is laid out. -/
structure Layout where
  /-- Whether a number with this exponent of its leading digit is written without `e`. -/
  positional : Int → Bool
  /-- Whether a whole number is written with `.0`. -/
  point : Bool

def zeros (n : Nat) : List Char := List.replicate n '0'

/-- Digits with a point, where the leading digit has the exponent `lead`. -/
def positionalText (digits : List Char) (lead : Int) (point : Bool) : List Char :=
  if lead < 0 then '0' :: '.' :: zeros (-lead - 1).toNat ++ digits
  else
    let whole := lead.toNat + 1
    if digits.length ≤ whole then
      digits ++ zeros (whole - digits.length) ++ (if point then ['.', '0'] else [])
    else digits.take whole ++ '.' :: digits.drop whole

/-- One digit, the others after a point, and the exponent with its sign. -/
def exponentText (digits : List Char) (lead : Int) : List Char :=
  let fraction := match digits.drop 1 with
    | [] => []
    | rest => '.' :: rest
  digits.take 1 ++ fraction ++ 'e' :: (if lead < 0 then '-' else '+') :: Nat.toDigits 10 lead.natAbs

/-- Digits without the zeros at the end. -/
def trimZeros (digits : List Char) : List Char :=
  (digits.reverse.dropWhile (· == '0')).reverse

/-- The shortest text of a number in a layout. -/
def text (layout : Layout) (x : Double) : String :=
  let sign := if x.negative then ['-'] else []
  let body :=
    if x.isZero then if layout.point then ['0', '.', '0'] else ['0']
    else
      let d := x.shortest
      let digits := Nat.toDigits 10 d.digits
      let lead := d.exponent + digits.length - 1
      let digits := trimZeros digits
      if layout.positional lead then positionalText digits lead layout.point
      else exponentText digits lead
  String.ofList (sign ++ body)

end Double

end EntitySchema
