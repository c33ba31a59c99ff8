import EntitySchema.Json.Basic

/-!
# Numbers by value

Numbers are compared by their value, whole or not, without rounding. Two Json values are equal by
value when their numbers are, and all else agrees, the order of members included. They are identical
when they are written the same way, in whatever order their members come.
-/

namespace EntitySchema

namespace Number

/-- The order of two numbers by value. -/
def order : Number → Number → Ordering
  | .int a, .int b => compare a b
  | .int a, .real y => (y.compareInt a).swap
  | .real x, .int b => x.compareInt b
  | .real x, .real y => Double.compare x y

def lt (a b : Number) : Bool := a.order b == .lt

def equal (a b : Number) : Bool := a.order b == .eq

/-- Whether the value is a whole number. -/
def isWhole : Number → Bool
  | .int _ => true
  | .real x => x.isWhole

/-- The nearest binary64 number. -/
def toDouble : Number → Double
  | .int n => (Double.ofRatio (n < 0) n.natAbs 1).getD Double.zero
  | .real x => x

/-- A whole number that is not negative, if this is one; above `2 ^ 64` it is cut off. -/
def toLimit? : Number → Option Nat
  | .int n => if 0 ≤ n then some n.toNat else none
  | .real x =>
    if x.isWhole then some (if x.negative then 0 else min x.wholePart (Nat.pow 2 64 - 1)) else none

/-- Whether two numbers differ by less than `2 ^ -52` as binary64 numbers. -/
def close (a b : Number) : Bool :=
  let (n, d) := a.toDouble.ratio
  let (m, e) := b.toDouble.ratio
  let left : Int := if a.toDouble.negative then -(n * e : Nat) else (n * e : Nat)
  let right : Int := if b.toDouble.negative then -(m * d : Nat) else (m * d : Nat)
  (left - right).natAbs * Nat.pow 2 52 < d * e

/-- Whether `a` is a multiple of `b`, which is above zero. When `b` is whole, `a` must be, and leave
no remainder; else the binary64 quotient must be within `2 ^ -52` above a whole number, or below
zero. When the quotient is too large, the decimals that the numbers are written with decide. -/
def isMultiple (a b : Number) : Bool :=
  let x := a.toDouble
  let y := b.toDouble
  if y.isWhole then x.isWhole && x.wholePart % y.wholePart == 0
  else match x.div? y with
    | some q =>
      let (n, d) := q.ratio
      q.negative || n % d * Nat.pow 2 52 < d
    | none =>
      let (n, d) := x.shortestRatio
      let (m, e) := y.shortestRatio
      n * e % (d * m) == 0

/-- Whether two numbers are written the same way: both whole and equal, or the same binary64. -/
def identical : Number → Number → Bool
  | .int a, .int b => a == b
  | .real x, .real y => x == y
  | _, _ => false

end Number

namespace Json

mutual

/-- Equality by value. -/
def equal : Json → Json → Bool
  | .null, .null => true
  | .bool a, .bool b => a == b
  | .num a, .num b => a.equal b
  | .str a, .str b => a == b
  | .arr xs, .arr ys => equalItems xs ys
  | .obj ms, .obj ns => equalMembers ms ns
  | _, _ => false

def equalItems : List Json → List Json → Bool
  | [], [] => true
  | x :: xs, y :: ys => equal x y && equalItems xs ys
  | _, _ => false

def equalMembers : List (String × Json) → List (String × Json) → Bool
  | [], [] => true
  | (j, v) :: ms, (k, w) :: ns => j == k && equal v w && equalMembers ms ns
  | _, _ => false

end

/-- Equality with a constant: a number may be off by less than `2 ^ -52`. -/
def equalConst : Json → Json → Bool
  | .num a, .num b => a.close b
  | v, w => equal v w

mutual

/-- Whether two values are written the same way, up to the order of members. Keys are taken to be
distinct. -/
def identical : Json → Json → Bool
  | .null, .null => true
  | .bool a, .bool b => a == b
  | .num a, .num b => a.identical b
  | .str a, .str b => a == b
  | .arr xs, .arr ys => identicalItems xs ys
  | .obj ms, .obj ns => ms.length == ns.length && identicalMembers ms ns
  | _, _ => false

def identicalItems : List Json → List Json → Bool
  | [], [] => true
  | x :: xs, y :: ys => identical x y && identicalItems xs ys
  | _, _ => false

def identicalMembers : List (String × Json) → List (String × Json) → Bool
  | [], _ => true
  | (k, v) :: ms, ns => (match Members.get? ns k with
    | some w => identical v w
    | none => false) && identicalMembers ms ns

end

/-- Whether no two items are alike. -/
def pairwiseDistinct (alike : Json → Json → Bool) : List Json → Bool
  | [] => true
  | x :: xs => xs.all (fun y => !alike x y) && pairwiseDistinct alike xs

/-- Whether all items count as distinct. Up to fifteen are compared by value; more are told apart by
how they are written. -/
def allDistinct (xs : List Json) : Bool :=
  if xs.length ≤ 15 then pairwiseDistinct equal xs else pairwiseDistinct identical xs

end Json

end EntitySchema
