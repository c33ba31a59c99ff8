/-!
# Base64

Four characters stand for three bytes. The last four may stand for fewer; then `=` takes the places
left over, and the bits left over are zero.
-/

namespace EntitySchema.Text.Base64

/-- The six bits that a character stands for. -/
def value? (c : Char) : Option Nat :=
  if c.isUpper then some (c.toNat - 'A'.toNat)
  else if c.isLower then some (c.toNat - 'a'.toNat + 26)
  else if c.isDigit then some (c.toNat - '0'.toNat + 52)
  else if c = '+' then some 62
  else if c = '/' then some 63
  else none

/-- The bytes that a text stands for. -/
def decode? : List Char → Option (List UInt8)
  | [] => some []
  | [a, b, '=', '='] => do
    let (a, b) := (← value? a, ← value? b)
    if b % 16 = 0 then return [UInt8.ofNat (4 * a + b / 16)] else none
  | [a, b, c, '='] => do
    let (a, b, c) := (← value? a, ← value? b, ← value? c)
    if c % 4 = 0 then
      return [UInt8.ofNat (4 * a + b / 16), UInt8.ofNat (16 * b + c / 4)]
    else none
  | a :: b :: c :: d :: rest => do
    let (a, b, c, d) := (← value? a, ← value? b, ← value? c, ← value? d)
    return UInt8.ofNat (4 * a + b / 16) :: UInt8.ofNat (16 * b + c / 4)
      :: UInt8.ofNat (64 * c + d) :: (← decode? rest)
  | _ => none

example : decode? "TWFu".toList = some [77, 97, 110] := by decide
example : decode? "TWE=".toList = some [77, 97] := by decide
example : decode? "TQ==".toList = some [77] := by decide
example : decode? "TR==".toList = none := by decide
example : decode? "TQ".toList = none := by decide

end EntitySchema.Text.Base64
