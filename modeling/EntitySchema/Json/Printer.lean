import EntitySchema.Json.Basic

/-!
# Compact Json text

No spaces; a string escapes the quote, the backslash and the control characters and nothing else;
a whole number is written in decimal, a binary64 with the fewest digits that read back.
-/

namespace EntitySchema.Json

/-- Binary64 numbers from `1e-5` to below `1e16` are written without an exponent, and always with
a point. -/
def numberLayout : Double.Layout where
  positional lead := decide (-5 ≤ lead) && decide (lead < 16)
  point := true

def intChars (n : Int) : List Char :=
  if n < 0 then '-' :: Nat.toDigits 10 n.natAbs else Nat.toDigits 10 n.natAbs

def numberChars : Number → List Char
  | .int n => intChars n
  | .real x => (x.text numberLayout).toList

/-- A hexadecimal digit in lower case. -/
def hexDigit (n : Nat) : Char := Nat.digitChar n

/-- A character inside a string. -/
def stringChar (c : Char) : List Char :=
  if c = '"' then ['\\', '"']
  else if c = '\\' then ['\\', '\\']
  else if 0x20 ≤ c.toNat then [c]
  else if c = '\x08' then ['\\', 'b']
  else if c = '\x0c' then ['\\', 'f']
  else if c = '\n' then ['\\', 'n']
  else if c = '\r' then ['\\', 'r']
  else if c = '\t' then ['\\', 't']
  else ['\\', 'u', '0', '0', hexDigit (c.toNat / 16), hexDigit (c.toNat % 16)]

def stringChars (s : String) : List Char := '"' :: s.toList.flatMap stringChar ++ ['"']

mutual

/-- The compact text of a value. -/
def chars : Json → List Char
  | .null => ['n', 'u', 'l', 'l']
  | .bool true => ['t', 'r', 'u', 'e']
  | .bool false => ['f', 'a', 'l', 's', 'e']
  | .num n => numberChars n
  | .str s => stringChars s
  | .arr [] => ['[', ']']
  | .arr (x :: xs) => '[' :: chars x ++ itemChars xs
  | .obj [] => ['\x7b', '\x7d']
  | .obj ((k, v) :: ms) => '\x7b' :: stringChars k ++ ':' :: chars v ++ memberChars ms

/-- The items after the first one, and the closing bracket. -/
def itemChars : List Json → List Char
  | [] => [']']
  | x :: xs => ',' :: chars x ++ itemChars xs

/-- The members after the first one, and the closing brace. -/
def memberChars : List (String × Json) → List Char
  | [] => ['\x7d']
  | (k, v) :: ms => ',' :: stringChars k ++ ':' :: chars v ++ memberChars ms

end

/-- The compact text of a value. -/
def text (v : Json) : String := String.ofList v.chars

/-- The text of a string, in quotes. -/
def quoted (s : String) : String := String.ofList (stringChars s)

example :
    (Json.arr [.num (.int (-5)), .null, .str "a\"b"]).chars = "[-5,null,\"a\\\"b\"]".toList := by
  decide +kernel
example : (Json.obj [("b", .num (.real ⟨false, Nat.pow 2 52, -52⟩)), ("a", .bool true)]).chars =
    "\x7b\"b\":1.0,\"a\":true\x7d".toList := by decide +kernel

end EntitySchema.Json
