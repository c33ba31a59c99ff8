import EntitySchema.Text.Characters
import EntitySchema.Text.Split

/-!
# Network addresses

The texts of IPv4 and IPv6 addresses.
-/

namespace EntitySchema.Uri

/-- A decimal number up to 255 without leading zeros. -/
def isOctet (s : List Char) : Bool :=
  s.all Char.isDigit && 1 ≤ s.length && s.length ≤ 3 && Text.decimalValue s ≤ 255
    && (s.head? ≠ some '0' || s.length = 1)

def ipv4 (s : List Char) : Bool :=
  let parts := Text.splitOn '.' s
  parts.length == 4 && parts.all isOctet

/-- One to four hexadecimal digits. -/
def isGroup (s : List Char) : Bool :=
  1 ≤ s.length && s.length ≤ 4 && s.all fun c => (Text.hexDigit? c).isSome

/-- How many 16-bit groups some parts stand for; the last part may be an IPv4 address. -/
def groupCount (parts : List (List Char)) : Option Nat :=
  match parts.reverse with
  | [] => some 0
  | last :: front =>
    if front.all isGroup then
      if isGroup last then some parts.length
      else if ipv4 last then some (parts.length + 1)
      else none
    else none

/-- The parts of a text between colons; no parts for the empty text. -/
def colonParts (s : List Char) : List (List Char) := if s.isEmpty then [] else Text.splitOn ':' s

/-- The text before and after the first double colon. -/
def splitDoubleColon : List Char → Option (List Char × List Char)
  | ':' :: ':' :: rest => some ([], rest)
  | c :: rest => (splitDoubleColon rest).map fun r => (c :: r.1, r.2)
  | [] => none

def ipv6 (s : List Char) : Bool :=
  match splitDoubleColon s with
  | none => groupCount (Text.splitOn ':' s) == some 8
  | some (front, back) =>
    -- before the double colon there is no room for an IPv4 address
    let front := colonParts front
    front.all isGroup && match groupCount (colonParts back) with
      | some n => front.length + n ≤ 7
      | none => false

end EntitySchema.Uri
