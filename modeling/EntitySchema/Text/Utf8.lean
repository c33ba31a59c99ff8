/-!
# Bytes that are no text

A sequence of bytes that is no UTF-8 stops being so at some byte: there the longest run of whole
characters ends, and the bytes after it either begin no character or break off within one.
-/

namespace EntitySchema.Text.Utf8

/-- Where and how bytes stop being UTF-8. -/
inductive Fault where
  /-- So many bytes from an index on that begin no character together with the next one. -/
  | invalid (count index : Nat)
  /-- A character that is not finished. -/
  | incomplete (index : Nat)
deriving DecidableEq, Repr

def Fault.message : Fault → String
  | .invalid n i => "invalid utf-8 sequence of " ++ toString n ++ " bytes from index " ++ toString i
  | .incomplete i => "incomplete utf-8 byte sequence from index " ++ toString i

/-- The bytes that may follow a first byte: the range of the second one, and how many come after
that. -/
def continuation? (first : UInt8) : Option ((UInt8 × UInt8) × Nat) :=
  if 0xc2 ≤ first ∧ first ≤ 0xdf then some ((0x80, 0xbf), 0)
  else if first = 0xe0 then some ((0xa0, 0xbf), 1)
  else if first = 0xed then some ((0x80, 0x9f), 1)
  else if 0xe1 ≤ first ∧ first ≤ 0xef then some ((0x80, 0xbf), 1)
  else if first = 0xf0 then some ((0x90, 0xbf), 2)
  else if 0xf1 ≤ first ∧ first ≤ 0xf3 then some ((0x80, 0xbf), 2)
  else if first = 0xf4 then some ((0x80, 0x8f), 2)
  else none

/-- The first fault of some bytes. The character that is being read began at `start`, is `read`
bytes long so far, and still wants a byte from each of the ranges. -/
def faultFrom (start read : Nat) (wanted : List (UInt8 × UInt8)) (bytes : List UInt8) :
    Option Fault :=
  match bytes, wanted with
  | [], [] => none
  | [], _ :: _ => some (.incomplete start)
  | b :: rest, (low, high) :: wanted =>
    if low ≤ b ∧ b ≤ high then faultFrom start (read + 1) wanted rest
    else some (.invalid read start)
  | b :: rest, [] =>
    if b < 0x80 then faultFrom (start + read) 1 [] rest
    else match continuation? b with
      | some (second, n) =>
        faultFrom (start + read) 1 (second :: List.replicate n (0x80, 0xbf)) rest
      | none => some (.invalid 1 (start + read))

def fault? (bytes : List UInt8) : Option Fault := faultFrom 0 0 [] bytes

example : fault? [0x61, 0xe2, 0x82, 0xac, 0x61] = none := by decide
example : fault? [0x61, 0xff] = some (.invalid 1 1) := by decide
example : fault? [0xe2, 0x82, 0x61] = some (.invalid 2 0) := by decide
example : fault? [0x61, 0xf0, 0x9f] = some (.incomplete 1) := by decide

end EntitySchema.Text.Utf8
