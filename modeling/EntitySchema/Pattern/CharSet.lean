import EntitySchema.Text.Case
import EntitySchema.Text.Characters

/-!
# Sets of characters

What one place of a pattern admits: ranges and the classes of Unicode, and what can be made of them
by set operations. `has` decides membership.
-/

namespace EntitySchema

/-- The classes of characters that a pattern can name. -/
inductive CharClass where
  | letter
  | digit
  | number
  | word
  | blank
deriving DecidableEq, Repr

def CharClass.has : CharClass → Char → Bool
  | .letter, c => Text.isLetter c
  | .digit, c => Text.isAnyDigit c
  | .number, c => Text.isAnyDigit c || Text.numberRanges.has c
  | .word, c => Text.isWordChar c
  | .blank, c => Text.isBlank c

inductive CharSet where
  | ranges (rs : Text.CharRanges)
  | named (c : CharClass)
  | either (s t : CharSet)
  | both (s t : CharSet)
  | outside (s : CharSet)
  /-- What differs from a member in case only. -/
  | anyCase (s : CharSet)
deriving DecidableEq, Repr

namespace CharSet

def has : CharSet → Char → Bool
  | .ranges rs, c => rs.has c
  | .named k, c => k.has c
  | .either s t, c => s.has c || t.has c
  | .both s t, c => s.has c && t.has c
  | .outside s, c => !s.has c
  | .anyCase s, c => (Text.caseVariants c).any s.has

def nothing : CharSet := .ranges []

def single (c : Char) : CharSet := .ranges [(c.toNat, c.toNat)]

def without (s t : CharSet) : CharSet := .both s (.outside t)

/-- What is in one of two sets, but not in both. -/
def oneOf (s t : CharSet) : CharSet := .either (s.without t) (t.without s)

def newline : CharSet := single '\n'

/-- Hexadecimal digits. -/
def hexDigits : CharSet := .ranges [(0x30, 0x39), (0x41, 0x46), (0x61, 0x66)]

/-- The only character of a set that was written as one. -/
def only? : CharSet → Option Nat
  | .ranges [(a, b)] => if a = b then some a else none
  | _ => none

/-- The sets that go by a name between `[:` and `:]`. -/
def ofName? (name : String) : Option CharSet :=
  if name = "alnum" then some (.ranges [(0x30, 0x39), (0x41, 0x5A), (0x61, 0x7A)])
  else if name = "alpha" then some (.ranges [(0x41, 0x5A), (0x61, 0x7A)])
  else if name = "ascii" then some (.ranges [(0x0, 0x7F)])
  else if name = "blank" then some (.ranges [(0x9, 0x9), (0x20, 0x20)])
  else if name = "cntrl" then some (.ranges [(0x0, 0x1F), (0x7F, 0x7F)])
  else if name = "digit" then some (.ranges [(0x30, 0x39)])
  else if name = "graph" then some (.ranges [(0x21, 0x7E)])
  else if name = "lower" then some (.ranges [(0x61, 0x7A)])
  else if name = "print" then some (.ranges [(0x20, 0x7E)])
  else if name = "punct" then
    some (.ranges [(0x21, 0x2F), (0x3A, 0x40), (0x5B, 0x60), (0x7B, 0x7E)])
  else if name = "space" then some (.ranges [(0x9, 0xD), (0x20, 0x20)])
  else if name = "upper" then some (.ranges [(0x41, 0x5A)])
  else if name = "word" then
    some (.ranges [(0x30, 0x39), (0x41, 0x5A), (0x5F, 0x5F), (0x61, 0x7A)])
  else if name = "xdigit" then some hexDigits
  else none

/-- The sets that go by the name of a property of Unicode. The other general categories, scripts and
binary properties are left out. -/
def ofProperty? (name : String) : Option CharSet :=
  if name = "L" ∨ name = "Letter" ∨ name = "Alphabetic" then some (.named .letter)
  else if name = "N" ∨ name = "Number" then some (.named .number)
  else if name = "Nd" then some (.named .digit)
  else if name = "White_Space" then some (.named .blank)
  else none

end CharSet

end EntitySchema
