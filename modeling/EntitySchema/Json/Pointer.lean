import EntitySchema.Json.Basic
import EntitySchema.Text.Split

/-!
# Pointers

A pointer is a list of steps into a value: keys of objects and indices of arrays. Its text writes
each step after a slash, with `~0` for `~` and `~1` for `/`.

In messages a pointer is shown the way a program would write the access: `items[0].name`.
-/

namespace EntitySchema

/-- One step into a Json value. -/
inductive Step where
  | key (k : String)
  | index (i : Nat)
deriving DecidableEq, Repr

/-- Steps from the outside in. -/
abbrev Pointer := List Step

namespace Pointer

/-! ## Text -/

/-- A key with `~` and `/` escaped. -/
def escape (cs : List Char) : List Char :=
  cs.flatMap fun c => if c = '~' then ['~', '0'] else if c = '/' then ['~', '1'] else [c]

def stepChars : Step → List Char
  | .key k => escape k.toList
  | .index i => Nat.toDigits 10 i

def chars (p : Pointer) : List Char := p.flatMap fun s => '/' :: stepChars s

def text (p : Pointer) : String := String.ofList p.chars

/-! ## Reading -/

/-- Replaces every `a b` by `c`, from left to right. -/
def replacePair (a b c : Char) : List Char → List Char
  | x :: y :: rest => if x = a ∧ y = b then c :: replacePair a b c rest
    else x :: replacePair a b c (y :: rest)
  | rest => rest

/-- Undoes `escape`: first `~1` becomes `/`, then `~0` becomes `~`. -/
def unescape (cs : List Char) : List Char := replacePair '~' '0' '~' (replacePair '~' '1' '/' cs)

/-- The steps of a pointer's text, unescaped. What stands before the first slash is dropped. -/
def segments (text : List Char) : List (List Char) := (Text.splitOn '/' text).tail.map unescape

/-! ## Access notation -/

/-- Whether a segment is written in brackets: digits only, and at least one. -/
def isIndex (segment : List Char) : Bool := !segment.isEmpty && segment.all Char.isDigit

/-- Appends one segment: an index in brackets, anything else after a dot, which is left out at the
very beginning. -/
def accessStep (path segment : List Char) : List Char :=
  if isIndex segment then path ++ '[' :: segment ++ [']']
  else if path.isEmpty then segment
  else path ++ '.' :: segment

def accessChars (segments : List (List Char)) : List Char := segments.foldl accessStep []

/-- A pointer's text in access notation. -/
def access (pointer : String) : String := String.ofList (accessChars (segments pointer.toList))

example : accessChars (segments "/items/0/na~1me".toList) = "items[0].na/me".toList := by decide
example : accessChars (segments "".toList) = [] := by decide
example : accessChars (segments "/~01".toList) = "~1".toList := by decide

end Pointer

end EntitySchema
