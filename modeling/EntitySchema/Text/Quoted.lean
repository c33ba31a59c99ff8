import EntitySchema.Text.Hidden

/-!
# Quoted text

Two ways to put a text between quotes.

- `shown` is for messages: double quotes, with everything that would not show spelled out.
- `quotedArgumentChars` is for the arguments of a storage type: single quotes, and a single quote inside
  is written with a backslash before it.
-/

namespace EntitySchema.Text

/-- Lower case hexadecimal digits. -/
def hexDigits (n : Nat) : List Char := Nat.toDigits 16 n

/-- A character as it stands in a message. -/
def shownChar (c : Char) : List Char :=
  if c = '"' then ['\\', '"']
  else if c = '\\' then ['\\', '\\']
  else if c = '\n' then ['\\', 'n']
  else if c = '\r' then ['\\', 'r']
  else if c = '\t' then ['\\', 't']
  else if c = '\x00' then ['\\', '0']
  else if hidden c then '\\' :: 'u' :: '\x7b' :: hexDigits c.toNat ++ ['\x7d']
  else [c]

/-- A text as it stands in a message. -/
def shown (s : String) : String := String.ofList ('"' :: s.toList.flatMap shownChar ++ ['"'])

/-- A text as the argument of a storage type. -/
def quotedArgumentChars (cs : List Char) : List Char :=
  '\'' :: cs.flatMap (fun c => if c = '\'' then ['\\', '\''] else [c]) ++ ['\'']

end EntitySchema.Text
