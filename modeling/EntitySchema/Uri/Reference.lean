import EntitySchema.Uri.Address

/-!
# References to resources

A reference is an absolute address or one relative to another: a scheme, an authority, a path, a
query and a fragment, of which all but the path may be missing. `read` finds its parts or the first
place where the text stops being a reference.

A part is made of the characters allowed in it and of bytes escaped as `%41`. Two references that
differ only in what they escape, or in the case of the escapes, have the same normal form.
-/

namespace EntitySchema.Uri

/-- What is wrong with a reference, and at which character. -/
inductive Fault where
  | escape (index : Nat)
  | character (index : Nat)
  | address (index : Nat)
deriving DecidableEq, Repr

def Fault.message : Fault → String
  | .escape i => "invalid percent-encoded octet at index " ++ toString i
  | .character i => "unexpected character at index " ++ toString i
  | .address i => "invalid IPv6 address at index " ++ toString i

/-! ## Characters -/

def isUnreserved (c : Char) : Bool := c.isAlphanum || "-._~".toList.contains c

def isSubDelimiter (c : Char) : Bool := "!$&'()*+,;=".toList.contains c

/-- The characters of the name of a host. -/
def isNameChar (c : Char) : Bool := isUnreserved c || isSubDelimiter c

def isSchemeChar (c : Char) : Bool := c.isAlphanum || "+-.".toList.contains c

def isPathChar (c : Char) : Bool := isNameChar c || ":@/".toList.contains c

/-- The characters of a query and of a fragment. -/
def isQueryChar (c : Char) : Bool := isPathChar c || c = '?'

/-! ## Parts -/

/-- The parts of a reference that matter here. -/
structure Parts where
  hasScheme : Bool
  /-- All before the fragment. -/
  resource : List Char
  fragment : Option (List Char)
deriving DecidableEq, Repr

/-- A text that is read, and how many characters came before it. -/
structure Cursor where
  index : Nat
  rest : List Char

/-- Passes escapes and characters that are allowed. -/
def skip (allowed : Char → Bool) (index : Nat) (cs : List Char) : Except Fault Cursor :=
  match cs with
  | [] => .ok ⟨index, []⟩
  | '%' :: a :: b :: rest =>
    if (Text.hexDigit? a).isSome && (Text.hexDigit? b).isSome then skip allowed (index + 3) rest
    else .error (.escape index)
  | '%' :: _ => .error (.escape index)
  | c :: rest => if allowed c then skip allowed (index + 1) rest else .ok ⟨index, c :: rest⟩

def Cursor.skip (allowed : Char → Bool) (c : Cursor) : Except Fault Cursor :=
  Uri.skip allowed c.index c.rest

def Cursor.drop (c : Cursor) (n : Nat) : Cursor := ⟨c.index + n, c.rest.drop n⟩

/-- Passes a port, if there is one. -/
def skipPort (c : Cursor) : Cursor :=
  match c.rest with
  | ':' :: rest => c.drop (1 + (rest.takeWhile Char.isDigit).length)
  | _ => c

/-- Passes an address in brackets: of IPv6, or of a kind that a letter announces. -/
def skipAddress (c : Cursor) : Except Fault Cursor :=
  let inside := (c.rest.drop 1).takeWhile (· ≠ ']')
  let later : Bool := match inside with
    | 'v' :: rest | 'V' :: rest =>
      let version := rest.takeWhile fun d => (Text.hexDigit? d).isSome
      let name := (rest.drop version.length).drop 1
      !version.isEmpty && (rest.drop version.length).head? = some '.' && !name.isEmpty
        && name.all fun d => isNameChar d || d = ':'
    | _ => false
  if !(later || ipv6 inside) then .error (.address (c.index + 1))
  else if c.rest.length ≤ inside.length + 1 then .error (.character (c.index + inside.length + 1))
  else .ok (c.drop (inside.length + 2))

/-- Passes the user, the host and the port. -/
def skipAuthority (c : Cursor) : Except Fault Cursor := do
  let host (c : Cursor) : Except Fault Cursor := do
    if c.rest.head? = some '[' then return skipPort (← skipAddress c)
    else return skipPort (← c.skip isNameChar)
  let next ← c.skip fun d => isNameChar d || d = ':'
  if next.rest.head? = some '@' then host (next.drop 1)
  else if next.index = c.index then host c
  else
    -- without a user, a colon comes before the port and nowhere else
    let port := skipPort (← c.skip isNameChar)
    if port.index = next.index then return next else .error (.character port.index)

/-- Passes the fragment, which nothing may come after. -/
def skipFragment (text : List Char) (hasScheme : Bool) (c : Cursor) : Except Fault Parts :=
  match c.rest with
  | [] => .ok ⟨hasScheme, text, none⟩
  | '#' :: fragment => do
    let last ← skip isQueryChar (c.index + 1) fragment
    if last.rest.isEmpty then .ok ⟨hasScheme, text.take c.index, some fragment⟩
    else .error (.character last.index)
  | _ => .error (.character c.index)

/-- Passes the path, the query and the fragment of `text` from the path on. -/
def skipPath (text : List Char) (hasScheme : Bool) (c : Cursor) : Except Fault Parts := do
  let path ← c.skip isPathChar
  let query ← if path.rest.head? = some '?' then (path.drop 1).skip isQueryChar else .ok path
  skipFragment text hasScheme query

/-- The parts of a reference. -/
def read (text : List Char) : Except Fault Parts := do
  let scheme := text.takeWhile isSchemeChar
  let c : Cursor := ⟨scheme.length, text.drop scheme.length⟩
  match c.rest with
  | ':' :: rest =>
    if !scheme.head?.any Char.isAlpha then .error (.character 0)
    match rest with
    | '/' :: '/' :: _ => afterAuthority true (c.drop 3)
    | _ => skipPath text true (c.drop 1)
  | '/' :: '/' :: _ => if c.index = 0 then afterAuthority false (c.drop 2) else relative c
  | _ => relative c
where
  afterAuthority (hasScheme : Bool) (c : Cursor) : Except Fault Parts := do
    let c ← skipAuthority c
    if c.rest.head?.all fun d => "/?#".toList.contains d then skipPath text hasScheme c
    else .error (.character c.index)
  /-- The first part of a relative path holds no colon. -/
  relative (c : Cursor) : Except Fault Parts := do
    let first ← c.skip fun d => isNameChar d || d = '@'
    if first.rest.head? = some ':' then .error (.character first.index)
    else skipPath text false first

/-- What is wrong with a text as a reference. -/
def fault? (text : List Char) : Option Fault :=
  match read text with
  | .ok _ => none
  | .error f => some f

/-- Whether a text is a reference with a scheme. -/
def isAbsolute (text : List Char) : Bool := (read text).toOption.any (·.hasScheme)

/-! ## Escapes -/

def escapeByte (n : Nat) : List Char :=
  ['%', Nat.digitChar (n / 16), Nat.digitChar (n % 16)].map Char.toUpper

/-- The normal form: characters that need no escape are written as such, and other escapes in upper
case. -/
def normalize : List Char → List Char
  | '%' :: a :: b :: rest =>
    match Text.hexValue? [a, b] with
    | some n =>
      (if isUnreserved (Char.ofNat n) then [Char.ofNat n] else escapeByte n) ++ normalize rest
    | none => '%' :: normalize (a :: b :: rest)
  | c :: rest => c :: normalize rest
  | [] => []

/-- The bytes of a text, escaped ones included. -/
def bytes : List Char → List UInt8
  | '%' :: a :: b :: rest =>
    match Text.hexValue? [a, b] with
    | some n => UInt8.ofNat n :: bytes rest
    | none => '%'.toString.toUTF8.toList ++ bytes (a :: b :: rest)
  | c :: rest => c.toString.toUTF8.toList ++ bytes rest
  | [] => []

/-- A text with its escapes read, unless that is no text. -/
def decode (cs : List Char) : Option (List Char) :=
  if cs.contains '%' then (String.fromUTF8? ⟨(bytes cs).toArray⟩).map String.toList else some cs

example : fault? "#/definitions/%zz".toList = some (.escape 14) := by decide
example : fault? "##".toList = some (.character 1) := by decide
example : fault? "a b".toList = some (.character 1) := by decide
example : fault? "../a:b?c#d".toList = none := by decide
example : normalize "#/%64%c3".toList = "#/d%C3".toList := by decide

end EntitySchema.Uri
