import EntitySchema.Json.Basic
import EntitySchema.Json.Cursor
import EntitySchema.Text.Characters

/-!
# Reading Json text

`parse` reads one value from a text and refuses anything after it. A value is first read with all
members of its objects (`readValue`) and then repeated keys are merged.

`skipValue` passes over a value that nobody asks for. It accepts more: a number may be too large, a
surrogate may stand alone, and there is no limit on nesting.

Every function takes a cursor and returns one. Recursion is bounded by a count that `parse` takes
from the length of the text: no text needs more.
-/

namespace EntitySchema.Json

/-! ## Words and numbers -/

/-- Passes over the characters of a word. -/
def readWord : List Char → Cursor → Except Fault Cursor
  | [], c => .ok c
  | x :: word, c =>
    match c.rest with
    | [] => .error (c.fault .eofValue)
    | y :: _ => if x = y then readWord word c.next else .error (c.faultAhead .expectedIdent)

/-- The most leading digits that keep a number below `2 ^ 64`, as a number, and the count of the
digits left out. -/
def leadingDigits : Nat → List Char → Nat × Nat
  | n, [] => (n, 0)
  | n, d :: ds =>
    let m := 10 * n + Text.digitValue d
    if m < Nat.pow 2 64 then leadingDigits m ds else (n, (d :: ds).length)

/-- The significant digits of a number with a whole part and a fraction: as many leading ones as
stay below `2 ^ 64`, and the power of ten they are multiplied by. -/
def significand (whole fraction : List Char) : Nat × Int :=
  match leadingDigits 0 whole with
  | (n, 0) =>
    let (m, dropped) := leadingDigits n fraction
    (m, -((fraction.length - dropped : Nat) : Int))
  | (n, dropped) =>
    -- once a digit is left out, the digits of the fraction that still fit are read after it
    let (m, left) := leadingDigits n fraction
    (m, (dropped : Int) - ((fraction.length - left : Nat) : Int))

/-- The whole number written by `whole`, if it is one that is kept exactly. -/
def exactInt (negative : Bool) (whole : List Char) : Option Int :=
  let n := Text.decimalValue whole
  if negative then if 0 < n ∧ n ≤ Nat.pow 2 63 then some (-(n : Int)) else none
  else if n < Nat.pow 2 64 then some n else none

/-- The binary64 number `± digits · 10 ^ exponent`. -/
def realNumber (negative : Bool) (digits : Nat) (exponent : Int) : Option Number :=
  (Double.ofDecimal digits exponent).map fun x => .real { x with negative := negative }

/-- How many of the digits of an exponent are looked at: up to and with the one that takes it
beyond `2 ^ 31 - 1`. -/
def exponentDigits : Nat → List Char → Nat
  | _, [] => 0
  | n, d :: ds =>
    let m := 10 * n + Text.digitValue d
    if m < Nat.pow 2 31 then exponentDigits m ds + 1 else 1

/-- The exponent of a number, from its `e` on. -/
def readExponent (negative : Bool) (digits : Nat) (exponent : Int) (c : Cursor) :
    Except Fault (Number × Cursor) :=
  let c := c.next
  let minus := c.rest.head? = some '-'
  let c := if minus || c.rest.head? = some '+' then c.next else c
  match c.rest with
  | [] => .error (c.fault .eofValue)
  | _ :: _ =>
    let ds := c.digits
    if ds.isEmpty then .error (c.faultAhead .invalidNumber)
    else
      let size := Text.decimalValue ds
      if size < Nat.pow 2 31 then
        let c := c.advance ds.length
        match realNumber negative digits (exponent + (if minus then -(size : Int) else size)) with
        | some n => .ok (n, c)
        | none => .error (c.fault .numberOutOfRange)
      else if minus || digits = 0 then
        .ok (.real { Double.zero with negative := negative }, c.advance ds.length)
      else .error ((c.advance (exponentDigits 0 ds)).fault .numberOutOfRange)

/-- A number, from its first digit on. -/
def readUnsigned (negative : Bool) (c : Cursor) : Except Fault (Number × Cursor) :=
  match c.rest with
  | [] => .error (c.fault .eofValue)
  | d :: _ =>
    if !d.isDigit then .error (c.faultAhead .invalidNumber)
    else if d = '0' && (c.next.rest.head?.any Char.isDigit) then
      .error (c.next.faultAhead .invalidNumber)
    else
      let whole := c.digits
      let c := c.advance whole.length
      match c.rest with
      | '.' :: _ =>
        let c := c.next
        let fraction := c.digits
        if fraction.isEmpty then
          .error (c.faultAhead (if c.rest.isEmpty then .eofValue else .invalidNumber))
        else
          let c := c.advance fraction.length
          let (digits, exponent) := significand whole fraction
          match c.rest with
          | 'e' :: _ | 'E' :: _ => readExponent negative digits exponent c
          | _ => match realNumber negative digits exponent with
            | some n => .ok (n, c)
            | none => .error (c.fault .numberOutOfRange)
      | 'e' :: _ | 'E' :: _ =>
        let (digits, exponent) := significand whole []
        readExponent negative digits exponent c
      | _ =>
        match exactInt negative whole with
        | some n => .ok (.int n, c)
        | none =>
          let (digits, exponent) := significand whole []
          match realNumber negative digits exponent with
          | some n => .ok (n, c)
          | none => .error (c.fault .numberOutOfRange)

/-- A number, from its sign or first digit on. -/
def readNumber (c : Cursor) : Except Fault (Number × Cursor) :=
  if c.rest.head? = some '-' then readUnsigned true c.next else readUnsigned false c

/-! ## Strings -/

/-- The character that a one-letter escape stands for. -/
def simpleEscape : Char → Option Char
  | '"' => some '"'
  | '\\' => some '\\'
  | '/' => some '/'
  | 'b' => some '\x08'
  | 'f' => some '\x0c'
  | 'n' => some '\n'
  | 'r' => some '\r'
  | 't' => some '\t'
  | _ => none

/-- Four hexadecimal digits. -/
def readHex (c : Cursor) : Except Fault (Nat × Cursor) :=
  match c.pos.afterBytes? 4 c.rest with
  | none => .error ⟨.eofString, c.finish⟩
  | some pos =>
    match Text.hexValue? (c.rest.take 4) with
    | some n => .ok (n, c.advance 4)
    | none => .error ⟨.invalidEscape, pos⟩

/-- The escape of a code unit, from behind its `u` on; a pair of surrogates is one character. -/
def readUnicode (c : Cursor) : Except Fault (Char × Cursor) := do
  let (n, c) ← readHex c
  if 0xDC00 ≤ n ∧ n ≤ 0xDFFF then .error (c.fault .loneSurrogate)
  else if n < 0xD800 ∨ 0xDBFF < n then .ok (Char.ofNat n, c)
  else
    match c.rest with
    | [] => .error (c.fault .eofString)
    | '\\' :: _ =>
      let c := c.next
      match c.rest with
      | [] => .error (c.fault .eofString)
      | 'u' :: _ =>
        let (m, c) ← readHex c.next
        if m < 0xDC00 ∨ 0xDFFF < m then .error (c.fault .loneSurrogate)
        else .ok (Char.ofNat ((n - 0xD800) * 0x400 + (m - 0xDC00) + 0x10000), c)
      | _ => .error (c.faultAhead .unfinishedSurrogate)
    | _ => .error (c.faultAhead .unfinishedSurrogate)

/-- One escape, from behind its backslash on. -/
def readEscape (c : Cursor) : Except Fault (Char × Cursor) :=
  match c.rest with
  | [] => .error (c.fault .eofString)
  | 'u' :: _ => readUnicode c.next
  | x :: _ => match simpleEscape x with
    | some y => .ok (y, c.next)
    | none => .error (c.faultAhead .invalidEscape)

/-- The characters of a string up to its closing quote; `read` holds those before, in reverse. -/
def readChars : Nat → List Char → Cursor → Except Fault (String × Cursor)
  | 0, _, c => .error (c.fault .eofString)
  | fuel + 1, read, c =>
    match c.rest with
    | [] => .error (c.fault .eofString)
    | '"' :: _ => .ok (String.ofList read.reverse, c.next)
    | '\\' :: _ => do
      let (x, c) ← readEscape c.next
      readChars fuel (x :: read) c
    | x :: _ =>
      if x.toNat < 0x20 then .error (c.faultAhead .controlCharacter)
      else readChars fuel (x :: read) c.next

/-- A string, from behind its opening quote on. -/
def readString (c : Cursor) : Except Fault (String × Cursor) := readChars (c.rest.length + 1) [] c

/-! ## Values -/

/-- Goes on to the next item of a list, or says that there is none. -/
def nextItem (first : Bool) (c : Cursor) : Except Fault (Bool × Cursor) :=
  let c := c.skipBlank
  match c.rest with
  | [] => .error (c.faultAhead .eofList)
  | ']' :: _ => .ok (false, c)
  | x :: _ =>
    if first then .ok (true, c)
    else if x = ',' then
      let c := c.next.skipBlank
      match c.rest with
      | [] => .error (c.faultAhead .eofValue)
      | ']' :: _ => .error (c.faultAhead .trailingComma)
      | _ => .ok (true, c)
    else .error (c.faultAhead .expectedListCommaOrEnd)

/-- Goes on to the quote of the next key of an object, or says that there is none. -/
def nextKey (first : Bool) (c : Cursor) : Except Fault (Bool × Cursor) :=
  let c := c.skipBlank
  match c.rest with
  | [] => .error (c.faultAhead .eofObject)
  | '\x7d' :: _ => .ok (false, c)
  | x :: _ =>
    if first then
      if x = '"' then .ok (true, c) else .error (c.faultAhead .keyMustBeString)
    else if x = ',' then
      let c := c.next.skipBlank
      match c.rest with
      | [] => .error (c.faultAhead .eofValue)
      | '"' :: _ => .ok (true, c)
      | '\x7d' :: _ => .error (c.faultAhead .trailingComma)
      | _ => .error (c.faultAhead .keyMustBeString)
    else .error (c.faultAhead .expectedObjectCommaOrEnd)

/-- Passes over the colon between a key and its value. -/
def readColon (c : Cursor) : Except Fault Cursor :=
  let c := c.skipBlank
  match c.rest with
  | [] => .error (c.faultAhead .eofObject)
  | ':' :: _ => .ok c.next
  | _ => .error (c.faultAhead .expectedColon)

mutual

/-- A value with all its members. `depth` is how many more brackets may be opened, less one. -/
def readValue : Nat → Nat → Cursor → Except Fault (Json × Cursor)
  | 0, _, c => .error (c.fault .eofValue)
  | fuel + 1, depth, c =>
    let c := c.skipBlank
    match c.rest with
    | [] => .error (c.faultAhead .eofValue)
    | 'n' :: _ => do return (.null, ← readWord ['n', 'u', 'l', 'l'] c)
    | 't' :: _ => do return (.bool true, ← readWord ['t', 'r', 'u', 'e'] c)
    | 'f' :: _ => do return (.bool false, ← readWord ['f', 'a', 'l', 's', 'e'] c)
    | '"' :: _ => do
      let (s, c) ← readString c.next
      return (.str s, c)
    | '[' :: _ =>
      if depth ≤ 1 then .error (c.faultAhead .tooDeep)
      else do
        let (xs, c) ← readItems fuel (depth - 1) true c.next
        return (.arr xs, c.next)
    | '\x7b' :: _ =>
      if depth ≤ 1 then .error (c.faultAhead .tooDeep)
      else do
        let (ms, c) ← readMembers fuel (depth - 1) true c.next
        return (.obj ms, c.next)
    | x :: _ =>
      if x = '-' || x.isDigit then do
        let (n, c) ← readNumber c
        return (.num n, c)
      else .error (c.faultAhead .expectedValue)

/-- The items of a list, up to its closing bracket. -/
def readItems : Nat → Nat → Bool → Cursor → Except Fault (List Json × Cursor)
  | 0, _, _, c => .error (c.fault .eofList)
  | fuel + 1, depth, first, c => do
    let (more, c) ← nextItem first c
    if more then
      let (x, c) ← readValue fuel depth c
      let (xs, c) ← readItems fuel depth false c
      return (x :: xs, c)
    else return ([], c)

/-- The members of an object, up to its closing brace. -/
def readMembers : Nat → Nat → Bool → Cursor → Except Fault (List (String × Json) × Cursor)
  | 0, _, _, c => .error (c.fault .eofObject)
  | fuel + 1, depth, first, c => do
    let (more, c) ← nextKey first c
    if more then
      let (k, c) ← readString c.next
      let c ← readColon c
      let (v, c) ← readValue fuel depth c
      let (ms, c) ← readMembers fuel depth false c
      return ((k, v) :: ms, c)
    else return ([], c)

end

/-- How many brackets may be open at once, plus one. -/
def depthLimit : Nat := 128

/-- Refuses anything but white space. -/
def readEnd (c : Cursor) : Except Fault Unit :=
  let c := c.skipBlank
  if c.rest.isEmpty then .ok () else .error (c.faultAhead .trailingCharacters)

/-- Reads the text of one value. -/
def parseChars (text : List Char) : Except Fault Json := do
  let (v, c) ← readValue (2 * text.length + 2) depthLimit (Cursor.start text)
  readEnd c
  return v.settle

def parse (text : String) : Except Fault Json := parseChars text.toList

/-! ## Skipping -/

/-- Passes over the exponent of a number, from its `e` on. -/
def skipExponent (c : Cursor) : Except Fault Cursor :=
  let c := c.next
  let c := if c.rest.head? = some '-' || c.rest.head? = some '+' then c.next else c
  let ds := c.digits
  if ds.isEmpty then .error (c.faultAhead .invalidNumber) else .ok (c.advance ds.length)

/-- Passes over a number, from its sign or first digit on. -/
def skipNumber (c : Cursor) : Except Fault Cursor :=
  let c := if c.rest.head? = some '-' then c.next else c
  let whole := c.digits
  if whole.isEmpty then .error (c.faultAhead .invalidNumber)
  else if whole.head? = some '0' && 1 < whole.length then .error (c.next.faultAhead .invalidNumber)
  else
    let c := c.advance whole.length
    match c.rest with
    | '.' :: _ =>
      let c := c.next
      let fraction := c.digits
      if fraction.isEmpty then .error (c.faultAhead .invalidNumber)
      else
        let c := c.advance fraction.length
        match c.rest with
        | 'e' :: _ | 'E' :: _ => skipExponent c
        | _ => .ok c
    | 'e' :: _ | 'E' :: _ => skipExponent c
    | _ => .ok c

/-- Passes over the characters of a string and its closing quote. -/
def skipChars : Nat → Cursor → Except Fault Cursor
  | 0, c => .error (c.fault .eofString)
  | fuel + 1, c =>
    match c.rest with
    | [] => .error (c.fault .eofString)
    | '"' :: _ => .ok c.next
    | '\\' :: _ => do
      let c := c.next
      match c.rest with
      | [] => .error (c.fault .eofString)
      | 'u' :: _ =>
        let (_, c) ← readHex c.next
        skipChars fuel c
      | x :: _ =>
        if (simpleEscape x).isSome then skipChars fuel c.next
        else .error (c.faultAhead .invalidEscape)
    | x :: _ =>
      if x.toNat < 0x20 then .error (c.fault .controlCharacter) else skipChars fuel c.next

def skipString (c : Cursor) : Except Fault Cursor := skipChars (c.rest.length + 1) c

mutual

/-- Passes over a value. -/
def skipValue : Nat → Cursor → Except Fault Cursor
  | 0, c => .error (c.fault .eofValue)
  | fuel + 1, c =>
    let c := c.skipBlank
    match c.rest with
    | [] => .error (c.faultAhead .eofValue)
    | 'n' :: _ => readWord ['n', 'u', 'l', 'l'] c
    | 't' :: _ => readWord ['t', 'r', 'u', 'e'] c
    | 'f' :: _ => readWord ['f', 'a', 'l', 's', 'e'] c
    | '"' :: _ => skipString c.next
    | '[' :: _ =>
      let c := c.next.skipBlank
      match c.rest with
      | [] => .error (c.faultAhead .eofList)
      | ']' :: _ => .ok c.next
      | _ => skipItems fuel c
    | '\x7b' :: _ =>
      let c := c.next.skipBlank
      match c.rest with
      | [] => .error (c.faultAhead .eofObject)
      | '\x7d' :: _ => .ok c.next
      | _ => skipMembers fuel c
    | x :: _ =>
      if x = '-' || x.isDigit then skipNumber c else .error (c.faultAhead .expectedValue)

/-- Passes over the items of a list, at least one, and the closing bracket. -/
def skipItems : Nat → Cursor → Except Fault Cursor
  | 0, c => .error (c.fault .eofList)
  | fuel + 1, c => do
    let c ← skipValue fuel c
    let c := c.skipBlank
    match c.rest with
    | [] => .error (c.faultAhead .eofList)
    | ',' :: _ => skipItems fuel c.next
    | ']' :: _ => .ok c.next
    | _ => .error (c.faultAhead .expectedListCommaOrEnd)

/-- Passes over the members of an object, at least one, and the closing brace. -/
def skipMembers : Nat → Cursor → Except Fault Cursor
  | 0, c => .error (c.fault .eofObject)
  | fuel + 1, c => do
    let c := c.skipBlank
    match c.rest with
    | [] => .error (c.faultAhead .eofObject)
    | '"' :: _ =>
      let c ← skipString c.next
      let c ← readColon c
      let c ← skipValue fuel c
      let c := c.skipBlank
      match c.rest with
      | [] => .error (c.faultAhead .eofObject)
      | ',' :: _ => skipMembers fuel c.next
      | '\x7d' :: _ => .ok c.next
      | _ => .error (c.faultAhead .expectedObjectCommaOrEnd)
    | _ => .error (c.faultAhead .keyMustBeString)

end

end EntitySchema.Json
