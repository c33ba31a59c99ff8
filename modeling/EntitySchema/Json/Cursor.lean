/-!
# Places in a Json text

A cursor is the rest of a text and the place where it starts: the line, counted from one, and the
number of bytes before it on that line. A fault is a cause and the place it is reported at.

Two places are used in reports. Most causes are reported behind the byte at which they were
noticed (`faultAhead`), the others at the cursor itself (`fault`).
-/

namespace EntitySchema.Json

structure Position where
  line : Nat
  column : Nat
deriving DecidableEq, Repr

/-- What can be wrong with a Json text. -/
inductive SyntaxError where
  | eofValue
  | eofList
  | eofObject
  | eofString
  | expectedColon
  | expectedListCommaOrEnd
  | expectedObjectCommaOrEnd
  | expectedIdent
  | expectedValue
  | invalidEscape
  | invalidNumber
  | numberOutOfRange
  | controlCharacter
  | keyMustBeString
  | loneSurrogate
  | unfinishedSurrogate
  | trailingComma
  | trailingCharacters
  | tooDeep
deriving DecidableEq, Repr

def SyntaxError.message : SyntaxError → String
  | .eofValue => "EOF while parsing a value"
  | .eofList => "EOF while parsing a list"
  | .eofObject => "EOF while parsing an object"
  | .eofString => "EOF while parsing a string"
  | .expectedColon => "expected `:`"
  | .expectedListCommaOrEnd => "expected `,` or `]`"
  | .expectedObjectCommaOrEnd => "expected `,` or `\x7d`"
  | .expectedIdent => "expected ident"
  | .expectedValue => "expected value"
  | .invalidEscape => "invalid escape"
  | .invalidNumber => "invalid number"
  | .numberOutOfRange => "number out of range"
  | .controlCharacter => "control character (\\u0000-\\u001F) found while parsing a string"
  | .keyMustBeString => "key must be a string"
  | .loneSurrogate => "lone leading surrogate in hex escape"
  | .unfinishedSurrogate => "unexpected end of hex escape"
  | .trailingComma => "trailing comma"
  | .trailingCharacters => "trailing characters"
  | .tooDeep => "recursion limit exceeded"

/-- The tail of a message that names a place. -/
def Position.suffix (p : Position) : String :=
  " at line " ++ toString p.line ++ " column " ++ toString p.column

/-- A cause and its place. -/
structure Fault where
  cause : SyntaxError
  pos : Position
deriving DecidableEq, Repr

def Fault.message (f : Fault) : String := f.cause.message ++ f.pos.suffix

/-- The place behind a character. -/
def Position.after (p : Position) (c : Char) : Position :=
  if c = '\n' then ⟨p.line + 1, 0⟩ else ⟨p.line, p.column + c.utf8Size⟩

/-- The place behind the first byte of a character. -/
def Position.afterByte (p : Position) (c : Char) : Position :=
  if c = '\n' then ⟨p.line + 1, 0⟩ else ⟨p.line, p.column + 1⟩

/-- The place behind the first `n` bytes of a text; nothing if it is shorter. -/
def Position.afterBytes? (p : Position) : Nat → List Char → Option Position
  | 0, _ => some p
  | _ + 1, [] => none
  | n + 1, c :: rest =>
    if c.utf8Size ≤ n + 1 then afterBytes? (p.after c) (n + 1 - c.utf8Size) rest
    else some ⟨p.line, p.column + (n + 1)⟩

/-- The rest of a text, and the place where it starts. -/
structure Cursor where
  pos : Position
  rest : List Char
deriving Repr

namespace Cursor

/-- The beginning of a text. -/
def start (text : List Char) : Cursor := ⟨⟨1, 0⟩, text⟩

/-- Past the next character; at the end, where it is. -/
def next (c : Cursor) : Cursor :=
  match c.rest with
  | [] => c
  | x :: rest => ⟨c.pos.after x, rest⟩

/-- Past the next `n` characters. -/
def advance (c : Cursor) (n : Nat) : Cursor :=
  ⟨(c.rest.take n).foldl Position.after c.pos, c.rest.drop n⟩

/-- Past all white space that may stand between tokens. -/
def skipBlank (c : Cursor) : Cursor :=
  c.advance (c.rest.takeWhile fun x => x = ' ' || x = '\n' || x = '\t' || x = '\r').length

/-- The place behind the next byte; at the end, the end. -/
def ahead (c : Cursor) : Position :=
  match c.rest with
  | [] => c.pos
  | x :: _ => c.pos.afterByte x

/-- A fault at the cursor. -/
def fault (c : Cursor) (cause : SyntaxError) : Fault := ⟨cause, c.pos⟩

/-- A fault behind the next byte. -/
def faultAhead (c : Cursor) (cause : SyntaxError) : Fault := ⟨cause, c.ahead⟩

/-- The digits from here on. -/
def digits (c : Cursor) : List Char := c.rest.takeWhile Char.isDigit

/-- The last place of the text. -/
def finish (c : Cursor) : Position := c.rest.foldl Position.after c.pos

end Cursor

end EntitySchema.Json
