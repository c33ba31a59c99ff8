import EntitySchema.Files.Basic
import EntitySchema.Json.Reader
import EntitySchema.Settings.Wire

/-!
# Settings as text

Settings are decoded while their text is read, so that an error names a place: behind a scalar that
does not fit, before a bracket that does not fit. An error of a whole object, such as a field that
comes twice, is placed where the object would end: behind white space, and behind a closing brace if
there is one.

The value of a field with another name is passed over.
-/

namespace EntitySchema.Settings

open Json (Cursor Fault Position)

/-- What is wrong with a text: its form or its content. -/
inductive TextProblem where
  | form (e : Json.SyntaxError)
  | content (e : DecodeError)
deriving DecidableEq, Repr

/-- A problem and its place. -/
structure TextFault where
  problem : TextProblem
  pos : Position
deriving DecidableEq, Repr

def TextFault.message (f : TextFault) : String :=
  (match f.problem with
    | .form e => e.message
    | .content e => e.message) ++ f.pos.suffix

/-- A step that reads no more than Json. -/
def plain {α : Type} (r : Except Fault α) : Except TextFault α :=
  r.mapError fun f => ⟨.form f.cause, f.pos⟩

/-- A problem with the form, behind the next byte. -/
def formAhead {α : Type} (c : Cursor) (e : Json.SyntaxError) : Except TextFault α :=
  .error ⟨.form e, c.ahead⟩

/-- A problem with the content, at the cursor. -/
def contentAt {α : Type} (c : Cursor) (e : DecodeError) : Except TextFault α :=
  .error ⟨.content e, c.pos⟩

/-! ## Scalars -/

/-- Refuses the value that comes next: behind it if it is a scalar, else before it. -/
def wrongKind {α : Type} (c : Cursor) (expected : Shape) : Except TextFault α :=
  let c := c.skipBlank
  match c.rest with
  | '[' :: _ => contentAt c (.wrongKind (.arr []) expected)
  | '\x7b' :: _ => contentAt c (.wrongKind (.obj []) expected)
  | _ => do
    let (v, c) ← plain (Json.readValue 1 Json.depthLimit c)
    contentAt c (.wrongKind v expected)

def readStringAs (expected : Shape) (c : Cursor) : Except TextFault (String × Cursor) :=
  let c := c.skipBlank
  match c.rest with
  | '"' :: _ => plain (Json.readString c.next)
  | _ => wrongKind c expected

/-- Passes over a null. -/
def readNull (c : Cursor) : Except TextFault Cursor :=
  let c := c.skipBlank
  match c.rest with
  | 'n' :: _ => plain (Json.readWord ['n', 'u', 'l', 'l'] c)
  | _ => wrongKind c .unit

/-- Reads a value that may be null. -/
def readOption {α : Type} (read : Cursor → Except TextFault (α × Cursor)) (c : Cursor) :
    Except TextFault (Option α × Cursor) :=
  let c := c.skipBlank
  match c.rest with
  | 'n' :: _ => do
    let c ← plain (Json.readWord ['n', 'u', 'l', 'l'] c)
    return (none, c)
  | _ => do
    let (a, c) ← read c
    return (some a, c)

/-- Reads a name that stands for something, from its opening quote on. -/
def readNamed {α : Type} (known : List (String × α)) (c : Cursor) :
    Except TextFault (α × Cursor) := do
  let (name, c) ← plain (Json.readString c.next)
  match Decode.named known name with
  | .ok a => return (a, c)
  | .error e => contentAt c e

/-- Reads the key of an object that stands for something. -/
def readNamedKey {α : Type} (known : List (String × α)) (c : Cursor) :
    Except TextFault (α × Cursor) :=
  let c := c.skipBlank
  match c.rest with
  | [] => formAhead c .eofObject
  | '"' :: _ => readNamed known c
  | _ => formAhead c .keyMustBeString

/-- Reads a name that stands for something, or an object whose only key is the name. `depth` is how
many more brackets may be opened, less one. -/
def readVariant {α : Type} (known : List (String × α)) (depth : Nat) (c : Cursor) :
    Except TextFault (α × Cursor) :=
  let c := c.skipBlank
  match c.rest with
  | [] => formAhead c .eofValue
  | '"' :: _ => readNamed known c
  | '\x7b' :: _ =>
    if depth ≤ 1 then formAhead c .tooDeep
    else do
      let (a, c) ← readNamedKey known c.next
      let c ← plain (Json.readColon c)
      let c ← readNull c
      let c := c.skipBlank
      match c.rest with
      | [] => .error ⟨.form .eofObject, c.pos⟩
      | '\x7d' :: _ => return (a, c.next)
      | _ => .error ⟨.form .expectedValue, c.pos⟩
  | _ => formAhead c .expectedValue

/-! ## Objects -/

/-- Where an object ends that is given up: behind white space, and behind the brace if it comes. -/
def afterBrace (c : Cursor) : Cursor :=
  let c := c.skipBlank
  match c.rest with
  | '\x7d' :: _ => c.next
  | _ => c

/-- Reads the entries of an object up to its closing brace. -/
def readEntries {α : Type} (read : Cursor → Except TextFault (α × Cursor)) :
    Nat → Bool → Cursor → Except TextFault (List (String × α) × Cursor)
  | 0, _, c => formAhead c .eofObject
  | fuel + 1, first, c => do
    let (more, c) ← plain (Json.nextKey first c)
    if more then
      let (k, c) ← plain (Json.readString c.next)
      let c ← plain (Json.readColon c)
      let (a, c) ← read c
      let (entries, c) ← readEntries read fuel false c
      return ((k, a) :: entries, c)
    else return ([], c)

/-- Reads an object whose entries are all of one kind. -/
def readMap {α : Type} (read : Nat → Cursor → Except TextFault (α × Cursor)) (depth : Nat)
    (c : Cursor) : Except TextFault (List (String × α) × Cursor) :=
  let c := c.skipBlank
  match c.rest with
  | '\x7b' :: _ =>
    if depth ≤ 1 then formAhead c .tooDeep
    else do
      let (entries, c) ← readEntries (read (depth - 1)) (c.rest.length + 1) true c.next
      return (Members.ofList entries, c.next)
  | _ => wrongKind c .map

/-- Reads any value with all its members. -/
def readAny (depth : Nat) (c : Cursor) : Except TextFault (Json × Cursor) :=
  plain (Json.readValue (2 * c.rest.length + 2) depth c)

/-- Reads the members of a fragment up to its closing brace. -/
def readFragmentMembers (depth : Nat) :
    Nat → Bool → FragmentParts → Cursor → Except TextFault (FragmentParts × Cursor)
  | 0, _, _, c => formAhead c .eofObject
  | fuel + 1, first, p, c => do
    let (more, c) ← plain (Json.nextKey first c)
    if more then
      let (k, c) ← plain (Json.readString c.next)
      if k = "dataType" then
        if p.dataType.isSome then contentAt (afterBrace c) (.duplicateField k)
        else
          let c ← plain (Json.readColon c)
          let (v, c) ← readOption (readAny depth) c
          match v.mapM TypeRef.decode with
          | .ok r => readFragmentMembers depth fuel false { p with dataType := some r } c
          | .error e => contentAt (afterBrace c) e
      else
        let c ← plain (Json.readColon c)
        let (v, c) ← readAny depth c
        readFragmentMembers depth fuel false
          { p with keywords := Members.insert p.keywords k v.settle } c
    else return (p, c)

def readFragment (depth : Nat) (c : Cursor) : Except TextFault (Fragment × Cursor) :=
  let c := c.skipBlank
  match c.rest with
  | '\x7b' :: _ =>
    if depth ≤ 1 then formAhead c .tooDeep
    else do
      let (p, c) ← readFragmentMembers (depth - 1) (c.rest.length + 1) true {} c.next
      return (p.finish, c.next)
  | _ => wrongKind c .fragment

/-! ## Fields -/

/-- Reads the value of a field. -/
def readField (depth : Nat) (s : Settings) (f : Field) (c : Cursor) :
    Except TextFault (Settings × Cursor) :=
  match f with
  | .dialect => do
    let (d, c) ← readVariant dialects depth c
    return ({ s with dialect := d }, c)
  | .jsonType => do
    let (t, c) ← readOption (readStringAs .string) c
    return ({ s with jsonType := t }, c)
  | .customTypes => do
    let (types, c) ← readMap (readVariant classes) depth c
    return ({ s with customTypes := types }, c)
  | .schemaDir => do
    let (dir, c) ← readOption (readStringAs .path) c
    return ({ s with schemaDir := dir }, c)
  | .extraSchemas => do
    let (schemas, c) ← readMap readFragment depth c
    return ({ s with extraSchemas := schemas }, c)

/-- Reads the members of settings up to the closing brace; `seen` are the fields read so far. -/
def readMembers (depth : Nat) :
    Nat → Bool → List Field → Settings → Cursor → Except TextFault (Settings × Cursor)
  | 0, _, _, _, c => formAhead c .eofObject
  | fuel + 1, first, seen, s, c => do
    let (more, c) ← plain (Json.nextKey first c)
    if more then
      let (k, c) ← plain (Json.readString c.next)
      match Field.ofName? k with
      | some f =>
        if f ∈ seen then contentAt (afterBrace c) (.duplicateField k)
        else
          let c ← plain (Json.readColon c)
          let (s, c) ← readField depth s f c
          readMembers depth fuel false (f :: seen) s c
      | none =>
        let c ← plain (Json.readColon c)
        let c ← plain (Json.skipValue (2 * c.rest.length + 2) c)
        readMembers depth fuel false seen s c
    else return (s, c)

/-- Reads the values of the fields in their order, as many as there are. -/
def readItems (depth : Nat) :
    List Field → Bool → Settings → Cursor → Except TextFault (Settings × Cursor)
  | [], _, s, c => .ok (s, c)
  | f :: fs, first, s, c => do
    let (more, c) ← plain (Json.nextItem first c)
    if more then
      let (s, c) ← readField depth s f c
      readItems depth fs false s c
    else return (s, c)

/-- Passes over the bracket that closes a list. -/
def closeList (c : Cursor) : Except TextFault Cursor :=
  let c := c.skipBlank
  match c.rest with
  | [] => formAhead c .eofList
  | ']' :: _ => .ok c.next
  | ',' :: _ =>
    let c := c.next.skipBlank
    match c.rest with
    | ']' :: _ => formAhead c .trailingComma
    | _ => formAhead c .trailingCharacters
  | _ => formAhead c .trailingCharacters

/-- Reads settings: an object, or a list of values. -/
def readSettings (depth : Nat) (c : Cursor) : Except TextFault (Settings × Cursor) :=
  let c := c.skipBlank
  match c.rest with
  | '[' :: _ =>
    if depth ≤ 1 then formAhead c .tooDeep
    else do
      let (s, c) ← readItems (depth - 1) Field.all true {} c.next
      return (s, ← closeList c)
  | '\x7b' :: _ =>
    if depth ≤ 1 then formAhead c .tooDeep
    else do
      let (s, c) ← readMembers (depth - 1) (c.rest.length + 1) true [] {} c.next
      return (s, c.next)
  | _ => wrongKind c .settings

/-- Reads the text of settings. -/
def parse (text : String) : Except TextFault Settings := do
  let (s, c) ← readSettings Json.depthLimit (Cursor.start text.toList)
  plain (Json.readEnd c)
  return s

/-! ## Settings from a file -/

/-- Why there are no settings. -/
inductive LoadError where
  | unreadable (f : FileFault)
  | malformed (f : TextFault)
  | invalid (p : SettingsProblem)
deriving DecidableEq, Repr

def LoadError.message : LoadError → String
  | .unreadable f => "Failed to read config: " ++ f.message
  | .malformed f => "Invalid config JSON: " ++ f.message
  | .invalid p => p.message

/-- Reads settings that make sense. -/
def load (files : Files) (path : String) : Except LoadError Settings := do
  let text ← (files.read path).mapError .unreadable
  let s ← (parse text).mapError .malformed
  let _ ← s.check.mapError .invalid
  return s

end EntitySchema.Settings
