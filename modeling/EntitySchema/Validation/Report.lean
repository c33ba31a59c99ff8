import EntitySchema.Draft7.Failure

/-!
# Reports

What a caller is told when a value fails: one entry for each failure, and one message that joins
them. An entry of the message names its target: the label of the value, if it has one, followed by
the way from the value to the place of the failure.
-/

namespace EntitySchema

/-- A failure with its pointers as texts. -/
structure Entry where
  instancePath : String
  schemaPath : String
  message : String
deriving DecidableEq, Repr

namespace Entry

def ofFailure (f : Draft7.Failure) : Entry :=
  ⟨Pointer.text f.instancePath, Pointer.text f.schemaPath, f.message⟩

def encode (e : Entry) : Json := .obj [
  ("instancePath", .str e.instancePath),
  ("schemaPath", .str e.schemaPath),
  ("message", .str e.message)]

/-! ## Messages -/

/-- The way from a labelled value to a place below it. -/
def targetChars (label : Option (List Char)) (path : List Char) : List Char :=
  match label with
  | none => path
  | some label =>
    if path.isEmpty then label
    else if path.head? = some '[' then label ++ path
    else label ++ '.' :: path

/-- What an entry is about. -/
def target (label : Option String) (e : Entry) : String :=
  String.ofList
    (targetChars (label.map String.toList)
      (Pointer.accessChars (Pointer.segments e.instancePath.toList)))

/-- An entry as a part of a message. -/
def line (label : Option String) (e : Entry) : String :=
  let target := e.target label
  if target.isEmpty then e.message else target ++ " " ++ e.message

end Entry

/-- All entries in one message. -/
def formatEntries (label : Option String) (entries : List Entry) : String :=
  "; ".intercalate (entries.map (Entry.line label))

/-- What a caller is told about a value that fails. -/
structure Report where
  message : String
  entries : List Entry
deriving DecidableEq, Repr

namespace Report

def ofEntries (label : Option String) (entries : List Entry) : Report :=
  ⟨formatEntries label entries, entries⟩

/-- A report without failures behind it. -/
def ofMessage (message : String) : Report := ⟨message, []⟩

end Report

end EntitySchema
