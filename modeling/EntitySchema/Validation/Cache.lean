import EntitySchema.Validation.Validator

/-!
# Caches of validators

A cache keeps one validator for each key. A validator is compiled when its key is first asked for; a
compilation that fails leaves no trace. A handle is the place of a validator in the cache. It stays
valid, since entries are only appended.
-/

namespace EntitySchema

/-- What a validator is for. -/
inductive ValidatorKey where
  /-- One property. -/
  | prop (name : String)
  /-- A set of properties. -/
  | props (names : List String)
  /-- The column of one property. -/
  | column (name : String)
deriving DecidableEq, Repr

/-- Leaves out every name that equals the one after it. -/
def dropRepeats : List String → List String
  | a :: b :: rest => if a = b then dropRepeats (b :: rest) else a :: dropRepeats (b :: rest)
  | names => names

namespace ValidatorKey

/-- The key of a set of names: sorted by code points, which is the order of their UTF-8 bytes, and
each name once. -/
def ofNames (names : List String) : ValidatorKey :=
  .props (dropRepeats (names.mergeSort fun a b => decide (a ≤ b)))

/-- The names that a key covers. -/
def names : ValidatorKey → List String
  | .prop name => [name]
  | .props names => names
  | .column name => [name]

end ValidatorKey

/-- Validators by key, in the order in which they were compiled. -/
structure Cache where
  entries : List (ValidatorKey × Tracked)
deriving DecidableEq, Repr

/-- The place of a validator in a cache. -/
abbrev Handle := Nat

namespace Cache

def empty : Cache := ⟨[]⟩

def size (c : Cache) : Nat := c.entries.length

/-- The validator for a key. -/
def find? (c : Cache) (key : ValidatorKey) : Option Handle :=
  c.entries.findIdx? (·.1 = key)

/-- The validator at a place. -/
def get? (c : Cache) (h : Handle) : Option Tracked := (c.entries[h]?).map Prod.snd

/-- The answer to a request: the validator, and whether it was compiled for this request. -/
structure Answer where
  result : SchemaResult Handle
  compiled : Bool

/-- The validator for a key; compiles it if there is none. -/
def getOrCompile (c : Cache) (key : ValidatorKey) (compile : Unit → SchemaResult Validator) :
    Answer × Cache :=
  match c.find? key with
  | some h => (⟨.ok h, false⟩, c)
  | none => match compile () with
    | .ok x => (⟨.ok c.size, true⟩, ⟨c.entries ++ [(key, .ofValidator x)]⟩)
    | .error e => (⟨.error e, true⟩, c)

/-- Checks a value with the validator at a place. -/
def check (c : Cache) (h : Handle) (v : Json) : Cache :=
  ⟨c.entries.modify h fun entry => (entry.1, entry.2.check v)⟩

/-- Checks a value and reports. -/
def validate (c : Cache) (h : Handle) (v : Json) : Except Report Unit × Cache :=
  let c := c.check h v
  match c.get? h with
  | some t => (t.outcome, c)
  | none => (.ok (), c)

end Cache

end EntitySchema
