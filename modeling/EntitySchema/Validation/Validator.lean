import EntitySchema.Draft7.Compiled
import EntitySchema.Error
import EntitySchema.Validation.Report

/-!
# Validators

A validator is a compiled schema and a label for the values it checks. A tracked validator remembers
the entries of its last check.
-/

namespace EntitySchema

/-- A compiled schema, and what its values are called. -/
structure Validator where
  compiled : Draft7.Compiled
  label : Option String
deriving DecidableEq, Repr

namespace Validator

def compile (schema : Json) (label : Option String) : SchemaResult Validator :=
  match Draft7.Compiled.compile schema with
  | .ok compiled => return ⟨compiled, label⟩
  | .error reason => fail (.malformedDocument reason)

/-- The entries for a value; none if it passes. -/
def entries (x : Validator) (v : Json) : List Entry := (x.compiled.failures v).map Entry.ofFailure

/-- The entries for a value that fails. -/
def check (x : Validator) (v : Json) : Option (List Entry) :=
  match x.entries v with
  | [] => none
  | es => some es

/-- The outcome of entries: a report, or nothing to say. -/
def outcome (x : Validator) : Option (List Entry) → Except Report Unit
  | none => .ok ()
  | some es => .error (.ofEntries x.label es)

def validate (x : Validator) (v : Json) : Except Report Unit := x.outcome (x.check v)

theorem check_eq_none {x : Validator} {v : Json} :
    x.check v = none ↔ x.compiled.accepts v = true := by
  rw [check, entries, Draft7.Compiled.accepts]
  cases x.compiled.failures v <;> simp

end Validator

/-- A validator and the entries of its last check; none if there was none or it passed. -/
structure Tracked where
  validator : Validator
  last : Option (List Entry)
deriving DecidableEq, Repr

namespace Tracked

def ofValidator (x : Validator) : Tracked := ⟨x, none⟩

/-- Checks a value and remembers the entries. -/
def check (t : Tracked) (v : Json) : Tracked := { t with last := t.validator.check v }

/-- Whether the last check passed. -/
def passed (t : Tracked) : Bool := t.last.isNone

/-- The report on the last check. -/
def outcome (t : Tracked) : Except Report Unit := t.validator.outcome t.last

end Tracked

end EntitySchema
