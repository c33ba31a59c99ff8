import EntitySchema.Json.Cursor
import EntitySchema.Settings.Reader

/-!
# Why a command fails

Every cause has a code that programs can rely on, and a message for people.
-/

namespace EntitySchema

inductive CommandError where
  /-- The settings cannot be read or make no sense. -/
  | settings (e : Settings.LoadError)
  /-- Nothing says where entities are. -/
  | noSources
  /-- A record is no Json. -/
  | malformedRecord (f : Json.Fault)
  /-- A line is no text. -/
  | notText
  /-- An entity cannot be read or compiled. -/
  | schema (e : SchemaError)
  /-- Some records fail. -/
  | invalidRecords (failed total : Nat)
deriving DecidableEq, Repr

namespace CommandError

def code : CommandError → String
  | .settings _ | .noSources => "CLI_CONFIG_ERROR"
  | .malformedRecord _ | .notText => "CLI_IO_ERROR"
  | .schema _ => "CLI_COMPILE_FAILED"
  | .invalidRecords _ _ => "CLI_VALIDATION_FAILED"

def message : CommandError → String
  | .settings e => e.message
  | .noSources => "No entity files given and no schema_dir configured"
  | .malformedRecord f => "JSON error: " ++ f.message
  | .notText => FileFault.message .notText
  | .schema e => e.text
  | .invalidRecords failed total =>
    toString failed ++ " of " ++ toString total ++ " records failed validation"

/-- Code and message. -/
def text (e : CommandError) : String := e.code ++ ": " ++ e.message

end CommandError

end EntitySchema
