import EntitySchema.Command.Failure
import EntitySchema.Model
import EntitySchema.Text.Characters
import EntitySchema.Text.Lines

/-!
# Records

Records are read one from each line; a line of white space holds none. Validation answers each
record with a verdict, in order, and stops at the first line that is no record or whose entity is
at fault.
-/

namespace EntitySchema

/-! ## Lines -/

/-- A line of input: its characters, or nothing if its bytes are no text. -/
abbrev Line := Option (List Char)

/-- Whether a line holds a record. -/
def isRecordLine (line : Line) : Bool :=
  match line with
  | some cs => !Text.allBlank cs
  | none => true

/-- The record on a line. -/
def readRecord (line : Line) : Except CommandError Json :=
  match line with
  | some cs => (Json.parseChars cs).mapError .malformedRecord
  | none => .error .notText

/-- The records of some lines. -/
def recordsOfLines (lines : List Line) : List (Except CommandError Json) :=
  (lines.filter isRecordLine).map readRecord

/-- The records of a text. -/
def readRecords (text : List Char) : List (Except CommandError Json) :=
  recordsOfLines ((Text.charLines text).map some)

/-- The records of a sequence of bytes. -/
def readRecordBytes (bytes : List UInt8) : List (Except CommandError Json) :=
  recordsOfLines (Text.byteLines bytes)

/-- A value on a line of its own. -/
def writeLine (v : Json) : List Char := v.chars ++ ['\n']

/-! ## Verdicts -/

/-- What is said about one record. -/
inductive Verdict where
  | ok
  | invalid (r : Report)
deriving DecidableEq, Repr

namespace Verdict

def isOk : Verdict → Bool
  | .ok => true
  | .invalid _ => false

def encode : Verdict → Json
  | .ok => .obj [("status", .str "ok")]
  | .invalid r => .obj [
      ("status", .str "invalid"),
      ("message", .str r.message),
      ("errors", .arr (r.entries.map Entry.encode))]

/-- The verdict on a record; an error of the schema that aborts a compilation is none. -/
def ofCheck : Except CheckError Unit → SchemaResult Verdict
  | .ok () => .ok .ok
  | .error (.invalid r) => .ok (.invalid r)
  | .error (.schema e) =>
    if e.isFatal then .error e else .ok (.invalid (.ofMessage e.message))

end Verdict

/-- The verdict on one record, and the model afterwards. -/
def Model.judge (m : Model) (record : Except CommandError Json) :
    Except CommandError Verdict × Model :=
  match record with
  | .error e => (.error e, m)
  | .ok v =>
    let (outcome, m) := m.validateProps v
    ((Verdict.ofCheck outcome).mapError .schema, m)

/-- The verdicts on records up to the first error. -/
def Model.judgeAll (m : Model) :
    List (Except CommandError Json) → List Verdict × Except CommandError Unit
  | [] => ([], .ok ())
  | record :: records => match m.judge record with
    | (.error e, _) => ([], .error e)
    | (.ok verdict, m) =>
      let (verdicts, outcome) := m.judgeAll records
      (verdict :: verdicts, outcome)

/-- How many verdicts there are, and how many of them are failures. -/
structure Tally where
  failed : Nat
  total : Nat
deriving DecidableEq, Repr

def Tally.ofVerdicts (vs : List Verdict) : Tally := ⟨vs.countP (!·.isOk), vs.length⟩

/-- The verdicts on records, and how many failed unless there was an error. -/
def Model.validateRecords (m : Model) (records : List (Except CommandError Json)) :
    List Verdict × Except CommandError Tally :=
  let (verdicts, outcome) := m.judgeAll records
  (verdicts, outcome.map fun _ => .ofVerdicts verdicts)

end EntitySchema
