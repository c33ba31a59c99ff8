import EntitySchema.Command.Arguments
import EntitySchema.Command.Records
import EntitySchema.Registry

/-!
# Running commands

`Command.run` says what a command prints and whether it succeeds, given the files and the lines of
standard input. A failure is reported twice: as the last line of output and, in short, as an error
text.
-/

namespace EntitySchema

/-- What a program prints, and the code it ends with. -/
structure Outcome where
  exit : Nat
  stdout : List Json
  stderr : List String

/-! ## Compiling -/

/-- Compiles entities, up to the first that does not compile. -/
def Compiler.compileAll (c : Compiler) (es : List Entity) : SchemaResult (List Artifact) :=
  es.mapM c.compile

/-- The entities to compile: those of the given files, or else those of the directory that the
settings name. -/
def gatherEntities (files : Files) (s : Settings) (paths : List String) :
    Except CommandError (List Entity) :=
  match paths, s.schemaDir with
  | [], none => .error .noSources
  | [], some dir => finish ((Registry.ofDir dir s.shared).loadAll files)
  | paths, _ => finish ((Registry.ofDir "." s.shared).loadFiles files paths)
where
  finish : SchemaResult Unit × Registry → Except CommandError (List Entity)
    | (.ok (), r) => .ok r.entities
    | (.error e, _) => .error (.schema e)

/-- The compiler that settings ask for. -/
def compilerOf (s : Settings) : Except CommandError Compiler :=
  (Compiler.ofSettings s).mapError fun p => .settings (.invalid p)

/-- Compiles entity files. -/
def compileEntities (files : Files) (s : Settings) (paths : List String) :
    Except CommandError (List Artifact) := do
  let entities ← gatherEntities files s paths
  let c ← compilerOf s
  (c.compileAll entities).mapError .schema

/-! ## Commands -/

/-- The settings of a file, or the default ones. -/
def loadSettings (files : Files) (path : Option String) : Except CommandError Settings :=
  match path with
  | none => .ok {}
  | some path => (Settings.load files path).mapError .settings

/-- The model of an entity file. -/
def loadModel (files : Files) (s : Settings) (path : String) : Except CommandError Model := do
  let e ← (readEntity files s.shared path).mapError .schema
  let c ← compilerOf s
  (c.define e).mapError .schema

/-- The lines a command prints, and whether it fails. -/
def Command.perform (files : Files) (records : List (Except CommandError Json)) :
    Command → List Json × Except CommandError Unit
  | .compile settings paths =>
    let result : Except CommandError (List Artifact) := do
      compileEntities files (← loadSettings files settings) paths
    match result with
    | .ok artifacts =>
      ([.obj [("status", .str "ok"), ("data", .arr (artifacts.map Artifact.encode))]], .ok ())
    | .error e => ([], .error e)
  | .validate settings entity =>
    let result : Except CommandError Model := do
      loadModel files (← loadSettings files settings) entity
    match result with
    | .error e => ([], .error e)
    | .ok m =>
      let (verdicts, outcome) := m.validateRecords records
      let failure : Except CommandError Unit := do
        let tally ← outcome
        if tally.failed = 0 then return () else .error (.invalidRecords tally.failed tally.total)
      (verdicts.map Verdict.encode, failure)

/-- The last line of a command that fails. -/
def CommandError.encode (e : CommandError) : Json := .obj [
  ("status", .str "error"), ("code", .str e.code), ("message", .str e.message)]

/-- Runs a command. -/
def Command.run (files : Files) (records : List (Except CommandError Json)) (c : Command) :
    Outcome :=
  match c.perform files records with
  | (lines, .ok ()) => ⟨0, lines, []⟩
  | (lines, .error e) => ⟨1, lines ++ [e.encode], [e.text]⟩

/-- The name and version of the program. -/
def versionText : String := "schemac 0.1.0"

end EntitySchema
