import EntitySchema.Entity.Basic
import EntitySchema.Files.Basic
import EntitySchema.Json.Reader
import EntitySchema.Settings.Basic

/-!
# Registries of entities

A registry holds the entities read so far, in order and by title. An entity is never replaced, and
a failed operation adds nothing but what it had read before it failed.

In an entity file a property may be given as the name of a shared schema; `expandShared` puts the
schemas in.
-/

namespace EntitySchema

/-! ## Shared schemas -/

/-- A property that names a schema that is not there. -/
structure UnknownSchema where
  schema : String
  property : String
deriving DecidableEq, Repr

def UnknownSchema.message (u : UnknownSchema) : String :=
  "Unknown schema " ++ Text.shown u.schema ++ " for property " ++ Text.shown u.property

/-- Replaces names of schemas by the schemas, up to the first name that is not known. -/
def expandMembers (shared : SharedSchemas) : Members → Option UnknownSchema × Members
  | [] => (none, [])
  | (k, v) :: ms =>
    match v with
    | .str name =>
      match Members.get? shared name with
      | none => (some ⟨name, k⟩, (k, v) :: ms)
      | some f =>
        let (failure, ms) := expandMembers shared ms
        (failure, (k, f.encode) :: ms)
    | v =>
      let (failure, ms) := expandMembers shared ms
      (failure, (k, v) :: ms)

/-- Replaces the properties that are names of schemas by the schemas. A failure leaves the
properties before it replaced. -/
def expandShared (shared : SharedSchemas) (entity : Json) : Option UnknownSchema × Json :=
  match entity with
  | .obj ms => match Members.get? ms "properties" with
    | some (.obj properties) =>
      let (failure, properties) := expandMembers shared properties
      (failure, .obj (Members.insert ms "properties" (.obj properties)))
    | _ => (none, entity)
  | _ => (none, entity)

/-! ## Entity files -/

/-- Reads the text of an entity, or gives the reason why it is none. -/
def parseEntity (shared : SharedSchemas) (text : String) : Except String Entity := do
  let v ← (Json.parse text).mapError fun f => "Invalid JSON: " ++ f.message
  match expandShared shared v with
  | (some unknown, _) => .error unknown.message
  | (none, v) => (Entity.decode v).mapError fun e => "Invalid entity: " ++ e.message

/-- Reads an entity file. -/
def readEntity (files : Files) (shared : SharedSchemas) (path : String) : SchemaResult Entity :=
  match files.read path with
  | .error fault => fail (.malformedFile path ("Failed to read file: " ++ fault.message))
  | .ok text => match parseEntity shared text with
    | .error reason => fail (.malformedFile path reason)
    | .ok e => return e

/-- Entities in the order in which they were read, each by its title. -/
structure Registry where
  dir : String
  shared : SharedSchemas
  entities : List Entity

namespace Registry

/-- A registry for the files of a directory, with no entities yet. -/
def ofDir (dir : String) (shared : SharedSchemas) : Registry := ⟨dir, shared, []⟩

def get? (r : Registry) (title : String) : Option Entity := r.entities.find? (·.title = title)

def has (r : Registry) (title : String) : Bool := (r.get? title).isSome

def titles (r : Registry) : List String := r.entities.map Entity.title

def size (r : Registry) : Nat := r.entities.length

/-- Adds an entity; its title must be new. -/
def register (r : Registry) (e : Entity) : SchemaResult Registry :=
  if r.has e.title then fail (.duplicate e.title)
  else return { r with entities := r.entities ++ [e] }

/-- Reads an entity file and adds the entity. -/
def loadFile (r : Registry) (files : Files) (path : String) : SchemaResult Registry := do
  r.register (← readEntity files r.shared path)

/-- Reads entity files in order, up to the first that fails. -/
def loadFiles (r : Registry) (files : Files) : List String → SchemaResult Unit × Registry
  | [] => (.ok (), r)
  | path :: paths => match r.loadFile files path with
    | .ok r => r.loadFiles files paths
    | .error e => (.error e, r)

/-- The entity files among the names in a directory, sorted. -/
def entityNames (names : List String) : List String :=
  (names.filter Files.isJsonName).mergeSort fun a b => decide (a ≤ b)

/-- Reads all entity files of the directory, sorted by name; there may be no such directory. -/
def loadAll (r : Registry) (files : Files) : SchemaResult Unit × Registry :=
  if !files.present r.dir then (.ok (), r)
  else match files.list r.dir with
    | .error fault =>
      (fail (.malformedFile r.dir fault.message), r)
    | .ok names => r.loadFiles files ((entityNames names).map (Files.join r.dir))

end Registry

end EntitySchema
