import EntitySchema.Command.Run

/-!
# The program

Reads the files that a command asks for and the standard input, runs the command, and prints what it
says.
-/

namespace EntitySchema

/-- The fault behind an error of the operating system, whose number may come with either sign. -/
def faultOf : IO.Error → FileFault
  | .noFileOrDirectory .. => .notFound
  | .inappropriateType file code details =>
    match min code (0 - code) with
    | 20 => .notADirectory
    | 21 => .isADirectory
    | _ => .other (toString (IO.Error.inappropriateType file code details))
  | e => .other (toString e)

/-- The outcome of an action that may fail. -/
def attempt {α : Type} (action : IO α) : IO (Except FileFault α) := do
  match ← action.toBaseIO with
  | .ok a => return .ok a
  | .error e => return .error (faultOf e)

/-- The text of a file. -/
def readText (path : String) : IO (String × Except FileFault String) := do
  if path.toList.contains '\x00' then return (path, .error .nul)
  match ← attempt (IO.FS.readBinFile path) with
  | .error fault => return (path, .error fault)
  | .ok bytes => match String.fromUTF8? bytes with
    | some text => return (path, .ok text)
    | none => return (path, .error .notText)

/-- The names in a directory; an action that fails does so before it gives any of them. -/
def readNames (dir : String) : IO (Except ListingFault (List String)) := do
  let names ← attempt do
    let entries ← IO.FS.DirEntry.root ⟨dir, ""⟩ |>.readDir
    return entries.toList.map IO.FS.DirEntry.fileName
  return names.mapError .directory

/-- The entity files of a directory, if it is there. -/
def snapshotDir (s : Snapshot) (dir : String) : IO Snapshot := do
  if ← (IO.FS.DirEntry.root ⟨dir, ""⟩).pathExists then
    let names ← readNames dir
    let paths := (Registry.entityNames (names.toOption.getD [])).map (Files.join dir)
    return { s with dirs := [(dir, names)], texts := s.texts ++ (← paths.mapM readText) }
  else return s

/-- What a command asks of the file system. -/
def snapshot (c : Command) : IO Snapshot := do
  let s : Snapshot := { texts := ← c.paths.mapM readText }
  match c with
  | .compile path [] => match (loadSettings s.files path).toOption.bind Settings.schemaDir with
    | some dir => snapshotDir s dir
    | none => return s
  | _ => return s

/-- All bytes of a stream. -/
partial def readAll (input : IO.FS.Stream) (read : ByteArray) : IO ByteArray := do
  let bytes ← input.read 65536
  if bytes.isEmpty then return read else readAll input (read ++ bytes)

/-- The bytes a command reads from standard input. -/
def inputOf : Command → IO ByteArray
  | .compile _ _ => return .empty
  | .validate _ _ => do readAll (← IO.getStdin) .empty

def usage : String :=
  "Usage: schemac compile [--config <CONFIG>] [FILES]...\n" ++
  "       schemac validate [--config <CONFIG>] --entity <ENTITY>"

end EntitySchema

open EntitySchema in
/-- Runs the command that the arguments name. -/
def main (args : List String) : IO UInt32 := do
  match Request.parse? args with
  | none =>
    IO.eprintln usage
    return 2
  | some .version =>
    IO.println versionText
    return 0
  | some (.run c) =>
    let s ← snapshot c
    let o := c.run s.files (readRecordBytes (← inputOf c).toList)
    o.stdout.forM fun v => IO.println v.text
    o.stderr.forM fun e => IO.eprintln e
    return UInt32.ofNat o.exit
