/-!
# Command lines

A command line names a command, its options, and files. An option takes the argument after it, or
what follows its `=`. After `--` all arguments are files.
-/

namespace EntitySchema

/-- What is to be done. -/
inductive Command where
  /-- Compile entity files; without files, those of the directory that the settings name. -/
  | compile (settings : Option String) (files : List String)
  /-- Check records against an entity. -/
  | validate (settings : Option String) (entity : String)
deriving DecidableEq, Repr

/-- The files that a command names. -/
def Command.paths : Command → List String
  | .compile settings files => settings.toList ++ files
  | .validate settings entity => settings.toList ++ [entity]

/-- What a command line asks for. -/
inductive Request where
  | version
  | run (c : Command)
deriving DecidableEq, Repr

namespace Command

/-- What has been read of a command line. -/
structure Given where
  settings : Option String := none
  entity : Option String := none
  files : List String := []

/-- Whether an argument is an option rather than a value. -/
def isOption (arg : String) : Bool := arg.toList.head? = some '-' && arg ≠ "-"

/-- The value of an option that is written with `=`. -/
def inlineValue? (option arg : String) : Option String :=
  let start := option.toList ++ ['=']
  if start.isPrefixOf arg.toList then some (String.ofList (arg.toList.drop start.length)) else none

/-- Sets an option; it may be given once and must not be empty. -/
def Given.setOption? (g : Given) (option value : String) : Option Given :=
  if value.isEmpty then none
  else if option = "--config" then
    if g.settings.isSome then none else some { g with settings := some value }
  else if g.entity.isSome then none
  else some { g with entity := some value }

/-- Adds files. -/
def Given.addFiles? (g : Given) (files : List String) : Option Given :=
  if files.any String.isEmpty then none else some { g with files := g.files ++ files }

/-- Reads the arguments of a command that has some options. -/
def readGiven? (options : List String) (g : Given) : List String → Option Given
  | [] => some g
  | arg :: rest =>
    if arg = "--" then g.addFiles? rest
    else if isOption arg then
      if options.contains arg then
        match rest with
        | [] => none
        | value :: rest =>
          if isOption value then none
          else do readGiven? options (← g.setOption? arg value) rest
      else
        match options.findSome? fun o => (inlineValue? o arg).map fun v => (o, v) with
        | some (option, value) => do readGiven? options (← g.setOption? option value) rest
        | none => none
    else do readGiven? options (← g.addFiles? [arg]) rest

end Command

/-- Whether an argument asks for the version; letters after the short form do not matter. -/
def Request.isVersion (arg : String) : Bool :=
  arg = "--version" || "-V".toList.isPrefixOf arg.toList

/-- Reads a command line. -/
def Request.parse? : List String → Option Request
  | "compile" :: args => do
    let g ← Command.readGiven? ["--config"] {} args
    return .run (.compile g.settings g.files)
  | "validate" :: args => do
    let g ← Command.readGiven? ["--config", "--entity"] {} args
    if g.files.isEmpty then return .run (.validate g.settings (← g.entity)) else none
  | arg :: _ => if isVersion arg then some .version else none
  | [] => none

end EntitySchema
