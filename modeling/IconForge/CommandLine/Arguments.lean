import IconForge.Settings.Overrides

/-!
# Arguments

What a command line says. Options take a value, after an equals sign or as the next argument; flags
take none; options and flags are given at most once, exclude patterns excepted. What does not start
with a dash, and everything after `--`, is a path.

## Order of errors

An option, flag or path is taken note of when the next one comes or the arguments end, and only then
it is found to lack a value, to come a second time or to have a bad value. An argument that is not
known, or a flag with a value, is found at once.
-/

namespace IconForge.CommandLine

/-! ## Commands -/

/-- What `generate` is told. -/
structure GenerateArguments where
  input : Option Path := none
  output : Option Path := none
  config : Option Path := none
  width : Option String := none
  height : Option String := none
  suffix : Option String := none
  format : Option OutputFormat := none
  outputFile : Option String := none
  exclude : List String := []
  useFileNames : Bool := false
  strict : Bool := false
  /-- The module is printed instead of being written. -/
  dryRun : Bool := false
  /-- Events are printed one to a line, for programs. -/
  json : Bool := false
  verbose : Bool := false
  deriving DecidableEq, Repr

inductive Command where
  | generate (arguments : GenerateArguments)
  /-- A new settings file, `force` instead of one that is there. -/
  | init (force : Bool)
  deriving DecidableEq, Repr

/-- Why a command line asks for nothing that can be done. -/
inductive UsageError where
  | invalidValue
  | unknownArgument
  | argumentConflict
  | invalidSubcommand
  | tooManyValues
  | missingSubcommand
  /-- Help is asked for; this is no failure. -/
  | help
  /-- The version is asked for; this is no failure. -/
  | version
  deriving DecidableEq, Repr

/-- The code with which the program ends. -/
def UsageError.exitCode : UsageError → Nat
  | help | version => 0
  | _ => 2

/-! ## Names -/

/-- Options and paths: what has a value. -/
inductive Valued where
  | input | output | config | width | height | suffix | format | outputFile | exclude
  deriving DecidableEq, Repr

inductive Switch where
  | useFileNames | strict | dryRun | json | verbose | force | help | version
  deriving DecidableEq, Repr

/-- What an argument that starts with a dash can name. -/
inductive Name where
  | valued (v : Valued)
  | switch (s : Switch)
  deriving DecidableEq, Repr

/-- The names that a part of the command line knows, after two dashes and after one. -/
structure Names where
  long : List (String × Name)
  short : List (Char × Name)

def generateNames : Names where
  long := [
    ("config", .valued .config), ("width", .valued .width), ("height", .valued .height),
    ("suffix", .valued .suffix), ("format", .valued .format),
    ("output-file", .valued .outputFile), ("exclude", .valued .exclude),
    ("use-file-names", .switch .useFileNames), ("strict", .switch .strict),
    ("dry-run", .switch .dryRun), ("json", .switch .json), ("verbose", .switch .verbose),
    ("help", .switch .help)]
  short := [
    ('c', .valued .config), ('o', .valued .outputFile), ('v', .switch .verbose),
    ('h', .switch .help)]

def initNames : Names where
  long := [("force", .switch .force), ("help", .switch .help)]
  short := [('h', .switch .help)]

def programNames : Names where
  long := [("help", .switch .help), ("version", .switch .version)]
  short := [('h', .switch .help), ('V', .switch .version)]

/-! ## Taking note -/

structure State where
  arguments : GenerateArguments := {}
  force : Bool := false
  /-- What has been named last, with its value if that has come. -/
  pending : Option (Valued × Option String) := none
  /-- The paths that may still come. -/
  paths : List Valued := []

/-- Sets what must not have been set. -/
def setOnce {α : Type} (old : Option α) (new : Except UsageError α) :
    Except UsageError (Option α) :=
  if old.isSome then .error .argumentConflict else new.map some

/-- A path, which must not be empty. -/
def pathValue (text : String) : Except UsageError Path :=
  if text.isEmpty then .error .invalidValue else .ok ⟨text⟩

def formatValue (text : String) : Except UsageError OutputFormat :=
  match OutputFormat.ofName? text with
  | some format => .ok format
  | none => .error .invalidValue

/-- Arguments with a value for an option or path. -/
def GenerateArguments.set (a : GenerateArguments) (value : String) :
    Valued → Except UsageError GenerateArguments
  | .input => return { a with input := ← setOnce a.input (pathValue value) }
  | .output => return { a with output := ← setOnce a.output (pathValue value) }
  | .config => return { a with config := ← setOnce a.config (pathValue value) }
  | .width => return { a with width := ← setOnce a.width (.ok value) }
  | .height => return { a with height := ← setOnce a.height (.ok value) }
  | .suffix => return { a with suffix := ← setOnce a.suffix (.ok value) }
  | .format => return { a with format := ← setOnce a.format (formatValue value) }
  | .outputFile => return { a with outputFile := ← setOnce a.outputFile (.ok value) }
  | .exclude => return { a with exclude := a.exclude ++ [value] }

/-- Switches on what must not be on. -/
def switchOnce (old : Bool) : Except UsageError Bool :=
  if old then .error .argumentConflict else .ok true

namespace State

/-- Takes note of what has been named last. -/
def settle (s : State) : Except UsageError State :=
  match s.pending with
  | none => .ok s
  | some (_, none) => .error .invalidValue
  | some (v, some value) =>
    (s.arguments.set value v).map fun arguments =>
      { s with arguments := arguments, pending := none }

/-- Takes note of something without a value. -/
def turnOn (s : State) (what : Switch) : Except UsageError State := do
  let s ← s.settle
  let a := s.arguments
  match what with
  | .useFileNames => return { s with arguments.useFileNames := ← switchOnce a.useFileNames }
  | .strict => return { s with arguments.strict := ← switchOnce a.strict }
  | .dryRun => return { s with arguments.dryRun := ← switchOnce a.dryRun }
  | .json => return { s with arguments.json := ← switchOnce a.json }
  | .verbose => return { s with arguments.verbose := ← switchOnce a.verbose }
  | .force => return { s with force := ← switchOnce s.force }
  | .help => throw .help
  | .version => throw .version

/-- Takes note of an option with the value after it, and at once. -/
def assign (s : State) (v : Valued) (value : String) : Except UsageError State := do
  let s ← s.settle
  { s with pending := some (v, some value) }.settle

/-- Remembers an option whose value is to come. -/
def await (s : State) (v : Valued) : Except UsageError State := do
  let s ← s.settle
  return { s with pending := some (v, none) }

/-- Takes a path, if one may still come. -/
def takePath (s : State) (text : String) : Except UsageError State :=
  match s.paths with
  | [] => .error .unknownArgument
  | v :: paths => do
    let s ← s.settle
    return { s with pending := some (v, some text), paths := paths }

/-- Takes an argument that is no option: the value that is awaited, or a path. -/
def takePlain (s : State) (text : String) : Except UsageError State :=
  match s.pending with
  | some (v, none) => .ok { s with pending := some (v, some text) }
  | _ => s.takePath text

def takeLong (s : State) (names : Names) (text : List Char) : Except UsageError State :=
  let name := String.ofList (text.takeWhile fun c => c != '=')
  let value := ((text.dropWhile fun c => c != '=').tail?).map String.ofList
  match names.long.lookup name, value with
  | none, _ => .error .unknownArgument
  | some (.switch _), some _ => .error .tooManyValues
  | some (.switch what), none => s.turnOn what
  | some (.valued v), some value => s.assign v value
  | some (.valued v), none => s.await v

/-- Takes what follows one dash: flags, and possibly an option, which has the rest for its value. An
equals sign before the value is not part of it. -/
def takeShort (s : State) (names : Names) : List Char → Except UsageError State
  | [] => .ok s
  | c :: cs =>
    match names.short.lookup c with
    | none => .error .unknownArgument
    | some (.switch what) => do
      let s ← s.turnOn what
      s.takeShort names cs
    | some (.valued v) =>
      match cs with
      | [] => s.await v
      | '=' :: value => s.assign v (String.ofList value)
      | value => s.assign v (String.ofList value)

def take (s : State) (names : Names) (argument : String) : Except UsageError State :=
  match argument.toList with
  | '-' :: '-' :: text => s.takeLong names text
  | '-' :: c :: cs => s.takeShort names (c :: cs)
  | _ => s.takePlain argument

/-- Takes the arguments of a command, all of them. -/
def takeAll (s : State) (names : Names) : List String → Except UsageError State
  | [] => s.settle
  | argument :: more =>
    if argument = "--" then do
      let s ← more.foldlM takePath s
      s.settle
    else do
      let s ← s.take names argument
      s.takeAll names more

end State

/-! ## Command lines -/

def commandNames : List String := ["generate", "init", "help"]

/-- What asking for help on something means: help, if it is a command. -/
def helpOn : List String → UsageError
  | [] => .help
  | [name] => if commandNames.contains name then .help else .invalidSubcommand
  | _ => .invalidSubcommand

/-- What an argument in place of a command means after `--`. -/
def afterDashes : List String → UsageError
  | [] => .missingSubcommand
  | name :: _ => if commandNames.contains name then .unknownArgument else .invalidSubcommand

/-- What the arguments after the name of the program ask for. -/
def parse (arguments : List String) : Except UsageError Command :=
  match arguments with
  | [] => .error .missingSubcommand
  | "generate" :: more =>
    ({ paths := [.input, .output] } : State).takeAll generateNames more |>.map fun s =>
      .generate s.arguments
  | "init" :: more => (({} : State).takeAll initNames more).map fun s => .init s.force
  | "help" :: more => .error (helpOn more)
  | "--" :: more => .error (afterDashes more)
  | argument :: _ =>
    match argument.toList with
    | '-' :: _ :: _ =>
      match ({} : State).take programNames argument with
      | .error e => .error e
      | .ok _ => .error .missingSubcommand
    | _ => .error .invalidSubcommand

end IconForge.CommandLine
