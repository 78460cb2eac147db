import IconForge.CommandLine.Ending
import IconForge.Generation
import IconForge.Progress.Console
import IconForge.Settings.Loading
import IconForge.Settings.Workspace

/-!
# The command `generate`

Settings are found, read, overridden by arguments and checked; then the run is carried out and
watched; then it is judged.

## Exit codes

- 0: the run went well.
- 1: the settings file cannot be read, the run was stopped, or icons failed and that counts.
- 2: the settings are no settings, or something is wrong with them.

If the program breaks off, there is none.
-/

namespace IconForge.CommandLine

open IconForge.Progress

namespace Generate

/-! ## Settings -/

/-- The settings file that is named, seen from the working directory, or the one that counts. -/
def settingsPath? (arguments : GenerateArguments) (env : Environment) (located : Option Path) :
    Option Path :=
  (arguments.config.map env.workingDirectory.join).or located

/-- What is said about the settings file before it is read, if much is to be said. -/
def notice (arguments : GenerateArguments) (path : Option Path) : String :=
  if arguments.verbose then
    match path with
    | some path => "Using config: " ++ path.text ++ "\n"
    | none => "No icons.toml found, using defaults\n"
  else ""

/-- What the arguments override. Paths among them are seen from the working directory, and a flag
that is not given overrides nothing. -/
def overrides (arguments : GenerateArguments) (env : Environment) : Overrides where
  src := arguments.input.map env.workingDirectory.join
  out := arguments.output.map env.workingDirectory.join
  width := arguments.width
  height := arguments.height
  suffix := arguments.suffix
  format := arguments.format
  outputFileName := arguments.outputFile
  useFileNames := if arguments.useFileNames then some true else none
  exclude := arguments.exclude
  strict := if arguments.strict then some true else none

/-- The exit code for an error in the settings file. -/
def settingsExitCode : SettingsError → Nat
  | .notToml | .wrongShape _ | .invalid _ => 2
  | .unreadable _ | .alreadyExists _ => 1

/-- The settings that a file gives, and the directory they belong to; without a file the defaults in
the working directory. -/
def baseSettings (env : Environment) (file : Option (Path × Except Failure String)) :
    Except SettingsError (Settings × Path) :=
  match file with
  | none => .ok ({}, env.workingDirectory)
  | some (path, content) =>
    (Settings.ofContent content).map fun settings =>
      (settings, path.parent?.getD env.workingDirectory)

/-- The workspace of a run, from the settings file and its content. -/
def workspace (arguments : GenerateArguments) (env : Environment)
    (file : Option (Path × Except Failure String)) : Except Ending Workspace :=
  match baseSettings env file with
  | .error e =>
    .error {
      exitCode := some (settingsExitCode e)
      stderr := "Error loading config: " ++ e.message ++ "\n" }
  | .ok (settings, root) =>
    let settings := settings.override (overrides arguments env)
    match settings.check with
    | .error e => .error { exitCode := some 2, stderr := "Error: " ++ e.message ++ "\n" }
    | .ok () => .ok { Workspace.ofSettings settings root with verbose := arguments.verbose }

/-! ## The run -/

/-- The run that the arguments ask for. -/
def generation (arguments : GenerateArguments) (w : Workspace) : Generation :=
  ⟨w.options, arguments.dryRun⟩

/-- Carries a run out on the system and shows its events as they come: each on a line of its own for
programs to read, or on a console. -/
def shown {α : Type} (json : Bool) (c : Console) : Program RunRequest.Answer α → Interaction α
  | .done result => return result
  | .ask (.files q) next => do shown json c (next (← q.onSystem))
  | .ask .now next => do shown json c (next (← Interaction.now))
  | .ask (.report e) next => do
    Interaction.say (if json then e.jsonLine else (c.report e).2)
    shown json (c.report e).1 (next ())

/-- The console on which a run is watched. -/
def console (env : Environment) (w : Workspace) : Console :=
  { colors := env.terminal, verbose := w.verbose }

/-- The end of the program after a run, or with it, if it breaks off. -/
def verdict (arguments : GenerateArguments) (w : Workspace) : Except Stop Outcome → Ending
  | .error (.crash _) => { exitCode := none }
  | .error (.failure _) => { exitCode := some 1 }
  | .ok outcome =>
    let stdout := if arguments.dryRun then outcome.artifact else ""
    if w.strict && !outcome.report.isSuccess then
      let summary := if arguments.json then "" else outcome.report.summary ++ "\n"
      { exitCode := some 1, stdout := stdout, stderr := summary }
    else { exitCode := some 0, stdout := stdout }

/-! ## The command -/

/-- `generate`, up to the exit code. -/
def program (arguments : GenerateArguments) (env : Environment) : Interaction (Option Nat) := do
  let path := settingsPath? arguments env (← Settings.locate env)
  Interaction.say (notice arguments path)
  let file ← path.mapM fun path => return (path, ← Interaction.readText path)
  match workspace arguments env file with
  | .error ending => ending.conduct
  | .ok w =>
    let run := (generation arguments w).program w.srcDirectory w.outDirectory
    let result ← shown arguments.json (console env w) run
    (verdict arguments w result).conduct

end Generate

/-- Carries `generate` out on a disk. -/
@[irreducible]
def generate (arguments : GenerateArguments) (env : Environment) (clock : Clock) (d : Disk) :
    Ending × Disk :=
  Ending.onDisk (Generate.program arguments env) clock d

end IconForge.CommandLine
