import IconForge.CommandLine.Generate

/-!
# The command `init`

Makes a new settings file in the working directory, and says what to do next.
-/

namespace IconForge.CommandLine

/-- The end of the program after making a settings file. -/
def initEnding : Except SettingsError Path → Ending
  | .ok path =>
    { exitCode := some 0
      stdout :=
        "Created " ++ path.text ++ "\n\nNext steps:\n  put your .svg files in icons/\n" ++
          "  svgicons generate\n" }
  | .error (.alreadyExists path) =>
    { exitCode := some 1
      stderr := "Error: " ++ path.text ++ " already exists\nUse --force to overwrite it\n" }
  | .error e => { exitCode := some 1, stderr := "Error: " ++ e.message ++ "\n" }

/-- `init`, up to the exit code. -/
def initProgram (force : Bool) (env : Environment) : Interaction (Option Nat) := do
  (initEnding (← Settings.create env.workingDirectory force)).conduct

/-- Carries `init` out on a disk. It never looks at the clock. -/
@[irreducible]
def init (force : Bool) (env : Environment) (d : Disk) : Ending × Disk :=
  Ending.onDisk (initProgram force env) (fun _ => 0) d

/-! ## Commands -/

/-- What a command line asks for, up to the exit code. -/
def program (command : Command) (env : Environment) : Interaction (Option Nat) :=
  match command with
  | .generate arguments => Generate.program arguments env
  | .init force => initProgram force env

end IconForge.CommandLine
