import IconForge.Settings.Decode
import IconForge.Settings.Validation
import IconForge.Store.Basic
import IconForge.Toml.Document

/-!
# The settings file

Where the settings file is looked for, what a new one holds, and what can go wrong with one. The
file is looked for in a directory and those above it, and then in the place for settings of the
user; the nearest one counts.
-/

namespace IconForge

inductive SettingsError where
  | unreadable (failure : Failure)
  /-- The text is no document. -/
  | notToml
  | wrongShape (error : Settings.ShapeError)
  | invalid (problems : List Problem)
  /-- A new file would take the place of another. -/
  | alreadyExists (path : Path)
  deriving DecidableEq, Repr

/-- What is said of an error. Of a text that is no document, the words of the document reader would
follow; they are left out. -/
def SettingsError.message : SettingsError → String
  | unreadable failure => "Failed to read config: " ++ failure.message
  | notToml => "Failed to parse icons.toml: "
  | wrongShape error => "Failed to parse icons.toml: " ++ error.message
  | invalid problems =>
    "Config validation failed:\n" ++ "\n".intercalate (problems.map fun p => "  - " ++ p.text)
  | alreadyExists path => path.text ++ " already exists (use --force to overwrite)"

/-- Where a program runs: the directory, the user's directories as far as they are known, and where
it speaks to. -/
structure Environment where
  workingDirectory : Path
  /-- The user's directory for settings. -/
  configHome : Option Path := none
  home : Option Path := none
  /-- What the program says is shown on a terminal. -/
  terminal : Bool := false
  deriving DecidableEq, Repr

namespace Settings

/-! ## Reading -/

def check (s : Settings) : Except SettingsError Unit :=
  if s.problems.isEmpty then .ok () else .error (.invalid s.problems)

/-- The settings that a text writes, whatever they are. -/
def parse (text : String) : Except SettingsError Settings :=
  match Toml.parse text with
  | none => .error .notToml
  | some table => (ofTable table).mapError .wrongShape

/-- The settings that a file's text writes, if nothing is wrong with them. -/
def ofText (text : String) : Except SettingsError Settings := do
  let s ← parse text
  s.check
  return s

/-! ## Places -/

def fileName : String := "icons.toml"

def fileIn (dir : Path) : Path := dir.join ⟨fileName⟩

/-- Where the settings file for a directory can be, the nearest place first. -/
def candidates (start : Path) : List Path := start.ancestors.map fileIn

def findFrom? (isThere : Path → Bool) (start : Path) : Option Path :=
  (candidates start).find? isThere

/-- The settings file of the user, in the directory for settings (`configHome`) or in the default
one inside the user's own (`home`). -/
def userFile? (configHome home : Option Path) : Option Path :=
  (configHome.or (home.map fun h => h.join ⟨".config"⟩)).map fun dir =>
    fileIn (dir.join ⟨"svgicons"⟩)

/-- The settings file of the user, if it is there. -/
def findUser? (isThere : Path → Bool) (configHome home : Option Path) : Option Path :=
  (userFile? configHome home).filter isThere

/-- Where the settings file can be where a program runs, the place that counts most first. -/
def places (env : Environment) : List Path :=
  candidates env.workingDirectory ++ (userFile? env.configHome env.home).toList

/-! ## A new file -/

def starter : String :=
  "# svgicons configuration\n\n" ++
  "[project]\n" ++
  "# Directory containing the .svg sources\n" ++
  "src = \"icons\"\n" ++
  "# Directory receiving the generated module\n" ++
  "out = \"src/components\"\n\n" ++
  "[generate]\n" ++
  "default_width = \"24px\"\n" ++
  "default_height = \"24px\"\n" ++
  "# \"jsx\" or \"tsx\"\n" ++
  "format = \"jsx\"\n" ++
  "# output_file_name = \"icons.jsx\"\n" ++
  "identifier_suffix = \"\"\n" ++
  "use_file_names = false\n" ++
  "exclude = []\n" ++
  "strict = false\n"

end Settings

end IconForge
