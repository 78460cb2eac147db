import IconForge.Interaction
import IconForge.Settings.File

/-!
# Loading settings

Finding and reading the settings file that counts where a program runs, and making a new one.
-/

namespace IconForge.Settings

/-- The settings file that counts where a program runs. -/
def locate (env : Environment) : Interaction (Option Path) :=
  (places env).findM? Interaction.isThere

/-- The settings that a file with this text, or the reason why it has none, gives. -/
def ofContent : Except Failure String → Except SettingsError Settings
  | .error failure => .error (.unreadable failure)
  | .ok text => ofText text

/-- The settings in a file; without one, those in the file that counts, or the defaults. -/
def load (env : Environment) (path : Option Path) :
    Interaction (Except SettingsError Settings) := do
  match path.or (← locate env) with
  | some path => return ofContent (← Interaction.readText path)
  | none => return .ok {}

/-- Makes a new settings file in a directory, which is made as well. A file that is there already
is replaced only if `force` says so. -/
def create (dir : Path) (force : Bool) : Interaction (Except SettingsError Path) := do
  let path := fileIn dir
  if (← Interaction.isThere path) && !force then return .error (.alreadyExists path)
  match ← Interaction.makeDirectories dir with
  | .error failure => return .error (.unreadable failure)
  | .ok () =>
    let made ← Interaction.overwriteFile path starter
    return (made.map fun _ => path).mapError .unreadable

end IconForge.Settings
