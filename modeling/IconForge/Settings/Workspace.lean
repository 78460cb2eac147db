import IconForge.Settings.Basic

/-!
# Settings and where they count from

The paths in settings are seen from the directory that the settings belong to.
-/

namespace IconForge

/-- Settings with the directory that their paths are seen from, and how a run is to be judged and
watched. -/
structure Workspace where
  settings : Settings
  root : Path
  strict : Bool
  verbose : Bool
  deriving DecidableEq, Repr

namespace Workspace

/-- The workspace of settings in a directory. -/
def ofSettings (settings : Settings) (root : Path) : Workspace :=
  ⟨settings, root, settings.generate.strict, false⟩

def srcDirectory (w : Workspace) : Path := w.root.join w.settings.project.src

def outDirectory (w : Workspace) : Path := w.root.join w.settings.project.out

def outputPath (w : Workspace) : Path := w.outDirectory.join ⟨w.settings.outputFileName⟩

def options (w : Workspace) : Options := w.settings.options

end Workspace

end IconForge
