import IconForge.Icon.Processing

/-!
# Settings

What a settings file can say: where icons are and where their module goes, and what shapes the
module. Every setting has a default.
-/

namespace IconForge

/-- Where icons are, and where their module goes. -/
structure ProjectSettings where
  src : Path := ⟨"icons"⟩
  out : Path := ⟨"src/components"⟩
  deriving DecidableEq, Repr

structure GenerateSettings where
  defaultWidth : String := "24px"
  defaultHeight : String := "24px"
  format : OutputFormat := .jsx
  /-- The name of the module's file; without it, the name that the format gives. -/
  outputFileName : Option String := none
  identifierSuffix : String := ""
  useFileNames : Bool := false
  exclude : List String := []
  /-- A run in which an icon fails is a failure. -/
  strict : Bool := false
  deriving DecidableEq, Repr

structure Settings where
  project : ProjectSettings := {}
  generate : GenerateSettings := {}
  deriving DecidableEq, Repr

namespace Settings

def outputFileName (s : Settings) : String :=
  s.generate.outputFileName.getD s.generate.format.defaultFileName

/-- The options of a run under these settings. -/
def options (s : Settings) : Options where
  sizes := ⟨s.generate.defaultWidth, s.generate.defaultHeight⟩
  naming := ⟨s.generate.identifierSuffix, s.generate.useFileNames⟩
  format := s.generate.format
  outputFileName := s.outputFileName
  exclude := s.generate.exclude

end Settings

end IconForge
