import IconForge.Glob
import IconForge.Settings.Basic

/-!
# Sound settings

Settings can have values that no run could work with. `problems` finds them all, in the order of the
settings.
-/

namespace IconForge

open IconForge.Text

inductive Flaw where
  | blank
  /-- A suffix that would spoil the identifiers it ends. -/
  | notAlphanumeric
  /-- A name that does not stay inside the directory of the module. -/
  | notPlainName
  | badPattern (error : Glob.PatternError)
  deriving DecidableEq, Repr

inductive SettingName where
  | defaultWidth | defaultHeight | identifierSuffix | outputFileName
  /-- One of the exclude patterns, counted from zero. -/
  | exclude (index : Nat)
  deriving DecidableEq, Repr

structure Problem where
  setting : SettingName
  flaw : Flaw
  deriving DecidableEq, Repr

/-- The name of a setting, with the group it is in. -/
def SettingName.field : SettingName → String
  | defaultWidth => "generate.default_width"
  | defaultHeight => "generate.default_height"
  | identifierSuffix => "generate.identifier_suffix"
  | outputFileName => "generate.output_file_name"
  | exclude index => "generate.exclude[" ++ toString index ++ "]"

def Flaw.message : Flaw → String
  | blank => "must be a non-empty string"
  | notAlphanumeric => "may only contain ASCII letters and digits"
  | notPlainName => "must be a plain file name"
  | badPattern error => "is not a valid glob pattern: " ++ error.message

namespace Problem

def field (p : Problem) : String := p.setting.field

def message (p : Problem) : String := p.flaw.message

def text (p : Problem) : String := "icons.toml: '" ++ p.field ++ "' " ++ p.message

end Problem

/-- A name that names a file right inside any directory. -/
def isPlainFileName (name : String) : Bool :=
  !name.isEmpty && !(name.toList.any fun c => c == '/' || c == '\\') && name != "." && name != ".."

namespace Settings

/-- The patterns that cannot be read, with their numbers. -/
def patternProblems (patterns : List String) : List Problem :=
  patterns.zipIdx.filterMap fun (pattern, index) =>
    match Glob.Pattern.parse pattern with
    | .ok _ => none
    | .error e => some ⟨.exclude index, .badPattern e⟩

/-- All that is wrong with some settings. -/
def problems (s : Settings) : List Problem :=
  let g := s.generate
  (if isAllBlank g.defaultWidth then [⟨.defaultWidth, .blank⟩] else []) ++
  (if isAllBlank g.defaultHeight then [⟨.defaultHeight, .blank⟩] else []) ++
  (if g.identifierSuffix.toList.all isWordChar then []
    else [⟨.identifierSuffix, .notAlphanumeric⟩]) ++
  (if g.outputFileName.all isPlainFileName then [] else [⟨.outputFileName, .notPlainName⟩]) ++
  patternProblems g.exclude

def isValid (s : Settings) : Bool := s.problems.isEmpty

end Settings

end IconForge
