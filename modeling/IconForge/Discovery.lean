import IconForge.Glob
import IconForge.Path

/-!
# Sources of a batch

The entries of a directory divide into the icons to work on and those left out, each with the reason
why. Both keep the order of the listing.
-/

namespace IconForge

open IconForge.Glob

structure Source where
  fileName : String
  path : Path
  deriving DecidableEq, Repr

/-- The file name up to its last dot. -/
def Source.stem (s : Source) : String :=
  match Path.splitAtLastDot? s.fileName with
  | some (stem, _) => stem
  | none => s.fileName

inductive SkipReason where
  | notSvg
  | excluded (pattern : String)
  deriving DecidableEq, Repr

def SkipReason.message : SkipReason → String
  | notSvg => "not an SVG file"
  | excluded pattern => "excluded by '" ++ pattern ++ "'"

structure Skipped where
  fileName : String
  reason : SkipReason
  deriving DecidableEq, Repr

structure Discovery where
  sources : List Source
  skipped : List Skipped
  deriving DecidableEq, Repr

/-- An exclude pattern that cannot be read. -/
structure ExcludeError where
  pattern : String
  error : PatternError
  deriving DecidableEq, Repr

def ExcludeError.message (e : ExcludeError) : String :=
  "Invalid glob pattern '" ++ e.pattern ++ "': " ++ e.error.message

/-- The exclude patterns written in some texts; the first that cannot be read is an error. -/
def compileExcludes (texts : List String) : Except ExcludeError (List Pattern) :=
  texts.mapM fun text => (Pattern.parse text).mapError fun e => ⟨text, e⟩

/-- The letters of the extension, in lower case. -/
def svgExtension : List Char := "svg".toList

/-- A file name has the extension of icons, in any letter case. -/
def isSvgFile (fileName : String) : Bool :=
  (Path.extension? ⟨fileName⟩).any fun e => e.toList.map Char.toLower == svgExtension

/-- Why an entry is left out, if it is. What is no icon is left out as such, whatever the
patterns. -/
def skipReason? (excludes : List Pattern) (fileName : String) : Option SkipReason :=
  if isSvgFile fileName then
    (excludes.find? fun p => p.matches fileName).map fun p => .excluded p.text
  else some .notSvg

def discover (dir : Path) (names : List String) (excludes : List Pattern) : Discovery where
  sources :=
    (names.filter fun name => (skipReason? excludes name).isNone).map fun name =>
      ⟨name, dir.join ⟨name⟩⟩
  skipped := names.filterMap fun name => (skipReason? excludes name).map fun reason =>
    ⟨name, reason⟩

end IconForge
