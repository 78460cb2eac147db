import IconForge.Settings.Basic
import IconForge.Text.Quoted
import IconForge.Toml.Value

/-!
# Settings in a document

The settings that a table holds. Keys that are not known are passed over, and settings without a key
have their defaults. A group of settings may also be written as an array of its values in order, of
which the last may be missing; a group without anything, such as a date, has only defaults.

The first value of the wrong shape, in the order of the document, is an error.
-/

namespace IconForge.Settings

open IconForge.Text IconForge.Toml

/-! ## Errors -/

inductive Expected where
  | string | path | boolean | sequence | projectSettings | generateSettings
  deriving DecidableEq, Repr

/-- Why a value has the wrong shape. -/
inductive ShapeError where
  | wrongType (found : String) (expected : Expected)
  | unknownFormat (name : String)
  /-- A format that is neither a string nor a table. -/
  | formatNotNamed
  /-- A format that is a table without any or with several names in it. -/
  | formatNames (count : Nat)
  /-- What a format's name stands for in its table is no table. -/
  | formatNotTable (found : String)
  /-- What a format's name stands for in its table is a table, or several, with something in it. -/
  | formatNotEmpty (several : Bool)
  deriving DecidableEq, Repr

def Expected.describe : Expected → String
  | string => "a string"
  | path => "path string"
  | boolean => "a boolean"
  | sequence => "a sequence"
  | projectSettings => "struct ProjectConfig"
  | generateSettings => "struct GenerateConfig"

def ShapeError.message : ShapeError → String
  | wrongType found expected => "invalid type: " ++ found ++ ", expected " ++ expected.describe
  | unknownFormat name => "unknown variant `" ++ name ++ "`, expected `jsx` or `tsx`"
  | formatNotNamed => "wanted string or table"
  | formatNames count =>
    "wanted exactly 1 element, " ++ if count = 0 then "found 0 elements" else "more than 1 element"
  | formatNotTable found => "expected table, found " ++ found
  | formatNotEmpty several => if several then "expected empty array" else "expected empty table"

def describeValue : Value → String
  | .string text => "string " ++ quoted text
  | .integer n => "integer `" ++ toString n ++ "`"
  | .float x => "floating point `" ++ x.describe ++ "`"
  | .boolean b => "boolean `" ++ toString b ++ "`"
  | .array _ | .tables _ => "sequence"
  | .table _ | .datetime _ => "map"

/-- The error of a value that should have been something else. -/
def wrongType (v : Value) (expected : Expected) : ShapeError :=
  .wrongType (describeValue v) expected

/-! ## Single settings -/

def readString : Value → Except ShapeError String
  | .string text => .ok text
  | v => .error (wrongType v .string)

def readPath : Value → Except ShapeError Path
  | .string text => .ok ⟨text⟩
  | v => .error (wrongType v .path)

def readBoolean : Value → Except ShapeError Bool
  | .boolean b => .ok b
  | v => .error (wrongType v .boolean)

def readStrings : Value → Except ShapeError (List String)
  | .array items | .tables items => items.mapM readString
  | v => .error (wrongType v .sequence)

def formatNamed (name : String) : Except ShapeError OutputFormat :=
  match OutputFormat.ofName? name with
  | some format => .ok format
  | none => .error (.unknownFormat name)

/-- What the name of a format stands for in a table of its own says nothing, and has to. -/
def checkEmpty : Value → Except ShapeError Unit
  | .table entries => if entries.isEmpty then .ok () else .error (.formatNotEmpty false)
  | .array items => if items.isEmpty then .ok () else .error (.formatNotEmpty false)
  | .tables items => if items.isEmpty then .ok () else .error (.formatNotEmpty true)
  | v => .error (.formatNotTable v.typeName)

/-- A format: its name, or a table in which its name stands for an empty table. -/
def readFormat : Value → Except ShapeError OutputFormat
  | .string name => formatNamed name
  | .table [(name, inner)] => do
    let format ← formatNamed name
    checkEmpty inner
    return format
  | .table entries => .error (.formatNames entries.length)
  | _ => .error .formatNotNamed

/-! ## Groups of settings -/

/-- The settings in a group: by their keys, or in the order `names` if the group is an array. -/
def entriesOf? (names : List String) : Value → Option (List (String × Value))
  | .table entries => some entries
  | .array items | .tables items => some (names.zip items)
  | .datetime _ => some []
  | _ => none

def setProject (p : ProjectSettings) (entry : String × Value) :
    Except ShapeError ProjectSettings := do
  let (key, v) := entry
  match key with
  | "src" => return { p with src := ← readPath v }
  | "out" => return { p with out := ← readPath v }
  | _ => return p

def readProject (v : Value) : Except ShapeError ProjectSettings :=
  match entriesOf? ["src", "out"] v with
  | some entries => entries.foldlM setProject {}
  | none => .error (wrongType v .projectSettings)

def setGenerate (g : GenerateSettings) (entry : String × Value) :
    Except ShapeError GenerateSettings := do
  let (key, v) := entry
  match key with
  | "default_width" => return { g with defaultWidth := ← readString v }
  | "default_height" => return { g with defaultHeight := ← readString v }
  | "format" => return { g with format := ← readFormat v }
  | "output_file_name" => return { g with outputFileName := some (← readString v) }
  | "identifier_suffix" => return { g with identifierSuffix := ← readString v }
  | "use_file_names" => return { g with useFileNames := ← readBoolean v }
  | "exclude" => return { g with exclude := ← readStrings v }
  | "strict" => return { g with strict := ← readBoolean v }
  | _ => return g

def readGenerate (v : Value) : Except ShapeError GenerateSettings :=
  match entriesOf? ["default_width", "default_height", "format", "output_file_name",
      "identifier_suffix", "use_file_names", "exclude", "strict"] v with
  | some entries => entries.foldlM setGenerate {}
  | none => .error (wrongType v .generateSettings)

def setGroup (s : Settings) (entry : String × Value) : Except ShapeError Settings := do
  let (key, v) := entry
  match key with
  | "project" => return { s with project := ← readProject v }
  | "generate" => return { s with generate := ← readGenerate v }
  | _ => return s

def ofTable (entries : Table) : Except ShapeError Settings := entries.foldlM setGroup {}

end IconForge.Settings
