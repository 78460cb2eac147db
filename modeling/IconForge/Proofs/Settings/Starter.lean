import IconForge.Proofs.Generation.Isolation
import IconForge.Proofs.Path
import IconForge.Settings.File

/-!
# The starter settings

A new settings file writes the defaults, and it is no icon: neither has it the name of one, nor can
one be made of its text.

## Main statements

- `parse_starter`: the settings that it writes.
- `holdsNone_starter`: that it holds no icon.
-/

namespace IconForge.Settings

theorem plainName_fileName : Path.PlainName fileName := ⟨by decide, by decide, by decide, by decide⟩

theorem isSvgFile_fileName : isSvgFile fileName = false := by decide

/-- The characters of the starter settings, line by line: they are computed far more easily than
those of the whole text. -/
theorem toList_starter : starter.toList =
    "# svgicons configuration\n\n".toList ++
    "[project]\n".toList ++
    "# Directory containing the .svg sources\n".toList ++
    "src = \"icons\"\n".toList ++
    "# Directory receiving the generated module\n".toList ++
    "out = \"src/components\"\n\n".toList ++
    "[generate]\n".toList ++
    "default_width = \"24px\"\n".toList ++
    "default_height = \"24px\"\n".toList ++
    "# \"jsx\" or \"tsx\"\n".toList ++
    "format = \"jsx\"\n".toList ++
    "# output_file_name = \"icons.jsx\"\n".toList ++
    "identifier_suffix = \"\"\n".toList ++
    "use_file_names = false\n".toList ++
    "exclude = []\n".toList ++
    "strict = false\n".toList := by
  unfold starter
  repeat rw [String.toList_append]

/-- A document is parsed from the characters of its text. -/
theorem toml_parse_eq (text : String) :
    Toml.parse text =
      let cs := match text.toList with
        | '\uFEFF' :: cs => cs
        | cs => cs
      (Toml.statements cs).bind fun all =>
        (Toml.takeEntries [] all).bind fun (entries, more) =>
          (Toml.placeAll entries more).map Toml.Place.toTable := by
  unfold Toml.parse
  simp only [Option.bind_eq_bind, Option.pure_def, Option.map_eq_bind]
  rfl

/-- The starter settings are the defaults. -/
theorem parse_starter : parse starter = .ok {} := by
  rw [parse, toml_parse_eq, toList_starter]
  decide +kernel

/-- The starter settings are a text without a root element. -/
theorem holdsNone_starter : HoldsNone (.ok starter) := by
  have read : Markup.Document.read starter = .error (.malformed .rootMissing) := by
    rw [Markup.Document.read, toList_starter]
    decide +kernel
  exact ⟨.malformed .rootMissing, by rw [readIcon, read]⟩

end IconForge.Settings
