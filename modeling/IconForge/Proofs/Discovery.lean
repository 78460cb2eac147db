import IconForge.Discovery
import IconForge.Proofs.Path.Parent

/-!
# How a listing is divided

Every entry of a directory is either a source or left out, and both keep the order of the listing.
What decides is the name alone: the name of an icon is a stem that is not empty, followed by `.svg`
in any case of its letters. Two notions of an extension meet here, that of a path and that of a
source without it; on names without slashes they are the same.

## Main definitions

- `IsIconName`: the names of icons.
- `LeftOut`: what speaks against an entry.

## Main statements

- `splitAtLastDot?_eq_some_iff`: where a name is cut.
- `isSvgFile_iff`, `stem_eq_of_namesIcon`: the two notions of an extension.
- `skipReason?_eq_none_iff`, `skipReason?_eq_some_iff`: what is left out, and why.
- `discover_divides`: the two sides of a listing.
-/

namespace IconForge

open IconForge.Glob

/-! ## Letters -/

/-- A character is a small letter up to its case if it is that letter or its capital. -/
theorem toLower_eq_iff {l : Char} (lower : l.isLower = true) (c : Char) :
    c.toLower = l ↔ c ∈ [l, l.toUpper] := by
  rw [List.mem_pair]
  constructor
  · rintro rfl
    by_cases upper : c.isUpper = true
    · have same : c.toUpper = c := Char.toUpper_eq_of_not_isLower (Char.not_isLower_of_isUpper upper)
      exact Or.inr (by rw [Char.toUpper_toLower_eq_toUpper, same])
    · exact Or.inl (Char.toLower_eq_of_not_isUpper upper).symm
  · have same : l.toLower = l := Char.toLower_eq_of_not_isUpper (Char.not_isUpper_of_isLower lower)
    rintro (rfl | rfl)
    · exact same
    · rw [Char.toLower_toUpper_eq_toLower, same]

/-! ## Names of icons -/

/-- A name is a stem followed by `.svg`, each letter of which is small or a capital. -/
def NamesIcon (name stem : String) : Prop :=
  ∃ s ∈ ['s', 'S'], ∃ v ∈ ['v', 'V'], ∃ g ∈ ['g', 'G'], name.toList = stem.toList ++ ['.', s, v, g]

/-- A name is that of an icon: there is a stem, and it is not empty. -/
def IsIconName (name : String) : Prop := ∃ stem, stem ≠ "" ∧ NamesIcon name stem

/-- The extension of icons, spelled out. -/
theorem map_toLower_eq_svgExtension_iff (cs : List Char) :
    cs.map Char.toLower = svgExtension ↔
      ∃ s ∈ ['s', 'S'], ∃ v ∈ ['v', 'V'], ∃ g ∈ ['g', 'G'], cs = [s, v, g] := by
  have small (c : Char) := toLower_eq_iff (l := 's') (by decide) c
  have middle (c : Char) := toLower_eq_iff (l := 'v') (by decide) c
  have last (c : Char) := toLower_eq_iff (l := 'g') (by decide) c
  have spelled : svgExtension = ['s', 'v', 'g'] := rfl
  rw [spelled]
  constructor
  · intro eq
    obtain ⟨s, _, rfl, isS, eq⟩ := List.map_eq_cons_iff.mp eq
    obtain ⟨v, _, rfl, isV, eq⟩ := List.map_eq_cons_iff.mp eq
    obtain ⟨g, _, rfl, isG, eq⟩ := List.map_eq_cons_iff.mp eq
    obtain rfl := List.map_eq_nil_iff.mp eq
    exact ⟨s, (small s).mp isS, v, (middle v).mp isV, g, (last g).mp isG, rfl⟩
  · rintro ⟨s, isS, v, isV, g, isG, rfl⟩
    simp only [List.map_cons, List.map_nil, (small s).mpr isS, (middle v).mpr isV, (last g).mpr isG]

namespace Path

/-- A name is cut at the dot after which there is none. -/
theorem splitAtLastDot?_eq_some_iff (name stem extension : String) :
    splitAtLastDot? name = some (stem, extension) ↔
      name.toList = stem.toList ++ '.' :: extension.toList ∧ '.' ∉ extension.toList := by
  let behind := name.toList.reverse.takeWhile fun c => c != '.'
  have noDot : '.' ∉ behind := fun mem => by
    simpa using List.mem_takeWhile_imp mem
  have whole : behind ++ name.toList.reverse.dropWhile (fun c => c != '.') = name.toList.reverse :=
    List.takeWhile_append_dropWhile
  constructor
  · intro cut
    unfold splitAtLastDot? at cut
    cases rest : name.toList.reverse.dropWhile (fun c => c != '.') with
    | nil => simp [rest] at cut
    | cons c before =>
      -- the first character that is not passed over is the dot
      obtain rfl : c = '.' := by
        have := List.head?_dropWhile_not (fun c => c != '.') name.toList.reverse
        simpa [rest] using this
      obtain ⟨rfl, rfl⟩ : String.ofList before.reverse = stem ∧
          String.ofList behind.reverse = extension := by
        simpa [rest] using cut
      refine ⟨?_, by simpa using noDot⟩
      rw [rest] at whole
      simpa using (congrArg List.reverse whole).symm
  · rintro ⟨text, noDotBehind⟩
    -- the characters behind the dot are passed over, and the dot is not
    have backwards : name.toList.reverse =
        extension.toList.reverse ++ '.' :: stem.toList.reverse := by simp [text]
    have passed : ∀ c ∈ extension.toList.reverse, (c != '.') = true := by
      intro c mem
      have : c ≠ '.' := by
        rintro rfl
        exact noDotBehind (List.mem_reverse.mp mem)
      simpa using this
    unfold splitAtLastDot?
    simp only [backwards, List.dropWhile_append_of_pos passed, List.takeWhile_append_of_pos passed]
    simp

/-- A plain name by itself is a file name. -/
theorem fileName?_of_plain {name : String} (plain : PlainName name) :
    fileName? ⟨name⟩ = some name := by
  have components : components ⟨name⟩ = [.name name] := by
    rw [components_eq, plain.lead_eq_nil, componentsOf_name plain]
    rfl
  rw [fileName?, components]
  rfl

/-- A name without slashes is plain, or it is empty, or there are only dots in it. -/
theorem plainName_of_noSlash {name : String} (noSlash : '/' ∉ name.toList) :
    PlainName name ∨ name = "" ∨ name = "." ∨ name = ".." := by
  by_cases empty : name = ""
  · exact Or.inr (Or.inl empty)
  by_cases dot : name = "."
  · exact Or.inr (Or.inr (Or.inl dot))
  by_cases dots : name = ".."
  · exact Or.inr (Or.inr (Or.inr dots))
  · -- what is not one of these texts does not have their characters either
    have differs {text : String} (other : name ≠ text) : name.toList ≠ text.toList :=
      fun same => other (String.toList_inj.mp same)
    exact Or.inl ⟨differs empty, noSlash, differs dot, differs dots⟩

/-- The extension of a plain name is what follows its last dot, if there is something before it. -/
theorem extension?_eq_some_iff {name : String} (plain : PlainName name) (extension : String) :
    extension? ⟨name⟩ = some extension ↔
      ∃ stem, stem ≠ "" ∧ splitAtLastDot? name = some (stem, extension) := by
  rw [extension?, fileName?_of_plain plain, Option.bind_some, Option.bind_eq_some_iff]
  constructor
  · rintro ⟨⟨stem, behind⟩, cut, kept⟩
    dsimp only at kept
    split at kept
    · simp at kept
    · rename_i given
      obtain rfl : behind = extension := by simpa using kept
      exact ⟨stem, by simpa using given, cut⟩
  · rintro ⟨stem, given, cut⟩
    exact ⟨(stem, extension), cut, by simp [given]⟩

end Path

/-- The name of an icon is one that is cut before the extension of icons. -/
theorem namesIcon_iff (name stem : String) :
    NamesIcon name stem ↔ ∃ extension, Path.splitAtLastDot? name = some (stem, extension) ∧
      extension.toList.map Char.toLower = svgExtension := by
  constructor
  · rintro ⟨s, isS, v, isV, g, isG, text⟩
    have noDot : '.' ∉ [s, v, g] := by
      intro dot
      simp only [List.mem_cons, List.not_mem_nil, or_false] at dot
      rcases dot with rfl | rfl | rfl
      · exact absurd isS (by decide)
      · exact absurd isV (by decide)
      · exact absurd isG (by decide)
    refine ⟨String.ofList [s, v, g], (Path.splitAtLastDot?_eq_some_iff ..).mpr ?_, ?_⟩
    · rw [String.toList_ofList]
      exact ⟨text, noDot⟩
    · rw [String.toList_ofList, map_toLower_eq_svgExtension_iff]
      exact ⟨s, isS, v, isV, g, isG, rfl⟩
  · rintro ⟨extension, cut, letters⟩
    obtain ⟨text, -⟩ := (Path.splitAtLastDot?_eq_some_iff ..).mp cut
    obtain ⟨s, isS, v, isV, g, isG, spelled⟩ := (map_toLower_eq_svgExtension_iff _).mp letters
    exact ⟨s, isS, v, isV, g, isG, by rw [text, spelled]⟩

/-- A file name has the extension of icons if it is the name of an icon. -/
theorem isSvgFile_iff {name : String} (noSlash : '/' ∉ name.toList) :
    isSvgFile name = true ↔ IsIconName name := by
  rcases Path.plainName_of_noSlash noSlash with plain | short
  · have hasExtension : isSvgFile name = true ↔
        ∃ extension, Path.extension? ⟨name⟩ = some extension ∧
          extension.toList.map Char.toLower = svgExtension := by
      simp [isSvgFile, Option.any_eq_true]
    rw [hasExtension]
    simp only [Path.extension?_eq_some_iff plain, IsIconName, namesIcon_iff]
    constructor
    · rintro ⟨extension, ⟨stem, given, cut⟩, letters⟩
      exact ⟨stem, given, extension, cut, letters⟩
    · rintro ⟨stem, given, extension, cut, letters⟩
      exact ⟨extension, ⟨stem, given, cut⟩, letters⟩
  · -- the other names have no extension, and are too short for that of an icon
    have noFile : isSvgFile name = false := by
      rcases short with rfl | rfl | rfl <;> decide
    have bound : name.toList.length ≤ 2 := by
      rcases short with rfl | rfl | rfl <;> decide
    refine iff_of_false (by simp [noFile]) ?_
    rintro ⟨stem, -, s, -, v, -, g, -, text⟩
    simp only [text, List.length_append, List.length_cons, List.length_nil] at bound
    omega

/-- The stem of a source with the name of an icon is that of the name. -/
theorem stem_eq_of_namesIcon {source : Source} {stem : String}
    (icon : NamesIcon source.fileName stem) : source.stem = stem := by
  obtain ⟨extension, cut, -⟩ := (namesIcon_iff ..).mp icon
  rw [Source.stem, cut]

/-- A stem is the name without its last four characters. -/
theorem NamesIcon.dropLast {name stem : String} (icon : NamesIcon name stem) :
    stem.toList = name.toList.take (name.length - 4) := by
  obtain ⟨s, -, v, -, g, -, text⟩ := icon
  rw [← String.length_toList, text]
  simp

/-! ## What speaks against an entry -/

/-- Why an entry is left out. What is no icon is left out as such, whether a pattern matches it or
not; an icon, because of the first pattern in the order of the list that matches it. -/
inductive LeftOut (excludes : List Pattern) (name : String) : SkipReason → Prop where
  | notSvg (noIcon : ¬ IsIconName name) : LeftOut excludes name .notSvg
  | excluded {before after : List Pattern} {p : Pattern} (icon : IsIconName name)
      (listed : excludes = before ++ p :: after) (matched : p.matches name = true)
      (unmatched : ∀ q ∈ before, q.matches name = false) :
      LeftOut excludes name (.excluded p.text)

variable {excludes : List Pattern} {name : String}

/-- Nothing speaks against an icon that no pattern matches. -/
theorem skipReason?_eq_none_iff (noSlash : '/' ∉ name.toList) :
    skipReason? excludes name = none ↔
      IsIconName name ∧ ∀ p ∈ excludes, p.matches name = false := by
  rw [← isSvgFile_iff noSlash, skipReason?]
  split
  · rename_i icon
    simp [icon]
  · rename_i noIcon
    simp [noIcon]

theorem skipReason?_eq_some_iff (noSlash : '/' ∉ name.toList) (reason : SkipReason) :
    skipReason? excludes name = some reason ↔ LeftOut excludes name reason := by
  constructor
  · intro because
    unfold skipReason? at because
    split at because
    · rename_i icon
      obtain ⟨p, found, rfl⟩ := Option.map_eq_some_iff.mp because
      -- what is found is the first of its kind
      obtain ⟨matched, before, after, listed, unmatched⟩ := List.find?_eq_some_iff_append.mp found
      exact .excluded ((isSvgFile_iff noSlash).mp icon) listed matched
        fun q mem => by simpa using unmatched q mem
    · rename_i noIcon
      obtain rfl := Option.some.inj because
      exact .notSvg (mt (isSvgFile_iff noSlash).mpr noIcon)
  · intro out
    cases out with
    | notSvg noIcon => rw [skipReason?, if_neg (mt (isSvgFile_iff noSlash).mp noIcon)]
    | @excluded before after p icon listed matched unmatched =>
      have found : excludes.find? (fun p => p.matches name) = some p :=
        List.find?_eq_some_iff_append.mpr
          ⟨matched, before, after, listed, fun q mem => by simp [unmatched q mem]⟩
      rw [skipReason?, if_pos ((isSvgFile_iff noSlash).mpr icon), found]
      rfl

/-! ## The two sides of a listing -/

/-- What `discover` keeps and what it leaves out are the two halves of the listing. -/
theorem map_fileName_discover (dir : Path) (names : List String) (excludes : List Pattern) :
    (discover dir names excludes).skipped.map Skipped.fileName =
        names.filter (fun name => (skipReason? excludes name).isSome) ∧
      (discover dir names excludes).sources.map Source.fileName =
        names.filter (fun name => (skipReason? excludes name).isNone) := by
  constructor
  · rw [discover, List.map_filterMap, ← List.filterMap_eq_filter]
    apply List.filterMap_congr
    intro name _
    cases because : skipReason? excludes name <;> simp [Option.guard, because]
  · simp [discover, Function.comp_def]

/-- A source is kept, and its path is that of its name in the directory. -/
theorem mem_sources {dir : Path} {names : List String} {excludes : List Pattern}
    {source : Source} (mem : source ∈ (discover dir names excludes).sources) :
    skipReason? excludes source.fileName = none ∧ source.path = dir.join ⟨source.fileName⟩ := by
  simp only [discover, List.mem_map, List.mem_filter, Option.isNone_iff_eq_none] at mem
  obtain ⟨name, ⟨-, kept⟩, rfl⟩ := mem
  exact ⟨kept, rfl⟩

/-- An entry left out has the reason that speaks against its name. -/
theorem mem_skipped {dir : Path} {names : List String} {excludes : List Pattern}
    {entry : Skipped} (mem : entry ∈ (discover dir names excludes).skipped) :
    skipReason? excludes entry.fileName = some entry.reason := by
  simp only [discover, List.mem_filterMap, Option.map_eq_some_iff] at mem
  obtain ⟨name, -, reason, because, rfl⟩ := mem
  exact because

/-- How a listing is to be divided. -/
structure Divides (dir : Path) (names : List String) (excludes : List Pattern) (d : Discovery) :
    Prop where
  /-- Both sides keep the order of the listing. -/
  sourcesInOrder : (d.sources.map Source.fileName).Sublist names
  skippedInOrder : (d.skipped.map Skipped.fileName).Sublist names
  /-- Every entry is on one side, once for each time that it is listed. -/
  whole : (d.sources.map Source.fileName ++ d.skipped.map Skipped.fileName).Perm names
  /-- The sources are the icons that no pattern matches. -/
  isSource : ∀ name ∈ names, name ∈ d.sources.map Source.fileName ↔
    IsIconName name ∧ ∀ p ∈ excludes, p.matches name = false
  /-- The others are left out for what speaks against them. -/
  isSkipped : ∀ name ∈ names, ∀ reason, ⟨name, reason⟩ ∈ d.skipped ↔ LeftOut excludes name reason
  /-- The name of a source is its stem and the extension of icons. -/
  stems : ∀ source ∈ d.sources, isSvgFile source.fileName = true ∧ source.stem ≠ "" ∧
    NamesIcon source.fileName source.stem ∧
    source.stem.toList = source.fileName.toList.take (source.fileName.length - 4)
  paths : ∀ source ∈ d.sources, source.path = dir.join ⟨source.fileName⟩

/-- A directory is divided into its icons and what is left out, each entry for what its name is. -/
theorem discover_divides (dir : Path) (names : List String) (excludes : List Pattern)
    (noSlash : ∀ name ∈ names, '/' ∉ name.toList) :
    Divides dir names excludes (discover dir names excludes) := by
  obtain ⟨skipped, sources⟩ := map_fileName_discover dir names excludes
  have listed : ∀ source ∈ (discover dir names excludes).sources, source.fileName ∈ names := by
    intro source mem
    have mem := List.mem_map_of_mem (f := Source.fileName) mem
    rw [sources] at mem
    exact List.mem_of_mem_filter mem
  constructor
  case sourcesInOrder =>
    rw [sources]
    exact List.filter_sublist
  case skippedInOrder =>
    rw [skipped]
    exact List.filter_sublist
  case whole =>
    rw [sources, skipped]
    -- what has a reason is what is not without one
    have other : (fun name => (skipReason? excludes name).isSome) =
        fun name => !(skipReason? excludes name).isNone := by
      funext name
      simp
    rw [other]
    exact List.filter_append_perm _ names
  case isSource =>
    intro name isListed
    rw [sources, ← skipReason?_eq_none_iff (noSlash name isListed)]
    simp [isListed]
  case isSkipped =>
    intro name isListed reason
    rw [← skipReason?_eq_some_iff (noSlash name isListed)]
    constructor
    · exact mem_skipped
    · intro because
      exact List.mem_filterMap.mpr ⟨name, isListed, by rw [because]; rfl⟩
  case stems =>
    intro source mem
    have here := noSlash _ (listed source mem)
    obtain ⟨icon, -⟩ := (skipReason?_eq_none_iff here).mp (mem_sources mem).1
    obtain ⟨stem, given, named⟩ := icon
    obtain rfl := stem_eq_of_namesIcon named
    exact ⟨(isSvgFile_iff here).mpr ⟨_, given, named⟩, given, named, named.dropLast⟩
  case paths =>
    intro source mem
    exact (mem_sources mem).2

/-- A name with a dot for a stem, one that is all extension, an icon in capitals and an entry that is
no icon. Two patterns match the last two names. -/
theorem discover_divides_mixed_listing :
    let names := ["..svg", ".svg", "old.SVG", "old.md", "a.b.Svg"]
    let excludes : List Pattern :=
      [⟨"o*", [.char 'o', .anySequence]⟩, ⟨"?ld*", [.anyChar, .char 'l', .char 'd', .anySequence]⟩]
    let d := discover ⟨"in"⟩ names excludes
    (∀ name ∈ names, '/' ∉ name.toList) ∧ Divides ⟨"in"⟩ names excludes d ∧
      d = ⟨[⟨"..svg", ⟨"in/..svg"⟩⟩, ⟨"a.b.Svg", ⟨"in/a.b.Svg"⟩⟩],
        [⟨".svg", .notSvg⟩, ⟨"old.SVG", .excluded "o*"⟩, ⟨"old.md", .notSvg⟩]⟩ := by
  intro names excludes d
  have noSlash : ∀ name ∈ names, '/' ∉ name.toList := by decide
  exact ⟨noSlash, discover_divides ⟨"in"⟩ names excludes noSlash, by decide +kernel⟩

end IconForge
