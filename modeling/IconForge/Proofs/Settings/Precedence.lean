import IconForge.Proofs.Answers
import IconForge.Settings.Decode
import IconForge.Settings.Overrides
import IconForge.Settings.Workspace

/-!
# Which setting counts

A setting is what the command line says; if that says nothing, what the settings file says; and if
that says nothing either, the default. Only exclude patterns add up. So a settings file is nothing
but a first layer of overrides, over the defaults: `Holds` is the relation of a table to the layer
that it holds, and `ofTable_eq` says that reading the table puts that layer over the defaults. Two
layers are one, by `override_override`, so that each setting can be read off.

## Main statements

- `override_override`: one layer after another.
- `foldlM_field`: what reading a table entry by entry does to a single setting.
- `ofTable_eq`: reading a table.
- `settings_precedence`: the settings of a run.
-/

namespace IconForge

open IconForge.Toml

/-! ## Layers -/

/-- Overrides and then further ones, which win. -/
def Overrides.andThen (a b : Overrides) : Overrides where
  src := b.src.or a.src
  out := b.out.or a.out
  width := b.width.or a.width
  height := b.height.or a.height
  suffix := b.suffix.or a.suffix
  format := b.format.or a.format
  outputFileName := b.outputFileName.or a.outputFileName
  useFileNames := b.useFileNames.or a.useFileNames
  exclude := a.exclude ++ b.exclude
  strict := b.strict.or a.strict

namespace Settings

theorem getD_getD {α : Type} (a b : Option α) (d : α) : a.getD (b.getD d) = (a.or b).getD d := by
  cases a <;> rfl

/-- One layer after another is the layer of both. -/
theorem override_override (s : Settings) (a b : Overrides) :
    (s.override a).override b = s.override (a.andThen b) := by
  simp only [override, Overrides.andThen, getD_getD, Option.or_assoc, List.append_assoc]

/-! ## What a table holds -/

/-- How a format is written: its name, or a table in which its name stands for nothing. -/
def WritesFormat (v : Value) (format : OutputFormat) : Prop :=
  v = .string format.extension ∨
    ∃ inner, v = .table [(format.extension, inner)] ∧ (inner = .table [] ∨ inner = .array [])

/-- The settings of a project that some entries hold, with values of the right type, among any
others and in any order. -/
structure HoldsProject (entries : Table) (o : Overrides) : Prop where
  keys : (entries.map Prod.fst).Nodup
  src : Option.Rel (fun v path => v = .string path.text) (entries.lookup "src") o.src
  out : Option.Rel (fun v path => v = .string path.text) (entries.lookup "out") o.out

/-- The settings of a module that some entries hold. -/
structure HoldsGenerate (entries : Table) (o : Overrides) : Prop where
  keys : (entries.map Prod.fst).Nodup
  width : Option.Rel (fun v text => v = .string text) (entries.lookup "default_width") o.width
  height : Option.Rel (fun v text => v = .string text) (entries.lookup "default_height") o.height
  suffix : Option.Rel (fun v text => v = .string text) (entries.lookup "identifier_suffix") o.suffix
  format : Option.Rel WritesFormat (entries.lookup "format") o.format
  outputFileName :
    Option.Rel (fun v text => v = .string text) (entries.lookup "output_file_name") o.outputFileName
  useFileNames :
    Option.Rel (fun v b => v = .boolean b) (entries.lookup "use_file_names") o.useFileNames
  exclude : ∃ patterns : Option (List String),
    Option.Rel (fun v texts => v = .array (texts.map .string)) (entries.lookup "exclude") patterns ∧
      o.exclude = patterns.getD []
  strict : Option.Rel (fun v b => v = .boolean b) (entries.lookup "strict") o.strict

/-- The entries of a group in a table. A group that is not there has none. -/
def IsGroup (table : Table) (name : String) (entries : Table) : Prop :=
  table.lookup name = some (.table entries) ∨ table.lookup name = none ∧ entries = []

/-- A table holds these settings in its two groups, and maybe anything else besides. -/
structure Holds (table : Table) (o : Overrides) : Prop where
  keys : (table.map Prod.fst).Nodup
  project : ∃ entries, IsGroup table "project" entries ∧ HoldsProject entries o
  generate : ∃ entries, IsGroup table "generate" entries ∧ HoldsGenerate entries o

/-! ## Reading entry by entry -/

/-- Reading the entry of `k` and `v` sets a field, if `k` is the key of that field, and else keeps
it. -/
def Sets {σ α : Type} (key : String) (read : Value → Except ShapeError α) (field : σ → α)
    (k : String) (v : Value) (s s' : σ) : Prop :=
  if k = key then read v = .ok (field s') else field s' = field s

theorem Sets.keeps {σ α : Type} {key : String} {read : Value → Except ShapeError α} {field : σ → α}
    {k : String} {v : Value} {s : σ} (other : k ≠ key) : Sets key read field k v s s := by
  rw [Sets, if_neg other]

/-- Where each entry is read into one field, which is that of its key, and keys do not come twice, a
field holds in the end what stands under its key, or else what it held before. -/
theorem foldlM_field {σ α : Type} {step : σ → String × Value → Except ShapeError σ}
    {field : σ → α} {key : String} {read : Value → Except ShapeError α}
    (sets : ∀ s k v s', step s (k, v) = .ok s' → Sets key read field k v s s')
    {entries : Table} (keys : (entries.map Prod.fst).Nodup) {given : Option α}
    (holds : Option.Rel (fun v x => read v = .ok x) (entries.lookup key) given) {s s' : σ}
    (done : entries.foldlM step s = .ok s') : field s' = given.getD (field s) := by
  induction entries generalizing s given with
  | nil =>
    obtain rfl : s = s' := by simpa [pure, Except.pure] using done
    cases holds
    rfl
  | cons entry entries ih =>
    obtain ⟨k, v⟩ := entry
    obtain ⟨noSecond, keys⟩ := List.nodup_cons.mp keys
    rw [List.foldlM_cons] at done
    obtain ⟨middle, first, later⟩ := bind_eq_ok.mp done
    have isSet := sets s k v middle first
    unfold Sets at isSet
    by_cases here : k = key
    · subst here
      rw [if_pos rfl] at isSet
      rw [List.lookup_cons_self] at holds
      obtain ⟨isRead⟩ := holds
      obtain rfl := Except.ok.inj (isSet.symm.trans isRead)
      -- the key does not come again
      have noLater : entries.lookup k = none := by
        rw [List.lookup_eq_none_iff]
        intro entry isLater
        have other : k ≠ entry.1 := fun eq => noSecond (List.mem_map.mpr ⟨entry, isLater, eq.symm⟩)
        exact bne_iff_ne.mpr other
      have reads : Option.Rel (fun v x => read v = .ok x) (entries.lookup k) none := by
        rw [noLater]
        exact .none
      exact ih keys reads later
    · rw [if_neg here] at isSet
      rw [List.lookup_cons, beq_eq_false_iff_ne.mpr (Ne.symm here)] at holds
      rw [← isSet]
      exact ih keys holds later

/-- Where each entry can be read, all of them can. -/
theorem foldlM_isOk {σ : Type} {step : σ → String × Value → Except ShapeError σ}
    {entries : Table} (reads : ∀ s, ∀ entry ∈ entries, ∃ s', step s entry = .ok s') (s : σ) :
    ∃ s', entries.foldlM step s = .ok s' := by
  induction entries generalizing s with
  | nil => exact ⟨s, rfl⟩
  | cons entry entries ih =>
    obtain ⟨middle, first⟩ := reads s entry List.mem_cons_self
    obtain ⟨s', later⟩ := ih (fun s entry isIn => reads s entry (List.mem_cons_of_mem _ isIn)) middle
    refine ⟨s', ?_⟩
    rw [List.foldlM_cons]
    exact bind_eq_ok.mpr ⟨middle, first, later⟩

/-- What holds of the values that are written holds of those that are read. -/
theorem reads_of_writes {α β : Type} {writes : Value → α → Prop}
    {read : Value → Except ShapeError β} (value : α → β)
    (reads : ∀ v x, writes v x → read v = .ok (value x)) {v : Option Value} {given : Option α}
    (holds : Option.Rel writes v given) :
    Option.Rel (fun v x => read v = .ok x) v (given.map value) := by
  cases holds with
  | none => exact .none
  | some writes => exact .some (reads _ _ writes)

/-- An entry with a known key has a value of the right type. -/
theorem exists_of_mem {α : Type} {entries : Table} (keys : (entries.map Prod.fst).Nodup)
    {key : String} {v : Value} (isIn : (key, v) ∈ entries) {writes : Value → α → Prop}
    {given : Option α} (holds : Option.Rel writes (entries.lookup key) given) : ∃ x, writes v x := by
  have found : entries.lookup key = some v := by
    obtain ⟨before, after, rfl⟩ := List.append_of_mem isIn
    refine List.lookup_eq_some_iff.mpr ⟨before, after, rfl, ?_⟩
    intro entry isBefore
    rw [List.map_append, List.map_cons] at keys
    have other := (List.nodup_append.mp keys).2.2 _ (List.mem_map_of_mem isBefore) key (by simp)
    exact bne_iff_ne.mpr other.symm
  rw [found] at holds
  cases holds with
  | some writes => exact ⟨_, writes⟩

/-! ## Reading a group -/

theorem readStrings_array (texts : List String) :
    readStrings (.array (texts.map .string)) = .ok texts := by
  have each : (texts.map Value.string).mapM readString = .ok texts := by
    induction texts with
    | nil => rfl
    | cons text texts ih =>
      rw [List.map_cons, List.mapM_cons, ih]
      rfl
  exact each

theorem readFormat_of_writes {v : Value} {format : OutputFormat} (h : WritesFormat v format) :
    readFormat v = .ok format := by
  have named : formatNamed format.extension = .ok format := by cases format <;> rfl
  rcases h with rfl | ⟨inner, rfl, rfl | rfl⟩
  · exact named
  · simp [readFormat, named, checkEmpty, bind, Except.bind, pure, Except.pure]
  · simp [readFormat, named, checkEmpty, bind, Except.bind, pure, Except.pure]

/-- What an entry sets among the settings of a project. -/
theorem setProject_ok {p p' : ProjectSettings} {key : String} {v : Value}
    (h : setProject p (key, v) = .ok p') :
    Sets "src" readPath ProjectSettings.src key v p p' ∧
      Sets "out" readPath ProjectSettings.out key v p p' := by
  unfold setProject at h
  dsimp only at h
  split at h
  · obtain ⟨path, isRead, eq⟩ := bind_eq_ok.mp h
    obtain rfl := Except.ok.inj eq
    exact ⟨isRead, .keeps (by decide)⟩
  · obtain ⟨path, isRead, eq⟩ := bind_eq_ok.mp h
    obtain rfl := Except.ok.inj eq
    exact ⟨.keeps (by decide), isRead⟩
  · rename_i noSrc noOut
    obtain rfl := Except.ok.inj h
    exact ⟨.keeps noSrc, .keeps noOut⟩

/-- What an entry sets among the settings of a module. -/
structure SetsGenerate (k : String) (v : Value) (g g' : GenerateSettings) : Prop where
  width : Sets "default_width" readString GenerateSettings.defaultWidth k v g g'
  height : Sets "default_height" readString GenerateSettings.defaultHeight k v g g'
  format : Sets "format" readFormat GenerateSettings.format k v g g'
  outputFileName : Sets "output_file_name" (fun v => (readString v).map some)
    GenerateSettings.outputFileName k v g g'
  suffix : Sets "identifier_suffix" readString GenerateSettings.identifierSuffix k v g g'
  useFileNames : Sets "use_file_names" readBoolean GenerateSettings.useFileNames k v g g'
  exclude : Sets "exclude" readStrings GenerateSettings.exclude k v g g'
  strict : Sets "strict" readBoolean GenerateSettings.strict k v g g'

theorem setGenerate_ok {g g' : GenerateSettings} {k : String} {v : Value}
    (h : setGenerate g (k, v) = .ok g') : SetsGenerate k v g g' := by
  unfold setGenerate at h
  dsimp only at h
  split at h
  case h_9 no₁ no₂ no₃ no₄ no₅ no₆ no₇ no₈ =>
    -- the key is not known
    obtain rfl := Except.ok.inj h
    exact ⟨.keeps no₁, .keeps no₂, .keeps no₃, .keeps no₄, .keeps no₅, .keeps no₆, .keeps no₇,
      .keeps no₈⟩
  -- the value under a known key is read, and that is all
  all_goals
    obtain ⟨x, isRead, eq⟩ := bind_eq_ok.mp h
    obtain rfl := Except.ok.inj eq
    constructor <;> simp [Sets, isRead, Except.map]

theorem exists_setProject {entries : Table} {o : Overrides} (holds : HoldsProject entries o)
    (p : ProjectSettings) : ∀ entry ∈ entries, ∃ p', setProject p entry = .ok p' := by
  rintro ⟨key, v⟩ isIn
  unfold setProject
  dsimp only
  split
  · obtain ⟨path, rfl⟩ := exists_of_mem holds.keys isIn holds.src
    exact ⟨_, rfl⟩
  · obtain ⟨path, rfl⟩ := exists_of_mem holds.keys isIn holds.out
    exact ⟨_, rfl⟩
  · exact ⟨p, rfl⟩

theorem exists_setGenerate {entries : Table} {o : Overrides} (holds : HoldsGenerate entries o)
    (g : GenerateSettings) : ∀ entry ∈ entries, ∃ g', setGenerate g entry = .ok g' := by
  rintro ⟨key, v⟩ isIn
  unfold setGenerate
  dsimp only
  split
  · obtain ⟨text, rfl⟩ := exists_of_mem holds.keys isIn holds.width
    exact ⟨_, rfl⟩
  · obtain ⟨text, rfl⟩ := exists_of_mem holds.keys isIn holds.height
    exact ⟨_, rfl⟩
  · obtain ⟨format, writes⟩ := exists_of_mem holds.keys isIn holds.format
    rw [readFormat_of_writes writes]
    exact ⟨_, rfl⟩
  · obtain ⟨text, rfl⟩ := exists_of_mem holds.keys isIn holds.outputFileName
    exact ⟨_, rfl⟩
  · obtain ⟨text, rfl⟩ := exists_of_mem holds.keys isIn holds.suffix
    exact ⟨_, rfl⟩
  · obtain ⟨b, rfl⟩ := exists_of_mem holds.keys isIn holds.useFileNames
    exact ⟨_, rfl⟩
  · obtain ⟨patterns, given, -⟩ := holds.exclude
    obtain ⟨texts, rfl⟩ := exists_of_mem holds.keys isIn given
    rw [readStrings_array]
    exact ⟨_, rfl⟩
  · obtain ⟨b, rfl⟩ := exists_of_mem holds.keys isIn holds.strict
    exact ⟨_, rfl⟩
  · exact ⟨g, rfl⟩

/-- Reading the settings of a project puts what a group holds over the defaults. -/
theorem readProject_eq {entries : Table} {o : Overrides} (holds : HoldsProject entries o) :
    readProject (.table entries) = .ok (override {} o).project := by
  obtain ⟨p, done⟩ := foldlM_isOk (fun p => exists_setProject holds p) {}
  have src := foldlM_field (fun _ _ _ _ step => (setProject_ok step).1) holds.keys
    (reads_of_writes id (fun _ _ written => written ▸ rfl) holds.src) done
  have out := foldlM_field (fun _ _ _ _ step => (setProject_ok step).2) holds.keys
    (reads_of_writes id (fun _ _ written => written ▸ rfl) holds.out) done
  have read : readProject (.table entries) = .ok p := done
  obtain ⟨src', out'⟩ := p
  simp only [Option.map_id_fun, id] at src out
  rw [read, src, out]
  rfl

/-- Reading the settings of a module does so too. -/
theorem readGenerate_eq {entries : Table} {o : Overrides} (holds : HoldsGenerate entries o) :
    readGenerate (.table entries) = .ok (override {} o).generate := by
  obtain ⟨g, done⟩ := foldlM_isOk (fun g => exists_setGenerate holds g) {}
  have width := foldlM_field (fun _ _ _ _ step => (setGenerate_ok step).width) holds.keys
    (reads_of_writes id (fun _ _ written => written ▸ rfl) holds.width) done
  have height := foldlM_field (fun _ _ _ _ step => (setGenerate_ok step).height) holds.keys
    (reads_of_writes id (fun _ _ written => written ▸ rfl) holds.height) done
  have format := foldlM_field (fun _ _ _ _ step => (setGenerate_ok step).format) holds.keys
    (reads_of_writes id (fun _ _ written => readFormat_of_writes written) holds.format) done
  have name := foldlM_field (fun _ _ _ _ step => (setGenerate_ok step).outputFileName) holds.keys
    (reads_of_writes some (fun _ _ written => written ▸ rfl) holds.outputFileName) done
  have suffix := foldlM_field (fun _ _ _ _ step => (setGenerate_ok step).suffix) holds.keys
    (reads_of_writes id (fun _ _ written => written ▸ rfl) holds.suffix) done
  have fileNames := foldlM_field (fun _ _ _ _ step => (setGenerate_ok step).useFileNames)
    holds.keys (reads_of_writes id (fun _ _ written => written ▸ rfl) holds.useFileNames) done
  obtain ⟨patterns, written, excluded⟩ := holds.exclude
  have exclude := foldlM_field (fun _ _ _ _ step => (setGenerate_ok step).exclude) holds.keys
    (reads_of_writes id (fun _ texts written => written ▸ readStrings_array texts) written) done
  have strict := foldlM_field (fun _ _ _ _ step => (setGenerate_ok step).strict) holds.keys
    (reads_of_writes id (fun _ _ written => written ▸ rfl) holds.strict) done
  have read : readGenerate (.table entries) = .ok g := done
  obtain ⟨width', height', format', name', suffix', fileNames', exclude', strict'⟩ := g
  simp only [Option.map_id_fun, id] at width height format name suffix fileNames exclude strict
  rw [read, width, height, format, name, suffix, fileNames, exclude, strict]
  have noName : (o.outputFileName.map some).getD none = o.outputFileName.or none := by
    cases o.outputFileName <;> rfl
  simp only [override, noName, excluded, List.nil_append]

/-! ## Reading a table -/

theorem setGroup_ok {s s' : Settings} {k : String} {v : Value}
    (h : setGroup s (k, v) = .ok s') :
    Sets "project" readProject Settings.project k v s s' ∧
      Sets "generate" readGenerate Settings.generate k v s s' := by
  unfold setGroup at h
  dsimp only at h
  split at h
  · obtain ⟨project, isRead, eq⟩ := bind_eq_ok.mp h
    obtain rfl := Except.ok.inj eq
    exact ⟨isRead, .keeps (by decide)⟩
  · obtain ⟨generate, isRead, eq⟩ := bind_eq_ok.mp h
    obtain rfl := Except.ok.inj eq
    exact ⟨.keeps (by decide), isRead⟩
  · rename_i noProject noGenerate
    obtain rfl := Except.ok.inj h
    exact ⟨.keeps noProject, .keeps noGenerate⟩

/-- A group that is read as `x` counts as `x`, also where it is not there: then it has no entries,
and counts as the default. -/
theorem exists_group {α : Type} {read : Value → Except ShapeError α} {table entries : Table}
    {name : String} {default x : α} (isGroup : IsGroup table name entries)
    (isRead : read (.table entries) = .ok x) (empty : read (.table []) = .ok default) :
    ∃ given, Option.Rel (fun v x => read v = .ok x) (table.lookup name) given ∧
      given.getD default = x := by
  rcases isGroup with found | ⟨isMissing, rfl⟩
  · rw [found]
    exact ⟨some x, .some isRead, rfl⟩
  · rw [isMissing]
    exact ⟨none, .none, Except.ok.inj (empty.symm.trans isRead)⟩

/-- Reading a table puts what it holds over the defaults. -/
theorem ofTable_eq {table : Table} {o : Overrides} (holds : Holds table o) :
    ofTable table = .ok (override {} o) := by
  obtain ⟨projectEntries, isProject, holdsProject⟩ := holds.project
  obtain ⟨generateEntries, isGenerate, holdsGenerate⟩ := holds.generate
  have noProject : readProject (.table []) = .ok {} := rfl
  have noGenerate : readGenerate (.table []) = .ok {} := rfl
  obtain ⟨project, relProject, eqProject⟩ :=
    exists_group isProject (readProject_eq holdsProject) noProject
  obtain ⟨generate, relGenerate, eqGenerate⟩ :=
    exists_group isGenerate (readGenerate_eq holdsGenerate) noGenerate
  have reads (s : Settings) : ∀ entry ∈ table, ∃ s', setGroup s entry = .ok s' := by
    rintro ⟨k, v⟩ isIn
    unfold setGroup
    dsimp only
    split
    · obtain ⟨project, isRead⟩ := exists_of_mem holds.keys isIn relProject
      rw [isRead]
      exact ⟨_, rfl⟩
    · obtain ⟨generate, isRead⟩ := exists_of_mem holds.keys isIn relGenerate
      rw [isRead]
      exact ⟨_, rfl⟩
    · exact ⟨s, rfl⟩
  obtain ⟨s, done⟩ := foldlM_isOk reads {}
  have isProject := foldlM_field (fun _ _ _ _ step => (setGroup_ok step).1) holds.keys relProject
    done
  have isGenerate := foldlM_field (fun _ _ _ _ step => (setGroup_ok step).2) holds.keys relGenerate
    done
  have read : ofTable table = .ok s := done
  obtain ⟨project', generate'⟩ := s
  simp only at isProject isGenerate
  rw [read, isProject, isGenerate, eqProject, eqGenerate]

/-! ## The settings of a run -/

/-- Each setting of a run is what the command line says, or else what the file says, or else the
default: the directories, the sizes, the suffix, the format, whether icons are named after their
files, and whether failures count. The exclude patterns are those of the file and then those of the
command line. The name of the module is what the command line says, or else what the file says, or
else that of the format which counts. And overriding settings twice is overriding them once. -/
theorem settings_precedence {table : Table} {file : Overrides} (holds : Holds table file)
    (cli : Overrides) (root : Path) :
    (∃ s, ofTable table = .ok s ∧
      let w := Workspace.ofSettings (s.override cli) root
      let format := (cli.format.or file.format).getD .jsx
      w.srcDirectory = root.join ((cli.src.or file.src).getD ⟨"icons"⟩) ∧
      w.outDirectory = root.join ((cli.out.or file.out).getD ⟨"src/components"⟩) ∧
      w.options.sizes.width = (cli.width.or file.width).getD "24px" ∧
      w.options.sizes.height = (cli.height.or file.height).getD "24px" ∧
      w.options.naming.suffix = (cli.suffix.or file.suffix).getD "" ∧
      w.options.naming.useFileNames = (cli.useFileNames.or file.useFileNames).getD false ∧
      w.options.format = format ∧
      w.strict = (cli.strict.or file.strict).getD false ∧
      w.options.exclude = file.exclude ++ cli.exclude ∧
      w.options.outputFileName =
        (cli.outputFileName.or file.outputFileName).getD ("icons." ++ format.extension) ∧
      w.outputPath = w.outDirectory.join ⟨w.options.outputFileName⟩) ∧
    ∀ (s : Settings) (a b : Overrides), (s.override a).override b = s.override (a.andThen b) := by
  refine ⟨⟨_, ofTable_eq holds, ?_⟩, override_override⟩
  -- the layers of the file and of the command line are one layer over the defaults
  rw [override_override]
  refine ⟨rfl, rfl, rfl, rfl, rfl, rfl, rfl, rfl, List.nil_append _, ?_, rfl⟩
  change ((cli.outputFileName.or file.outputFileName).or none).getD _ = _
  rw [Option.or_none]
  rfl

/-- A file without project settings, with some others in no order and with keys that are not known,
and a command line that does not leave it the format. -/
theorem settings_precedence_over_file :
    let table : Table := [
      ("owner", .integer 1),
      ("generate", .table [
        ("strict", .boolean true), ("exclude", .array [.string "a*"]), ("colour", .boolean false),
        ("format", .table [("tsx", .array [])])])]
    let file : Overrides := { format := some .tsx, exclude := ["a*"], strict := some true }
    let cli : Overrides := { format := some .jsx, exclude := ["b"], src := some ⟨"/in"⟩ }
    Holds table file ∧ ∃ s, ofTable table = .ok s ∧
      let w := Workspace.ofSettings (s.override cli) ⟨"/work"⟩
      w.srcDirectory = (Path.mk "/work").join ⟨"/in"⟩ ∧ w.options.format = .jsx ∧
        w.strict = true ∧ w.options.exclude = ["a*", "b"] ∧
        w.options.outputFileName = "icons.jsx" := by
  intro table file cli
  have holds : Holds table file := by
    refine ⟨by decide, ⟨[], Or.inr ⟨rfl, rfl⟩, by decide, .none, .none⟩,
      ⟨_, Or.inl rfl, by decide, .none, .none, .none, ?_, .none, .none, ⟨some ["a*"], ?_, rfl⟩, ?_⟩⟩
    · exact .some (Or.inr ⟨_, rfl, Or.inr rfl⟩)
    · exact .some rfl
    · exact .some rfl
  obtain ⟨⟨s, read, src, -, -, -, -, -, format, strict, exclude, name, -⟩, -⟩ :=
    settings_precedence holds cli ⟨"/work"⟩
  exact ⟨holds, s, read, src, format, strict, exclude, name⟩

end Settings

end IconForge
