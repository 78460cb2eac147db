import IconForge.Proofs.CommandLine.Generate
import IconForge.Proofs.Path.Parent
import IconForge.Proofs.Settings.Starter
import IconForge.Proofs.Store.Disk.Inside

/-!
# The directories of a call

A path in settings is seen from the directory around the settings file, and a path among the
arguments is seen from the working directory. A call joins paths in more than one place: arguments
with the working directory, then, as settings, with the directory of the settings. This says that a
path is seen from one of the two in the end, the right one, and that an absolute path is seen from
none.

A directory is told by its components; that of a settings file may be written in other ways.

## Main statements

- `workspace_eq_ok_iff`: the workspace of a call.
- `Base.same`: the directory that configured paths are seen from, for each place of a settings file.
- `directories_have_their_base`: both directories of a call.
-/

namespace IconForge

/-- A file is in a directory, however the two are written. -/
def Path.IsIn (file dir : Path) : Prop := ∃ name, file.components = dir.components ++ [.name name]

/-- A file is in one directory. -/
theorem Path.IsIn.same {file dir dir' : Path} (h : file.IsIn dir) (h' : file.IsIn dir') :
    dir.Same dir' := by
  obtain ⟨name, components⟩ := h
  obtain ⟨name', components'⟩ := h'
  exact (List.append_inj' (components.symm.trans components') rfl).1

namespace Settings

theorem isIn_fileIn (dir : Path) : (fileIn dir).IsIn dir :=
  ⟨fileName, Path.components_join_name dir plainName_fileName⟩

/-- The settings file that counts is in a directory above, or is that of the user. -/
theorem locate?_cases {d : Disk} {env : Environment} {file : Path}
    (located : locate? d env = some file) :
    (∃ dir ∈ env.workingDirectory.ancestors, file = fileIn dir) ∨
      ∃ dir, env.configHome.or (env.home.map fun h => h.join ⟨".config"⟩) = some dir ∧
        file = fileIn (dir.join ⟨"svgicons"⟩) := by
  rw [locate?_eq] at located
  rcases List.mem_append.mp (List.mem_of_find?_eq_some located) with above | user
  · obtain ⟨dir, mem, rfl⟩ := List.mem_map.mp above
    exact Or.inl ⟨dir, mem, rfl⟩
  · obtain ⟨dir, isDir, rfl⟩ := Option.map_eq_some_iff.mp (Option.mem_toList.mp user)
    exact Or.inr ⟨dir, isDir, rfl⟩

end Settings

namespace CommandLine.Generate

variable {arguments : GenerateArguments} {env : Environment} {d : Disk} {s : Settings} {root : Path}

/-! ## The workspace -/

/-- Settings are given by a file that can be read, and belong to the directory that it is in; or
there is no file. -/
theorem given_cases (found : finding arguments env d = .given s root) :
    (settingsFile? arguments env d = none ∧ s = {} ∧ root = env.workingDirectory) ∨
      ∃ file text, settingsFile? arguments env d = some file ∧ d.readText file = .ok text ∧
        Settings.parse text = .ok s ∧ file.parent? = some root ∧ file.IsIn root := by
  unfold finding at found
  cases isFile : settingsFile? arguments env d with
  | none =>
    simp only [isFile] at found
    obtain ⟨rfl, rfl⟩ := Finding.given.inj found
    exact Or.inl ⟨rfl, rfl, rfl⟩
  | some file =>
    simp only [isFile] at found
    cases read : d.readText file with
    | error failure => simp [read] at found
    | ok text =>
      cases parsed : Settings.parse text with
      | error error => simp [read, parsed] at found
      | ok settings =>
        simp only [read, parsed] at found
        obtain ⟨rfl, rfl⟩ := Finding.given.inj found
        obtain ⟨name, named⟩ := Disk.fileName?_of_readText read
        obtain ⟨dir, parent, components⟩ := Path.parent?_of_fileName? named
        refine Or.inr ⟨file, text, rfl, read, parsed, ?_⟩
        rw [parent]
        exact ⟨rfl, name, components⟩

/-- The settings file of settings that are given is in the directory that they belong to. -/
theorem isIn_of_found (found : finding arguments env d = .given s root) {file : Path}
    (isFile : settingsFile? arguments env d = some file) : file.IsIn root := by
  rcases given_cases found with ⟨none, -⟩ | ⟨_, _, isFile', -, -, -, isIn⟩
  · rw [isFile] at none
    contradiction
  · obtain rfl := Option.some.inj (isFile.symm.trans isFile')
    exact isIn

/-- The workspace of a call, if it is not refused, is that of the settings found and overridden. -/
theorem given_of_workspace {w : Workspace}
    (prepared : workspace arguments env
      ((settingsFile? arguments env d).map fun path => (path, d.readText path)) = .ok w) :
    ∃ s, finding arguments env d = .given s w.root ∧ w.settings = merged arguments env s := by
  rw [workspace, baseSettings_eq] at prepared
  cases found : finding arguments env d with
  | unreadable failure => simp [found] at prepared
  | unparsed error => simp [found] at prepared
  | given s root =>
    cases checked : s.check with
    | error e => simp [found, checked, Except.map] at prepared
    | ok _ =>
      simp only [found, checked, Except.map] at prepared
      split at prepared
      · contradiction
      · obtain rfl := Except.ok.inj prepared
        exact ⟨s, rfl, rfl⟩

/-! ## Bases -/

/-- The directory that configured paths are seen from, by the place that the settings come from. -/
inductive Base (arguments : GenerateArguments) (env : Environment) (d : Disk) : Path → Prop
  /-- A file is named. -/
  | named {file dir : Path} (config : arguments.config = some file)
      (around : (env.workingDirectory.join file).IsIn dir) : Base arguments env d dir
  /-- The file that counts is in the working directory or above it. -/
  | above {dir : Path} (config : arguments.config = none)
      (above : dir ∈ env.workingDirectory.ancestors)
      (located : Settings.locate? d env = some (Settings.fileIn dir)) : Base arguments env d dir
  /-- The file that counts is that of the user. -/
  | user {dir : Path} (config : arguments.config = none)
      (home : env.configHome.or (env.home.map fun h => h.join ⟨".config"⟩) = some dir)
      (located : Settings.locate? d env = some (Settings.fileIn (dir.join ⟨"svgicons"⟩))) :
      Base arguments env d (dir.join ⟨"svgicons"⟩)
  /-- There is no file. -/
  | missing (config : arguments.config = none) (nowhere : Settings.locate? d env = none) :
      Base arguments env d env.workingDirectory

theorem settingsFile?_of_named {file : Path} (config : arguments.config = some file) :
    settingsFile? arguments env d = some (env.workingDirectory.join file) := by
  simp [settingsFile?, settingsPath?, config]

theorem settingsFile?_of_none (config : arguments.config = none) :
    settingsFile? arguments env d = Settings.locate? d env := by
  simp [settingsFile?, settingsPath?, config]

/-- Settings that are given have a base. -/
theorem exists_base (found : finding arguments env d = .given s root) :
    ∃ base, Base arguments env d base := by
  cases config : arguments.config with
  | some file => exact ⟨root, .named config (isIn_of_found found (settingsFile?_of_named config))⟩
  | none =>
    cases located : Settings.locate? d env with
    | none => exact ⟨_, .missing config located⟩
    | some file =>
      rcases Settings.locate?_cases located with ⟨dir, mem, rfl⟩ | ⟨dir, home, rfl⟩
      · exact ⟨dir, .above config mem located⟩
      · exact ⟨_, .user config home located⟩

/-- The directory that settings belong to is their base. -/
theorem Base.same {base : Path} (h : Base arguments env d base)
    (found : finding arguments env d = .given s root) : root.Same base := by
  cases h with
  | named config around =>
    exact (isIn_of_found found (settingsFile?_of_named config)).same around
  | above config _ located | user config _ located =>
    have isFile := (settingsFile?_of_none config).trans located
    exact (isIn_of_found found isFile).same (Settings.isIn_fileIn _)
  | missing config nowhere =>
    have noFile := (settingsFile?_of_none config).trans nowhere
    rcases given_cases found with ⟨-, -, rfl⟩ | ⟨file, _, isFile, -⟩
    · rfl
    · rw [noFile] at isFile
      contradiction

/-! ## Directories -/

/-- A directory of a call, from the argument for it and the configured path: where the argument
says, seen from the working directory; or where the settings say, seen from their base. A path that
is absolute is kept. -/
structure Placed (arguments : GenerateArguments) (env : Environment) (d : Disk)
    (argument : Option Path) (configured directory : Path) : Prop where
  given : ∀ path, argument = some path → directory = env.workingDirectory.join path
  otherwise : argument = none →
    ∀ base, Base arguments env d base → directory.Same (base.join configured)
  kept : (argument.getD configured).isAbsolute = true → directory = argument.getD configured

theorem placed_join (absolute : env.workingDirectory.isAbsolute = true)
    (found : finding arguments env d = .given s root) (argument : Option Path)
    (configured : Path) :
    Placed arguments env d argument configured
      (root.join ((argument.map env.workingDirectory.join).getD configured)) := by
  cases argument with
  | none =>
    refine ⟨by simp, fun _ base isBase => ?_, fun kept => ?_⟩
    · exact (isBase.same found).join configured
    · exact Path.join_of_isAbsolute root kept
  | some path =>
    -- seen from the working directory a path is absolute, and is not seen from anywhere else
    have seen : root.join (env.workingDirectory.join path) = env.workingDirectory.join path :=
      Path.join_of_isAbsolute root (Path.isAbsolute_join absolute path)
    refine ⟨?_, by simp, fun kept => ?_⟩
    · rintro _ ⟨⟩
      exact seen
    · exact seen.trans (Path.join_of_isAbsolute env.workingDirectory kept)

/-- In an absolute working directory, a call that is not refused runs over the directory that an
argument says, seen from the working directory, wherever the settings file is; and without an
argument over the directory that the settings say, seen from the directory that the settings file is
in, whether that is named, found in the working directory or above it, or that of the user; where
there is none, from the working directory. So it is with the directory of its module. An absolute
path is kept. -/
theorem directories_have_their_base (absolute : env.workingDirectory.isAbsolute = true)
    {w : Workspace}
    (prepared : workspace arguments env
      ((settingsFile? arguments env d).map fun path => (path, d.readText path)) = .ok w) :
    (∃ s, finding arguments env d = .given s w.root ∧
      Placed arguments env d arguments.input s.project.src w.srcDirectory ∧
      Placed arguments env d arguments.output s.project.out w.outDirectory) ∧
    (∃ base, Base arguments env d base) ∧
    ∀ clock : Clock,
      let run := (generation arguments w).run w.srcDirectory w.outDirectory clock d
      generate arguments env clock d =
        ((conclude arguments env w run.result run.events).after
          (notice arguments (settingsFile? arguments env d)), run.store) := by
  obtain ⟨s, found, settings⟩ := given_of_workspace prepared
  refine ⟨⟨s, found, ?_, ?_⟩, exists_base found, ?_⟩
  · rw [Workspace.srcDirectory, settings]
    exact placed_join absolute found arguments.input s.project.src
  · rw [Workspace.outDirectory, settings]
    exact placed_join absolute found arguments.output s.project.out
  · intro clock run
    rw [settingsFile?] at prepared
    rw [generate_eq]
    simp only [prepared]
    rfl

/-- A settings file above the working directory, with an argument for the module only. -/
theorem directories_below_settings_file :
    let d := ((({} : Disk).putDirectory Disk.root "w").putDirectory 1 "sub").put 1 "icons.toml"
      (.file "[project]\nsrc = \"svg\"".toUTF8)
    let arguments : GenerateArguments := { output := some ⟨"build"⟩ }
    let env : Environment := { workingDirectory := ⟨"/w/sub"⟩ }
    ∃ w, workspace arguments env
        ((settingsFile? arguments env d).map fun path => (path, d.readText path)) = .ok w ∧
      w.srcDirectory.Same ⟨"/w/svg"⟩ ∧ w.outDirectory = ⟨"/w/sub/build"⟩ := by
  intro d arguments env
  have isPrepared : (workspace arguments env
      ((settingsFile? arguments env d).map fun path => (path, d.readText path))).isOk = true := by
    decide +kernel
  cases prepared : workspace arguments env
      ((settingsFile? arguments env d).map fun path => (path, d.readText path)) with
  | error ending => simp [prepared, Except.isOk, Except.toBool] at isPrepared
  | ok w =>
    obtain ⟨⟨s, found, src, out⟩, -, -⟩ :=
      directories_have_their_base (by decide) prepared
    have base : Base arguments env d ⟨"/w"⟩ :=
      .above rfl (by decide +kernel) (by decide +kernel)
    have isFile : settingsFile? arguments env d = some ⟨"/w/icons.toml"⟩ := by decide +kernel
    have read : d.readText ⟨"/w/icons.toml"⟩ = .ok "[project]\nsrc = \"svg\"" := by
      decide +kernel
    have configured : s.project.src = ⟨"svg"⟩ := by
      rcases given_cases found with ⟨none, -⟩ | ⟨file, text, isFile', read', parsed, -⟩
      · simp [isFile] at none
      · obtain rfl := Option.some.inj (isFile.symm.trans isFile')
        obtain rfl := Except.ok.inj (read.symm.trans read')
        have written : (Settings.parse "[project]\nsrc = \"svg\"").toOption.map
            (fun s => s.project.src) = some ⟨"svg"⟩ := by decide +kernel
        simpa [parsed, Except.toOption] using written
    refine ⟨w, rfl, ?_, ?_⟩
    · rw [configured] at src
      exact (src.otherwise rfl _ base).trans (by decide +kernel)
    · exact (out.given _ rfl).trans (by decide +kernel)

end CommandLine.Generate

end IconForge
