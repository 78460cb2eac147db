import IconForge.CommandLine.Init
import IconForge.Proofs.CommandLine.Generate
import IconForge.Proofs.Generation.Beside
import IconForge.Proofs.Settings.Starter

/-!
# What a call of `init` comes to

A new settings file holds the defaults. So a call of `generate` after `init` finds the settings that
it would have found without: the defaults, in the working directory. And the file is no icon, so
that the run over these settings is the same; there is one exception, a call that would have made a
directory where the file is.

## Main statements

- `init_of_vacant`, `init_of_isThere`, `init_of_file`: what a call of `init` does where there is no
  settings file, and where there is one.
- `finding_of_starter`: the settings that are found after it.
- `generate_after_init`: a call of `generate` after `init` and without.
- `init_before_generate`: all of this, for a working directory.
-/

namespace IconForge

open IconForge.Disk

namespace CommandLine

open Settings Generate

variable {arguments : GenerateArguments} {env : Environment} {clock clock' : Clock} {d d' : Disk}
  {here : Nat}

/-! ## Making a settings file -/

/-- A settings file that is there is not replaced without being asked to. -/
theorem init_of_isThere (isThere : d.isThere (fileIn env.workingDirectory) = true) :
    init false env d = (initEnding (.error (.alreadyExists (fileIn env.workingDirectory))), d) := by
  rw [init_eq, created, isThere]
  rfl

/-- In a directory that is there, a settings file is made by overwriting it. -/
theorem created_of_findDirectory {dir : Path} (found : d.findDirectory dir = .ok here)
    {force : Bool} (allowed : (d.isThere (fileIn dir) && !force) = false) :
    created d dir force =
      match d.overwriteFile (fileIn dir) starter.toUTF8 with
      | .error failure => (.error (.unreadable failure), d)
      | .ok after => (.ok (fileIn dir), after) := by
  rw [created, allowed, makeDirectories_of_findDirectory found]
  rfl

/-- Where nothing has its name, a settings file that is made is the one thing that is new. -/
theorem init_of_vacant (found : d.findDirectory env.workingDirectory = .ok here)
    (vacant : d.child? here fileName = none) {force : Bool}
    (done : (init force env d).1.exitCode = some 0) :
    checkPath (fileIn env.workingDirectory) = .ok () ∧
      (init force env d).2 = d.put here fileName (.file starter.toUTF8) := by
  cases refused : d.isThere (fileIn env.workingDirectory) && !force with
  | true =>
    rw [init_eq, created, refused] at done
    exact absurd done (by simp [initEnding])
  | false =>
    rw [init_eq, created_of_findDirectory found refused] at done ⊢
    cases written : d.overwriteFile (fileIn env.workingDirectory) starter.toUTF8 with
    | error failure =>
      rw [written] at done
      exact absurd done (by simp [initEnding])
    | ok after =>
      obtain ⟨around, name, rfl, leads⟩ := overwriteFile_ok written
      have checked : checkPath (fileIn env.workingDirectory) = .ok () := by
        rcases leads with leads | ⟨old, leads⟩ <;> exact (resolve_eq_ok_iff.mp leads).1
      -- the path leads to the name in the directory, where nothing is
      have isVacant := (resolve_join plainName_fileName (by decide) checked found).1 vacant
      refine ⟨checked, ?_⟩
      rcases leads with leads | ⟨old, leads⟩
      · obtain ⟨rfl, rfl⟩ := Target.vacant.inj (Except.ok.inj (isVacant.symm.trans leads))
        rfl
      · exact Target.noConfusion (Except.ok.inj (isVacant.symm.trans leads))

/-! ## Finding the new file -/

/-- A path that counts first is found if something is there. -/
theorem locate?_of_isThere (isThere : d.isThere (fileIn env.workingDirectory) = true) :
    locate? d env = some (fileIn env.workingDirectory) := by
  obtain ⟨above, ancestors⟩ := env.workingDirectory.exists_ancestors
  rw [locate?_eq, places, candidates, ancestors, List.map_cons, List.cons_append,
    List.find?_cons_of_pos isThere]

/-- Without a settings file anywhere a call finds the defaults. -/
theorem finding_of_nowhere (noConfig : arguments.config = none)
    (nowhere : ∀ place ∈ places env, d.isThere place = false) :
    finding arguments env d = .given {} env.workingDirectory := by
  have noFile : settingsFile? arguments env d = none := by
    rw [settingsFile?, settingsPath?, noConfig, locate?_eq, List.find?_eq_none.mpr]
    · rfl
    · intro place isPlace
      simp [nowhere place isPlace]
  rw [finding, noFile]

/-- A call finds the settings that its settings file writes. -/
theorem finding_of_text {path : Path} {text : String} {s : Settings}
    (isFile : settingsFile? arguments env d = some path) (isRead : d.readText path = .ok text)
    (parsed : Settings.parse text = .ok s) :
    finding arguments env d = .given s (path.parent?.getD env.workingDirectory) := by
  simp only [finding, isFile, isRead, parsed]

/-- With the starter settings in the working directory a call finds the defaults too. -/
theorem finding_of_starter (noConfig : arguments.config = none)
    (canonical : env.workingDirectory.Canonical) {around : Nat} {name : String}
    (isThere : d.resolve .look (fileIn env.workingDirectory) =
      .ok (.file around name starter.toUTF8)) :
    finding arguments env d = .given {} env.workingDirectory := by
  have located : locate? d env = some (fileIn env.workingDirectory) := by
    apply locate?_of_isThere
    rw [Disk.isThere, isThere]
  have isFile : settingsFile? arguments env d = some (fileIn env.workingDirectory) := by
    rw [settingsFile?, settingsPath?, noConfig, located]
    rfl
  have parent : (fileIn env.workingDirectory).parent? = some env.workingDirectory :=
    canonical.parent?_join plainName_fileName
  rw [finding_of_text isFile (readText_of_resolve isThere) parse_starter, parent, Option.getD_some]

/-! ## Two calls of `generate` -/

/-- A call on one disk goes as it goes on another: it ends with the same code, prints the same, and
produces the same module at the same path, or nothing. -/
structure SameCall (arguments : GenerateArguments) (env : Environment) (clock clock' : Clock)
    (d d' : Disk) : Prop where
  exitCode :
    (generate arguments env clock' d').1.exitCode = (generate arguments env clock d).1.exitCode
  stdout : (generate arguments env clock' d').1.stdout = (generate arguments env clock d).1.stdout
  produces : ∀ outcome, Produces arguments env clock d outcome →
    ∃ outcome', Produces arguments env clock' d' outcome' ∧ Generation.SameOutcome outcome outcome'
  produced : ∀ outcome', Produces arguments env clock' d' outcome' →
    ∃ outcome, Produces arguments env clock d outcome ∧ Generation.SameOutcome outcome outcome'

/-- Calls that are refused for the same reason go alike. -/
theorem sameCall_of_refused {code : Nat} {message : String}
    (refused : Refused arguments env d code message)
    (refused' : Refused arguments env d' code message) :
    SameCall arguments env clock clock' d d' where
  exitCode := by rw [generate_of_refused refused, generate_of_refused refused']
  stdout := by rw [generate_of_refused refused, generate_of_refused refused']
  produces outcome produced := absurd produced refused.not_produces
  produced outcome' produced' := absurd produced' refused'.not_produces

/-- Runs that both break off, both fail or both do neither end their calls with the same code. -/
theorem exitCode_congr {s : Settings} {r r' : Run Disk} {code code' : Option Nat}
    (ends : ExitsWith arguments s r code) (ends' : ExitsWith arguments s r' code')
    (cutShort : CutShort r' ↔ CutShort r) (fails : Fails arguments s r' ↔ Fails arguments s r) :
    code' = code := by
  cases ends <;> cases ends' <;> simp_all

/-- Calls whose runs have the same result go alike. -/
theorem sameCall_of_runs {s : Settings} {root : Path} {r r' : Run Disk}
    (runs : Runs arguments env clock d s root r) (runs' : Runs arguments env clock' d' s root r')
    (same : Generation.SameResult r.result r'.result) :
    SameCall arguments env clock clock' d d' := by
  have ends := exitsWith_of_runs runs
  have ends' := exitsWith_of_runs runs'
  generalize result : r.result = x at same
  generalize result' : r'.result = x' at same
  constructor
  case exitCode =>
    apply exitCode_congr ends ends'
    · unfold CutShort
      rw [result, result']
      cases same <;> simp
    · unfold Fails Counts
      rw [result, result']
      cases same with
      | stopped e e' => simp
      | broken crash => simp
      | done alike => simp [alike.2.2.2]
  case stdout =>
    rw [stdout_of_runs runs, stdout_of_runs runs', result, result']
    cases same with
    | stopped e e' => rfl
    | broken crash => rfl
    | done alike => simp only [alike.1]
  case produces =>
    intro outcome produced
    have ok := runs.produces_iff.mp produced
    rw [result] at ok
    subst ok
    cases same with
    | done alike => exact ⟨_, runs'.produces_iff.mpr result', alike⟩
  case produced =>
    intro outcome' produced'
    have ok := runs'.produces_iff.mp produced'
    rw [result'] at ok
    subst ok
    cases same with
    | done alike => exact ⟨_, runs.produces_iff.mpr result, alike⟩

/-! ## `generate` after `init` -/

/-- A call is carried out and leaves a directory in place of the settings file. -/
def TakesPlace (arguments : GenerateArguments) (env : Environment) (clock : Clock) (d : Disk)
    (here : Nat) : Prop :=
  (∃ outcome, Produces arguments env clock d outcome) ∧
    ∃ number, (generate arguments env clock d).2.child? here fileName = some (.directory number)

theorem takesPlace_iff {s : Settings} {root : Path} {r : Run Disk}
    (runs : Runs arguments env clock d s root r) :
    TakesPlace arguments env clock d here ↔ Generation.MakesDirectory r here fileName := by
  simp only [TakesPlace, Generation.MakesDirectory, store_of_runs runs, runs.produces_iff]

/-- What is computed of a run tells that its call takes the place of the settings file. -/
theorem takesPlace_of_any {s : Settings} {root : Path} {r : Run Disk}
    (runs : Runs arguments env clock d s root r) (carriedOut : r.result.isOk = true)
    (isDirectory : (r.store.child? here fileName).any (fun e => e matches .directory _) = true) :
    TakesPlace arguments env clock d here := by
  rw [takesPlace_iff runs]
  constructor
  · cases result : r.result with
    | error stop =>
      rw [result] at carriedOut
      contradiction
    | ok outcome => exact ⟨outcome, rfl⟩
  · obtain ⟨e, found, isDirectory⟩ := (Option.any_eq_true _ _).mp isDirectory
    cases e with
    | directory number => exact ⟨number, found⟩
    | file bytes => contradiction
    | link target => contradiction

/-- A run that is stopped ends the call with the code 1, and there is nothing that it produces. -/
theorem exitCode_of_stopped {s : Settings} {root : Path} {r : Run Disk} {e : GenerationError}
    (runs : Runs arguments env clock d s root r) (stopped : r.result = .error (.failure e)) :
    (generate arguments env clock d).1.exitCode = some 1 ∧
      ¬ ∃ outcome, Produces arguments env clock d outcome := by
  constructor
  · exact exitCode_eq_one_iff.mpr (Or.inr ⟨s, root, r, runs, Or.inl ⟨e, stopped⟩⟩)
  · rintro ⟨outcome, produced⟩
    have ok := runs.produces_iff.mp produced
    simp [stopped] at ok

/-- A call that finds the defaults in the working directory goes alike with the starter settings and
without, unless it makes a directory where they are. Then it fails with them. -/
theorem generate_put_starter (wf : d.WellFormed) (inside : here < d.directories.size)
    (vacant : d.child? here fileName = none) (given : env.workingDirectory.text ≠ "")
    {d' : Disk} (put : d' = d.put here fileName (.file starter.toUTF8))
    (found : finding arguments env d = .given {} env.workingDirectory)
    (found' : finding arguments env d' = .given {} env.workingDirectory) :
    (¬ TakesPlace arguments env clock d here ∧ SameCall arguments env clock clock' d d') ∨
      (TakesPlace arguments env clock d here ∧
        (generate arguments env clock' d').1.exitCode = some 1 ∧
        ¬ ∃ outcome, Produces arguments env clock' d' outcome) := by
  by_cases sound : (merged arguments env {}).problems = []
  · let w := Workspace.ofSettings (merged arguments env {}) env.workingDirectory
    have runs : Runs arguments env clock d {} env.workingDirectory
        (w.run arguments.dryRun clock d) :=
      ⟨found, problems_default, sound, rfl⟩
    have runs' : Runs arguments env clock' d' {} env.workingDirectory
        (w.run arguments.dryRun clock' d') :=
      ⟨found', problems_default, sound, rfl⟩
    have plain := plainName_outputFileName (relied_on_of_problems_eq_nil sound).2.2
    have alike := (w.generation arguments.dryRun).run_put w.srcDirectory clock clock' wf inside
      vacant isSvgFile_fileName holdsNone_starter
      (Path.join_text_ne_empty given (merged arguments env {}).project.out) plain
    rw [← put] at alike
    rcases alike with ⟨makesNone, same⟩ | ⟨makes, e, stopped⟩
    · exact Or.inl ⟨mt (takesPlace_iff runs).mp makesNone, sameCall_of_runs runs runs' same⟩
    · exact Or.inr ⟨(takesPlace_iff runs).mpr makes, exitCode_of_stopped runs' stopped⟩
  · left
    have refused := Refused.spoiled found problems_default sound
    have refused' := Refused.spoiled found' problems_default sound
    refine ⟨?_, sameCall_of_refused refused refused'⟩
    rintro ⟨⟨outcome, produced⟩, -⟩
    exact refused.not_produces produced

/-- A call of `init` changes nothing for `generate` where there are no settings, unless a call
without it leaves a directory in place of the settings file. -/
theorem generate_after_init (clock clock' : Clock) (wf : d.WellFormed)
    (canonical : env.workingDirectory.Canonical)
    (found : d.findDirectory env.workingDirectory = .ok here)
    (vacant : d.child? here fileName = none)
    (nowhere : ∀ place ∈ places env, d.isThere place = false) (noConfig : arguments.config = none)
    {force : Bool} (done : (init force env d).1.exitCode = some 0) :
    let d' := (init force env d).2
    (¬ TakesPlace arguments env clock d here ∧ SameCall arguments env clock clock' d d') ∨
      (TakesPlace arguments env clock d here ∧
        (generate arguments env clock' d').1.exitCode = some 1 ∧
        ¬ ∃ outcome, Produces arguments env clock' d' outcome) := by
  intro d'
  obtain ⟨checked, put⟩ := init_of_vacant found vacant done
  have isDirectory := findDirectory_eq_ok_iff.mp found
  have inside : here < d.directories.size := wf.resolve isDirectory
  have given : env.workingDirectory.text ≠ "" :=
    (checkPath_eq_ok_iff.mp (resolve_eq_ok_iff.mp isDirectory).1).2.1
  have beside : Beside here fileName starter.toUTF8 d d' := by
    rw [show d' = _ from put]
    exact beside_put inside vacant _
  -- the new file is found where it has been made
  have found' : d'.findDirectory env.workingDirectory = .ok here := by
    rcases findDirectory_beside beside env.workingDirectory with same | ⟨missing, -⟩
    · rw [same, found]
    · simp [found] at missing
  have isFile := (resolve_join plainName_fileName (by decide) checked found').2 _ beside.file
  exact generate_put_starter wf inside vacant given put (finding_of_nowhere noConfig nowhere)
    (finding_of_starter noConfig canonical isFile)

/-- A settings file that is there is replaced if that is asked for, and nothing else is. -/
theorem init_of_file (wf : d.WellFormed) (given : env.workingDirectory.text ≠ "") {around : Nat}
    {name : String} {bytes : ByteArray}
    (isFile : d.resolve .look (fileIn env.workingDirectory) = .ok (.file around name bytes)) :
    (init true env d).1.exitCode = some 0 ∧
      (init true env d).2.readText (fileIn env.workingDirectory) = .ok starter ∧
      ∀ there other, ¬ (there = around ∧ other = name) →
        (init true env d).2.child? there other = d.child? there other := by
  obtain ⟨here, found⟩ := findDirectory_of_resolve_join given plainName_fileName isFile
  have made : init true env d = (initEnding (.ok (fileIn env.workingDirectory)),
      d.put around name (.file starter.toUTF8)) := by
    rw [init_eq, created_of_findDirectory found (Bool.and_false _), overwriteFile_of_file isFile]
  obtain ⟨inside, -⟩ := wf.resolve isFile
  rw [made]
  refine ⟨rfl, ?_, ?_⟩
  · exact readText_put_of_resolve wf isFile starter
  · intro there other elsewhere
    rw [child?_put inside, if_neg elsewhere]

/-- Where no settings are found, a call of `generate` after a call of `init` that goes well ends
with the same code and produces the same module at the same path as it does without, or nothing;
unless without it leaves a directory in place of the settings file: then it fails. Where there is a
settings file, a call of `init` that is not told to replace it fails and changes nothing; and one
that is told to gives it the starter settings, and changes nothing else. -/
theorem init_before_generate (wf : d.WellFormed) (canonical : env.workingDirectory.Canonical) :
    (∀ here force arguments (clock clock' : Clock),
      d.findDirectory env.workingDirectory = .ok here → d.child? here fileName = none →
      (∀ place ∈ places env, d.isThere place = false) → arguments.config = none →
      (init force env d).1.exitCode = some 0 →
        let d' := (init force env d).2
        (¬ TakesPlace arguments env clock d here → SameCall arguments env clock clock' d d') ∧
        (TakesPlace arguments env clock d here →
          (generate arguments env clock' d').1.exitCode = some 1 ∧
          ¬ ∃ outcome, Produces arguments env clock' d' outcome)) ∧
    (d.isThere (fileIn env.workingDirectory) = true →
      (init false env d).1.exitCode = some 1 ∧ (init false env d).2 = d) ∧
    ∀ around name bytes,
      d.resolve .look (fileIn env.workingDirectory) = .ok (.file around name bytes) →
        (init true env d).1.exitCode = some 0 ∧
        (init true env d).2.readText (fileIn env.workingDirectory) = .ok starter ∧
        ∀ there other, ¬ (there = around ∧ other = name) →
          (init true env d).2.child? there other = d.child? there other := by
  refine ⟨?_, ?_, ?_⟩
  · intro here force arguments clock clock' found vacant nowhere noConfig done d'
    rcases generate_after_init clock clock' wf canonical found vacant nowhere noConfig done with
      ⟨takesNone, same⟩ | ⟨takes, fails⟩
    · exact ⟨fun _ => same, fun takes => absurd takes takesNone⟩
    · exact ⟨fun takesNone => absurd takes takesNone, fun _ => fails⟩
  · intro isThere
    rw [init_of_isThere isThere]
    exact ⟨rfl, rfl⟩
  · intro around name bytes isFile
    obtain ⟨names, -, eq⟩ := canonical
    have given : env.workingDirectory.text ≠ "" := by
      rw [eq]
      exact Path.rooted_text_ne_empty names
    exact init_of_file wf given isFile

/-- Over one icon, with a call that has no arguments; and with a settings file that is there. -/
theorem init_before_generate_over_icon :
    let env : Environment := { workingDirectory := ⟨"/"⟩ }
    let clock : Clock := fun n => 1000000 * n
    let d := (({} : Disk).putDirectory Disk.root "icons").put 1 "home.svg"
      (.file "<svg title=\"Home\"/>".toUTF8)
    let d' := d.put Disk.root "icons.toml" (.file "strict = 1".toUTF8)
    (init false env d).1.exitCode = some 0 ∧ (generate {} env clock d).1.exitCode = some 0 ∧
      (∀ clock' : Clock, SameCall {} env clock clock' d (init false env d).2) ∧
      (init false env d').1.exitCode = some 1 ∧ (init false env d').2 = d' ∧
      (init true env d').1.exitCode = some 0 ∧
      (init true env d').2.readText (fileIn env.workingDirectory) = .ok starter := by
  intro env clock d d'
  have wf : d.WellFormed :=
    (wellFormed_empty.putDirectory (by decide) _).put (by decide) _ (by simp)
  have wf' : d'.WellFormed := wf.put (by decide) _ (by simp)
  have canonical : env.workingDirectory.Canonical := ⟨[], by simp, by decide⟩
  have done : (init false env d).1.exitCode = some 0 := by decide +kernel
  have free : ((generate {} env clock d).2.child? Disk.root fileName).isNone = true := by
    decide +kernel
  have isThere : d'.isThere (fileIn env.workingDirectory) = true := by decide +kernel
  have isFile : d'.resolve .look (fileIn env.workingDirectory) =
      .ok (.file Disk.root fileName "strict = 1".toUTF8) :=
    (resolve_join plainName_fileName (by decide) (by decide +kernel) (by decide +kernel)).2 _ rfl
  obtain ⟨before, -, -⟩ := init_before_generate wf canonical
  obtain ⟨-, kept, replaced⟩ := init_before_generate wf' canonical
  obtain ⟨refused, unchanged⟩ := kept isThere
  obtain ⟨made, isRead, -⟩ := replaced _ _ _ isFile
  refine ⟨done, by decide +kernel, fun clock' => ?_, refused, unchanged, made, isRead⟩
  obtain ⟨same, -⟩ :=
    before Disk.root false {} clock clock' (by decide +kernel) rfl (by decide +kernel) rfl done
  apply same
  rintro ⟨-, number, isDirectory⟩
  simp [isDirectory] at free

/-- A call that makes a directory in place of the settings file goes well without `init`, and fails
after it. -/
theorem generate_into_settings_file :
    let env : Environment := { workingDirectory := ⟨"/"⟩ }
    let clock : Clock := fun n => 1000000 * n
    let d := (({} : Disk).putDirectory Disk.root "icons").put 1 "home.svg"
      (.file "<svg title=\"Home\"/>".toUTF8)
    let arguments : GenerateArguments := { input := some ⟨"icons"⟩, output := some ⟨"icons.toml"⟩ }
    d.WellFormed ∧ env.workingDirectory.Canonical ∧
      d.findDirectory env.workingDirectory = .ok Disk.root ∧
      d.child? Disk.root fileName = none ∧ (∀ place ∈ places env, d.isThere place = false) ∧
      arguments.config = none ∧ (init false env d).1.exitCode = some 0 ∧
      (generate arguments env clock d).1.exitCode = some 0 ∧
      (generate arguments env clock (init false env d).2).1.exitCode = some 1 := by
  intro env clock d arguments
  have wf : d.WellFormed :=
    (wellFormed_empty.putDirectory (by decide) _).put (by decide) _ (by simp)
  have canonical : env.workingDirectory.Canonical := ⟨[], by simp, by decide⟩
  have nowhere : ∀ place ∈ places env, d.isThere place = false := by decide +kernel
  have done : (init false env d).1.exitCode = some 0 := by decide +kernel
  have found : d.findDirectory env.workingDirectory = .ok Disk.root := by decide +kernel
  have noConfig : arguments.config = none := rfl
  refine ⟨wf, canonical, found, rfl, nowhere, noConfig, done, by decide +kernel, ?_⟩
  rcases generate_after_init clock clock wf canonical found rfl nowhere noConfig done with
    ⟨takesNone, -⟩ | ⟨-, fails, -⟩
  · -- the directory is where the settings file would be
    exfalso
    apply takesNone
    let r := (Workspace.ofSettings (merged arguments env {}) env.workingDirectory).run
      arguments.dryRun clock d
    have runs : Runs arguments env clock d {} env.workingDirectory r :=
      runs_default (by decide +kernel) (by decide +kernel)
    have carriedOut : r.result.isOk = true := by decide +kernel
    have isDirectory : (r.store.child? Disk.root fileName).any (fun e => e matches .directory _) =
        true := by decide +kernel
    exact takesPlace_of_any runs carriedOut isDirectory
  · exact fails

end CommandLine

end IconForge
