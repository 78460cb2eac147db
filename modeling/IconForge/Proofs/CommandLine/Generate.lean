import IconForge.Proofs.CommandLine.Performance
import IconForge.Proofs.Generation.OnDisk
import IconForge.Proofs.Progress.Lines
import IconForge.Proofs.Settings.Safety

/-!
# What a call of `generate` comes to

A call first finds its settings; then they are overridden and checked; then the run is carried out;
and at the end icons that have failed may count. `Finding` is what the first of these stages comes
to, `Refused` says why there is no run, and `Runs` which run there is. `generate_cases` says that
there is nothing else. The exit code, the output and the files of a call are read off from that. If
the run breaks off, so does the call, and it has no exit code.

## Main statements

- `generate_cases`: a call is refused, or it has a run.
- `generate_exit_and_effects`: the exit code, the output and the files of a call.
- `generate_says_events`: what a call says for programs to read.
-/

namespace IconForge.CommandLine

open IconForge.Markup IconForge.Progress IconForge.Text

namespace Generate

variable {arguments : GenerateArguments} {env : Environment} {clock : Clock} {d : Disk}

/-! ## Finding settings -/

/-- What becomes of the settings file of a call. -/
inductive Finding where
  | unreadable (failure : Failure)
  /-- The text of the file is no document, or does not say what settings say. -/
  | unparsed (error : SettingsError)
  /-- The settings that are written in the file, sound or not, and the directory around it; or the
  defaults and the working directory, where there is no file. -/
  | given (settings : Settings) (root : Path)

/-- The settings file of a call. -/
def settingsFile? (arguments : GenerateArguments) (env : Environment) (d : Disk) : Option Path :=
  settingsPath? arguments env (Settings.locate? d env)

def finding (arguments : GenerateArguments) (env : Environment) (d : Disk) : Finding :=
  match settingsFile? arguments env d with
  | none => .given {} env.workingDirectory
  | some path =>
    match d.readText path with
    | .error failure => .unreadable failure
    | .ok text =>
      match Settings.parse text with
      | .error error => .unparsed error
      | .ok settings => .given settings (path.parent?.getD env.workingDirectory)

/-- Settings with what the arguments override. -/
def merged (arguments : GenerateArguments) (env : Environment) (s : Settings) : Settings :=
  s.override (overrides arguments env)

/-- Why a call has no run, the exit code for it, and what is said of it. -/
inductive Refused (arguments : GenerateArguments) (env : Environment) (d : Disk) :
    Nat → String → Prop
  | unreadable {failure : Failure} (found : finding arguments env d = .unreadable failure) :
      Refused arguments env d 1
        ("Error loading config: " ++ (SettingsError.unreadable failure).message ++ "\n")
  | unparsed {error : SettingsError} (found : finding arguments env d = .unparsed error) :
      Refused arguments env d 2 ("Error loading config: " ++ error.message ++ "\n")
  | invalid {s : Settings} {root : Path} (found : finding arguments env d = .given s root)
      (unsound : s.problems ≠ []) :
      Refused arguments env d 2
        ("Error loading config: " ++ (SettingsError.invalid s.problems).message ++ "\n")
  | spoiled {s : Settings} {root : Path} (found : finding arguments env d = .given s root)
      (sound : s.problems = []) (unsound : (merged arguments env s).problems ≠ []) :
      Refused arguments env d 2
        ("Error: " ++ (SettingsError.invalid (merged arguments env s).problems).message ++ "\n")

/-- A call has a run, in the workspace of the settings found and overridden. Both have passed. -/
structure Runs (arguments : GenerateArguments) (env : Environment) (clock : Clock) (d : Disk)
    (s : Settings) (root : Path) (r : Run Disk) : Prop where
  found : finding arguments env d = .given s root
  sound : s.problems = []
  soundMerged : (merged arguments env s).problems = []
  eq : r = (Workspace.ofSettings (merged arguments env s) root).run arguments.dryRun clock d

/-! ## The stages of a call -/

theorem check_eq (s : Settings) :
    s.check = if s.problems = [] then .ok () else .error (.invalid s.problems) := by
  simp [Settings.check]

/-- What the settings of a file are, from what its text writes. -/
theorem ofText_eq (text : String) :
    Settings.ofText text = (Settings.parse text).bind fun s => s.check.map fun _ => s := by
  unfold Settings.ofText
  cases Settings.parse text with
  | error e => rfl
  | ok s =>
    simp only [bind, Except.bind]
    cases s.check <;> rfl

/-- A text writes no settings for one of two reasons. -/
theorem settingsExitCode_parse {text : String} {error : SettingsError}
    (h : Settings.parse text = .error error) : settingsExitCode error = 2 := by
  unfold Settings.parse at h
  split at h
  · obtain rfl := Except.error.inj h
    rfl
  · rename_i table _
    cases decoded : Settings.ofTable table with
    | error shape =>
      rw [decoded] at h
      obtain rfl := Except.error.inj h
      rfl
    | ok s => simp [decoded, Except.mapError] at h

/-- The defaults are sound. -/
theorem problems_default : ({} : Settings).problems = [] := by decide

/-- The settings of a call are those of the finding, if they are sound. -/
theorem baseSettings_eq (arguments : GenerateArguments) (env : Environment) (d : Disk) :
    baseSettings env ((settingsFile? arguments env d).map fun path => (path, d.readText path)) =
      match finding arguments env d with
      | .unreadable failure => .error (.unreadable failure)
      | .unparsed error => .error error
      | .given s root => s.check.map fun _ => (s, root) := by
  unfold baseSettings finding
  cases settingsFile? arguments env d with
  | none => simp [check_eq, problems_default, Except.map]
  | some path =>
    simp only [Option.map_some]
    cases d.readText path with
    | error failure => rfl
    | ok text =>
      simp only [Settings.ofContent, ofText_eq]
      cases Settings.parse text with
      | error error => rfl
      | ok s => cases checked : s.check <;> simp [checked, Except.bind, Except.map]

/-- A call is refused and changes nothing, or it has a run and ends as that does. -/
theorem generate_cases (arguments : GenerateArguments) (env : Environment) (clock : Clock)
    (d : Disk) :
    let said := notice arguments (settingsFile? arguments env d)
    (∃ code message, Refused arguments env d code message ∧
      generate arguments env clock d = (⟨some code, "", said ++ message⟩, d)) ∨
    ∃ s root r, Runs arguments env clock d s root r ∧
      let w : Workspace :=
        { Workspace.ofSettings (merged arguments env s) root with verbose := arguments.verbose }
      generate arguments env clock d =
        ((conclude arguments env w r.result r.events).after said, r.store) := by
  intro said
  have base := baseSettings_eq arguments env d
  rw [generate_eq]
  dsimp only
  rw [← settingsFile?, workspace, base]
  cases found : finding arguments env d with
  | unreadable failure => exact Or.inl ⟨1, _, .unreadable found, rfl⟩
  | unparsed error =>
    refine Or.inl ⟨2, _, .unparsed found, ?_⟩
    -- the finding is that of a text
    have isTwo : settingsExitCode error = 2 := by
      unfold finding at found
      split at found
      · simp at found
      · split at found
        · simp at found
        · split at found
          · rename_i parsed
            obtain rfl := Finding.unparsed.inj found
            exact settingsExitCode_parse parsed
          · simp at found
    simp [isTwo, Ending.after, String.append_assoc, said]
  | given s root =>
    by_cases sound : s.problems = []
    · by_cases soundMerged : (merged arguments env s).problems = []
      · refine Or.inr ⟨s, root, _, ⟨found, sound, soundMerged, rfl⟩, ?_⟩
        have checked : (s.override (overrides arguments env)).check = .ok () := by
          rw [check_eq]
          exact if_pos soundMerged
        simp only [check_eq s, if_pos sound, Except.map, checked]
        rfl
      · refine Or.inl ⟨2, _, .spoiled found sound soundMerged, ?_⟩
        have checked : (s.override (overrides arguments env)).check =
            .error (.invalid (merged arguments env s).problems) := by
          rw [check_eq]
          exact if_neg soundMerged
        simp [check_eq s, sound, Except.map, checked, Ending.after, said]
    · refine Or.inl ⟨2, _, .invalid found sound, ?_⟩
      simp [check_eq s, sound, Except.map, settingsExitCode, Ending.after, said]

/-- Without a settings file a call has a run over the defaults, unless the arguments spoil them. -/
theorem runs_default (noFile : settingsFile? arguments env d = none)
    (sound : (merged arguments env {}).problems = []) :
    Runs arguments env clock d {} env.workingDirectory
      ((Workspace.ofSettings (merged arguments env {}) env.workingDirectory).run
        arguments.dryRun clock d) where
  found := by rw [finding, noFile]
  sound := problems_default
  soundMerged := sound
  eq := rfl

/-! ## The end of a call -/

/-- A run is carried out and has this outcome. -/
def Produces (arguments : GenerateArguments) (env : Environment) (clock : Clock) (d : Disk)
    (outcome : Outcome) : Prop :=
  ∃ s root r, Runs arguments env clock d s root r ∧ r.result = .ok outcome

/-- Icons that have failed count, because an argument or the settings file says so. -/
def Counts (arguments : GenerateArguments) (s : Settings) (outcome : Outcome) : Prop :=
  (arguments.strict = true ∨ s.generate.strict = true) ∧ 0 < outcome.report.failed

theorem strict_merged (s : Settings) :
    (merged arguments env s).generate.strict = (arguments.strict || s.generate.strict) := by
  unfold merged overrides Settings.override
  cases arguments.strict <;> rfl

/-- A run fails if it is stopped, or if icons have failed and that counts. -/
def Fails (arguments : GenerateArguments) (s : Settings) (r : Run Disk) : Prop :=
  (∃ e, r.result = .error (.failure e)) ∨
    ∃ outcome, r.result = .ok outcome ∧ Counts arguments s outcome

/-- A run breaks off at an icon. -/
def CutShort (r : Run Disk) : Prop := ∃ crash, r.result = .error (.crash crash)

/-- The exit code of a run: none if it breaks off, one if it fails, and otherwise zero. -/
inductive ExitsWith (arguments : GenerateArguments) (s : Settings) (r : Run Disk) :
    Option Nat → Prop
  | cutShort (breaks : CutShort r) (fine : ¬ Fails arguments s r) : ExitsWith arguments s r none
  | failed (fails : Fails arguments s r) (whole : ¬ CutShort r) : ExitsWith arguments s r (some 1)
  | well (fine : ¬ Fails arguments s r) (whole : ¬ CutShort r) : ExitsWith arguments s r (some 0)

/-- A run ends the call well, unless it breaks off or fails. -/
theorem exitsWith_verdict (w : Workspace) {s : Settings}
    (strict : w.strict = (arguments.strict || s.generate.strict)) (r : Run Disk) :
    ExitsWith arguments s r (verdict arguments w r.result).exitCode := by
  cases result : r.result with
  | error stop =>
    cases stop with
    | failure e => exact .failed (Or.inl ⟨e, result⟩) (by simp [CutShort, result])
    | crash crash => exact .cutShort ⟨crash, result⟩ (by simp [Fails, result])
  | ok outcome =>
    have whole : ¬ CutShort r := by simp [CutShort, result]
    have counts : Counts arguments s outcome ↔ (w.strict && !outcome.report.isSuccess) = true := by
      simp [Counts, strict, Report.isSuccess, Nat.pos_iff_ne_zero]
    by_cases fails : Counts arguments s outcome
    · rw [verdict, if_pos (counts.mp fails)]
      exact .failed (Or.inr ⟨outcome, result, fails⟩) whole
    · rw [verdict, if_neg (mt counts.mpr fails)]
      exact .well (by simp [Fails, result, fails]) whole

theorem stdout_verdict (w : Workspace) (result : Except Stop Outcome) :
    (verdict arguments w result).stdout =
      match result with
      | .error _ => ""
      | .ok outcome => if arguments.dryRun then outcome.artifact else "" := by
  cases result with
  | error stop => cases stop <;> rfl
  | ok outcome =>
    dsimp only [verdict]
    split <;> rfl

/-- A call has one run at most. -/
theorem Runs.unique {s s' : Settings} {root root' : Path} {r r' : Run Disk}
    (runs : Runs arguments env clock d s root r) (runs' : Runs arguments env clock d s' root' r') :
    s = s' ∧ root = root' ∧ r = r' := by
  obtain ⟨rfl, rfl⟩ := Finding.given.inj (runs.found.symm.trans runs'.found)
  exact ⟨rfl, rfl, runs.eq.trans runs'.eq.symm⟩

/-- What holds of some run of a call holds of the one that it has. -/
theorem Runs.exists_iff {s : Settings} {root : Path} {r : Run Disk}
    (runs : Runs arguments env clock d s root r) (P : Settings → Run Disk → Prop) :
    (∃ s root r, Runs arguments env clock d s root r ∧ P s r) ↔ P s r := by
  constructor
  · rintro ⟨s', root', r', runs', holds⟩
    obtain ⟨rfl, rfl, rfl⟩ := runs.unique runs'
    exact holds
  · intro holds
    exact ⟨s, root, r, runs, holds⟩

/-- A call that is refused has no run. -/
theorem Refused.not_runs {code : Nat} {message : String} {s : Settings} {root : Path}
    {r : Run Disk} (refused : Refused arguments env d code message) :
    ¬ Runs arguments env clock d s root r := by
  intro runs
  cases refused with
  | unreadable found => exact Finding.noConfusion (found.symm.trans runs.found)
  | unparsed found => exact Finding.noConfusion (found.symm.trans runs.found)
  | invalid found unsound =>
    obtain ⟨rfl, rfl⟩ := Finding.given.inj (found.symm.trans runs.found)
    exact unsound runs.sound
  | spoiled found _ unsound =>
    obtain ⟨rfl, rfl⟩ := Finding.given.inj (found.symm.trans runs.found)
    exact unsound runs.soundMerged

theorem Refused.unique {code code' : Nat} {message message' : String}
    (refused : Refused arguments env d code message)
    (refused' : Refused arguments env d code' message') : code = code' ∧ message = message' := by
  cases refused <;> cases refused' <;> simp_all

theorem Refused.code_eq_two_iff {code : Nat} {message : String}
    (refused : Refused arguments env d code message) :
    code = 2 ↔ (∃ error, finding arguments env d = .unparsed error) ∨
      ∃ s root, finding arguments env d = .given s root ∧
        (s.problems ≠ [] ∨ (merged arguments env s).problems ≠ []) := by
  cases refused with
  | unreadable found => simp [found]
  | unparsed found => simp [found]
  | invalid found unsound => simp [found, unsound]
  | spoiled found sound unsound => simp [found, unsound]

theorem Refused.code_eq_one_iff {code : Nat} {message : String}
    (refused : Refused arguments env d code message) :
    code = 1 ↔ ∃ failure, finding arguments env d = .unreadable failure := by
  cases refused with
  | unreadable found => simp [found]
  | unparsed found => simp [found]
  | invalid found unsound => simp [found]
  | spoiled found sound unsound => simp [found]

/-- All that is said of a call that is refused is the notice and why, and it changes nothing. -/
theorem generate_of_refused {code : Nat} {message : String}
    (refused : Refused arguments env d code message) :
    generate arguments env clock d =
      (⟨some code, "", notice arguments (settingsFile? arguments env d) ++ message⟩, d) := by
  rcases generate_cases arguments env clock d with
    ⟨code', message', refused', eq⟩ | ⟨s, root, r, runs, -⟩
  · obtain ⟨rfl, rfl⟩ := refused.unique refused'
    exact eq
  · exact absurd runs refused.not_runs

section

variable {s : Settings} {root : Path} {r : Run Disk}

/-- What is shown and left of a call is what is shown and left of its run. -/
theorem generate_of_runs (runs : Runs arguments env clock d s root r) :
    ∃ w : Workspace, w.strict = (arguments.strict || s.generate.strict) ∧
      generate arguments env clock d =
        ((conclude arguments env w r.result r.events).after
          (notice arguments (settingsFile? arguments env d)), r.store) := by
  rcases generate_cases arguments env clock d with
    ⟨code, message, refused, -⟩ | ⟨s', root', r', runs', eq⟩
  · exact absurd runs refused.not_runs
  · obtain ⟨rfl, rfl, rfl⟩ := runs.unique runs'
    exact ⟨_, strict_merged s, eq⟩

theorem exitsWith_of_runs (runs : Runs arguments env clock d s root r) :
    ExitsWith arguments s r (generate arguments env clock d).1.exitCode := by
  obtain ⟨w, strict, eq⟩ := generate_of_runs runs
  rw [eq]
  exact exitsWith_verdict w strict r

theorem stdout_of_runs (runs : Runs arguments env clock d s root r) :
    (generate arguments env clock d).1.stdout =
      match r.result with
      | .error _ => ""
      | .ok outcome => if arguments.dryRun then outcome.artifact else "" := by
  obtain ⟨w, -, eq⟩ := generate_of_runs runs
  rw [eq]
  exact stdout_verdict w r.result

theorem store_of_runs (runs : Runs arguments env clock d s root r) :
    (generate arguments env clock d).2 = r.store := by
  obtain ⟨w, -, eq⟩ := generate_of_runs runs
  rw [eq]

theorem Runs.produces_iff (runs : Runs arguments env clock d s root r) {outcome : Outcome} :
    Produces arguments env clock d outcome ↔ r.result = .ok outcome :=
  runs.exists_iff fun _ r => r.result = .ok outcome

theorem Runs.stopped (runs : Runs arguments env clock d s root r)
    (noOutcome : ¬ ∃ outcome, Produces arguments env clock d outcome) :
    ∃ stop, r.result = .error stop := by
  cases result : r.result with
  | error stop => exact ⟨stop, rfl⟩
  | ok outcome => exact absurd ⟨outcome, runs.produces_iff.mpr result⟩ noOutcome

end

theorem Refused.not_produces {code : Nat} {message : String} {outcome : Outcome}
    (refused : Refused arguments env d code message) :
    ¬ Produces arguments env clock d outcome := by
  rintro ⟨s, root, r, runs, -⟩
  exact refused.not_runs runs

/-- Settings that are not settings, or are not sound, end a call with the code 2. -/
theorem exitCode_eq_two_iff :
    (generate arguments env clock d).1.exitCode = some 2 ↔
      (∃ error, finding arguments env d = .unparsed error) ∨
        ∃ s root, finding arguments env d = .given s root ∧
          (s.problems ≠ [] ∨ (merged arguments env s).problems ≠ []) := by
  rcases generate_cases arguments env clock d with
    ⟨code, message, refused, -⟩ | ⟨s, root, r, runs, -⟩
  · rw [generate_of_refused refused, Option.some.injEq]
    exact refused.code_eq_two_iff
  · -- neither is the code 2, nor is there a reason for it
    apply iff_of_false
    · have ends := exitsWith_of_runs runs
      generalize (generate arguments env clock d).1.exitCode = code at ends
      cases ends <;> simp
    · rintro (⟨error, unparsed⟩ | ⟨s', root', given, unsound⟩)
      · exact Finding.noConfusion (unparsed.symm.trans runs.found)
      · obtain ⟨rfl, rfl⟩ := Finding.given.inj (given.symm.trans runs.found)
        rcases unsound with unsound | unsound
        · exact unsound runs.sound
        · exact unsound runs.soundMerged

/-- A settings file that cannot be read and a run that fails end a call with the code 1. -/
theorem exitCode_eq_one_iff :
    (generate arguments env clock d).1.exitCode = some 1 ↔
      (∃ failure, finding arguments env d = .unreadable failure) ∨
        ∃ s root r, Runs arguments env clock d s root r ∧ Fails arguments s r := by
  rcases generate_cases arguments env clock d with
    ⟨code, message, refused, -⟩ | ⟨s, root, r, runs, -⟩
  · rw [generate_of_refused refused, Option.some.injEq, or_iff_left]
    · exact refused.code_eq_one_iff
    · rintro ⟨s, root, r, runs, -⟩
      exact refused.not_runs runs
  · rw [runs.exists_iff (Fails arguments), or_iff_right (by simp [runs.found])]
    have ends := exitsWith_of_runs runs
    generalize (generate arguments env clock d).1.exitCode = code at ends
    cases ends <;> simp [*]

/-- A run that breaks off is the end of a call without an exit code. -/
theorem exitCode_eq_none_iff :
    (generate arguments env clock d).1.exitCode = none ↔
      ∃ s root r, Runs arguments env clock d s root r ∧ CutShort r := by
  rcases generate_cases arguments env clock d with
    ⟨code, message, refused, -⟩ | ⟨s, root, r, runs, -⟩
  · rw [generate_of_refused refused]
    apply iff_of_false (by simp)
    rintro ⟨s, root, r, runs, -⟩
    exact refused.not_runs runs
  · rw [runs.exists_iff fun _ r => CutShort r]
    have ends := exitsWith_of_runs runs
    generalize (generate arguments env clock d).1.exitCode = code at ends
    cases ends <;> simp [*]

theorem exitCode_eq_zero (notTwo : (generate arguments env clock d).1.exitCode ≠ some 2)
    (notOne : (generate arguments env clock d).1.exitCode ≠ some 1)
    (hasCode : (generate arguments env clock d).1.exitCode ≠ none) :
    (generate arguments env clock d).1.exitCode = some 0 := by
  rcases generate_cases arguments env clock d with
    ⟨code, message, refused, -⟩ | ⟨s, root, r, runs, -⟩
  · rw [generate_of_refused refused] at notTwo notOne
    cases refused <;> contradiction
  · have ends := exitsWith_of_runs runs
    generalize (generate arguments env clock d).1.exitCode = code at *
    cases ends <;> simp_all

/-- A call that breaks off has changed and printed nothing, and there is a text that begins with two
byte order marks. -/
theorem generate_cutShort (broken : (generate arguments env clock d).1.exitCode = none) :
    (generate arguments env clock d).2 = d ∧ (generate arguments env clock d).1.stdout = "" ∧
      ∃ path text, FileStore.readText d path = .ok text ∧
        [byteOrderMark, byteOrderMark] <+: text.toList := by
  obtain ⟨s, root, r, runs, crash, breaks⟩ := exitCode_eq_none_iff.mp broken
  rw [store_of_runs runs, stdout_of_runs runs, breaks]
  rw [runs.eq] at breaks ⊢
  obtain ⟨source, crashes⟩ := Generation.exists_crashesAt breaks
  exact ⟨Generation.store_of_crash breaks, rfl, source.path, crashes.marks⟩

/-- A dry run changes nothing, and the module is all that it prints. -/
theorem generate_dry (dry : arguments.dryRun = true) :
    (generate arguments env clock d).2 = d ∧
      (∀ outcome, Produces arguments env clock d outcome →
        (generate arguments env clock d).1.stdout = outcome.artifact) ∧
      ((¬ ∃ outcome, Produces arguments env clock d outcome) →
        (generate arguments env clock d).1.stdout = "") := by
  rcases generate_cases arguments env clock d with
    ⟨code, message, refused, -⟩ | ⟨s, root, r, runs, -⟩
  · rw [generate_of_refused refused]
    exact ⟨rfl, fun outcome produced => absurd produced refused.not_produces, fun _ => rfl⟩
  · rw [store_of_runs runs, stdout_of_runs runs]
    refine ⟨?_, ?_, ?_⟩
    · rw [runs.eq]
      exact Generation.store_of_dry dry d
    · intro outcome produced
      rw [runs.produces_iff.mp produced]
      exact if_pos dry
    · intro noOutcome
      obtain ⟨stop, isStopped⟩ := runs.stopped noOutcome
      rw [isStopped]

/-- Any other call prints nothing. It writes the module and no other file, or no file. -/
theorem generate_real (wf : d.WellFormed) (real : arguments.dryRun = false) :
    (generate arguments env clock d).1.stdout = "" ∧
      (∀ outcome, Produces arguments env clock d outcome →
        d.Wrote (generate arguments env clock d).2 outcome.outputPath outcome.artifact) ∧
      ((¬ ∃ outcome, Produces arguments env clock d outcome) →
        d.SameFiles (generate arguments env clock d).2) := by
  rcases generate_cases arguments env clock d with
    ⟨code, message, refused, -⟩ | ⟨s, root, r, runs, -⟩
  · rw [generate_of_refused refused]
    exact ⟨rfl, fun outcome produced => absurd produced refused.not_produces, fun _ => .refl d⟩
  · rw [store_of_runs runs, stdout_of_runs runs, real]
    refine ⟨?_, ?_, ?_⟩
    · cases r.result <;> rfl
    · intro outcome produced
      have ok := runs.produces_iff.mp produced
      rw [runs.eq] at ok ⊢
      exact Generation.wrote_of_ok wf real ok
    · intro noOutcome
      obtain ⟨stop, isStopped⟩ := runs.stopped noOutcome
      rw [runs.eq] at isStopped ⊢
      cases stop with
      | failure e => exact Generation.sameFiles_of_failure wf isStopped
      | crash crash =>
        rw [Workspace.run, Generation.store_of_crash isStopped]
        exact .refl d

/-- The exit code is 2 if the settings file does not parse, or if its settings, or these with what
the arguments override, are not sound; it is 1 if that file cannot be read, if the run is stopped,
or if icons have failed and an argument or the file says that this counts; there is none if the run
breaks off; otherwise it is 0. A call that is refused for its settings changes nothing, and all that
it says is the notice and why. A dry run changes nothing and prints the module if it is carried out,
whether or not the icons that have failed count then; any other call prints nothing, and has written
the module if its run is carried out, and no file if not. A call that breaks off changes and prints
nothing at all, and only texts that begin with two byte order marks bring that about. -/
theorem generate_exit_and_effects (wf : d.WellFormed) (arguments : GenerateArguments)
    (env : Environment) (clock : Clock) :
    let done := generate arguments env clock d
    let said := notice arguments (settingsFile? arguments env d)
    (done.1.exitCode = some 2 ↔ (∃ error, finding arguments env d = .unparsed error) ∨
      ∃ s root, finding arguments env d = .given s root ∧
        (s.problems ≠ [] ∨ (merged arguments env s).problems ≠ [])) ∧
    (done.1.exitCode = some 1 ↔ (∃ failure, finding arguments env d = .unreadable failure) ∨
      ∃ s root r, Runs arguments env clock d s root r ∧ Fails arguments s r) ∧
    (done.1.exitCode = none ↔ ∃ s root r, Runs arguments env clock d s root r ∧ CutShort r) ∧
    (done.1.exitCode ≠ some 2 → done.1.exitCode ≠ some 1 → done.1.exitCode ≠ none →
      done.1.exitCode = some 0) ∧
    (∀ code message, Refused arguments env d code message →
      done = (⟨some code, "", said ++ message⟩, d)) ∧
    (arguments.dryRun = true → done.2 = d ∧
      (∀ outcome, Produces arguments env clock d outcome → done.1.stdout = outcome.artifact) ∧
      ((¬ ∃ outcome, Produces arguments env clock d outcome) → done.1.stdout = "")) ∧
    (arguments.dryRun = false → done.1.stdout = "" ∧
      (∀ outcome, Produces arguments env clock d outcome →
        d.Wrote done.2 outcome.outputPath outcome.artifact) ∧
      ((¬ ∃ outcome, Produces arguments env clock d outcome) → d.SameFiles done.2)) ∧
    (done.1.exitCode = none → done.2 = d ∧ done.1.stdout = "" ∧
      ∃ path text, FileStore.readText d path = .ok text ∧
        [byteOrderMark, byteOrderMark] <+: text.toList) := by
  intro done said
  refine ⟨exitCode_eq_two_iff, exitCode_eq_one_iff, exitCode_eq_none_iff, exitCode_eq_zero, ?_,
    generate_dry, generate_real wf, generate_cutShort⟩
  intro code message refused
  exact generate_of_refused refused

/-- An icon that is no icon, where that counts: the call fails, and the module is written. With an
icon behind two byte order marks instead, the call breaks off, and nothing is written. -/
theorem generate_strict_over_bad_icon :
    let disk := fun icon : String =>
      (({} : Disk).putDirectory Disk.root "icons").put 1 "x.svg" (.file icon.toUTF8)
    let arguments : GenerateArguments := { strict := true }
    let env : Environment := { workingDirectory := ⟨"/"⟩ }
    let clock : Clock := fun n => 1000000 * n
    (let d := disk "<"
      let done := generate arguments env clock d
      d.WellFormed ∧ done.1.exitCode = some 1 ∧ done.1.stdout = "" ∧
        ∃ outcome, Produces arguments env clock d outcome ∧
          d.Wrote done.2 outcome.outputPath outcome.artifact) ∧
    (let d := disk "\uFEFF\uFEFF<svg>éé</svg>"
      let done := generate arguments env clock d
      d.WellFormed ∧ done.1.exitCode = none ∧ done.2 = d ∧ done.1.stdout = "") := by
  intro disk arguments env clock
  have wf (icon : String) : (disk icon).WellFormed :=
    (Disk.wellFormed_empty.putDirectory (by decide) _).put (by decide) _ (by simp)
  constructor
  · intro d done
    have runs : Runs arguments env clock d {} ⟨"/"⟩ _ :=
      runs_default (by decide +kernel) (by decide +kernel)
    have fails : done.1.exitCode = some 1 := by decide +kernel
    obtain ⟨-, -, -, -, -, -, real, -⟩ := generate_exit_and_effects (wf "<") arguments env clock
    obtain ⟨printed, wrote, -⟩ := real rfl
    refine ⟨wf "<", fails, printed, ?_⟩
    have carriedOut : ((Workspace.ofSettings (merged arguments env {}) ⟨"/"⟩).run
        arguments.dryRun clock d).result.isOk = true := by decide +kernel
    cases result : ((Workspace.ofSettings (merged arguments env {}) ⟨"/"⟩).run
        arguments.dryRun clock d).result with
    | error stop => simp [result, Except.isOk, Except.toBool] at carriedOut
    | ok outcome =>
      have produced : Produces arguments env clock d outcome := ⟨_, _, _, runs, result⟩
      exact ⟨outcome, produced, wrote outcome produced⟩
  · intro d done
    have breaks : done.1.exitCode = none := by decide +kernel
    obtain ⟨-, -, -, -, -, -, -, cutShort⟩ :=
      generate_exit_and_effects (wf "\uFEFF\uFEFF<svg>éé</svg>") arguments env clock
    obtain ⟨same, printed, -⟩ := cutShort breaks
    exact ⟨wf _, breaks, same, printed⟩

/-! ## What programs read -/

theorem stderr_verdict_of_json (json : arguments.json = true) (w : Workspace)
    (result : Except Stop Outcome) : (verdict arguments w result).stderr = "" := by
  cases result with
  | error stop => cases stop <;> rfl
  | ok outcome =>
    rw [verdict, json]
    split <;> rfl

/-- Only if much is to be said, there is a notice, and it begins like a sentence. -/
theorem head?_notice (verbose : arguments.verbose = true) (path : Option Path) (said : String) :
    ∃ c, (notice arguments path ++ said).toList.head? = some c ∧ c ≠ '\x7b' ∧ c ≠ '\n' := by
  cases path with
  | none =>
    have begins : (notice arguments none).toList.head? = some 'N' := by
      rw [notice, if_pos verbose]
      rfl
    exact ⟨'N', head?_toList_append begins said, by decide⟩
  | some path =>
    have begins : (notice arguments (some path)).toList.head? = some 'U' := by
      rw [notice, if_pos verbose]
      exact head?_toList_append (head?_toList_append rfl path.text) "\n"
    exact ⟨'U', head?_toList_append begins said, by decide⟩

/-- For programs, a call that has a run says the notice and then the events of the run. Unless much
is to be said, these are all that is said, line by line and in order; and if much is to be said,
what is said are the lines of no events at all. If the run breaks off, that is what is said before
the words of the runtime, and its last line tells which icon is worked on. -/
theorem generate_says_events {s : Settings} {root : Path} {r : Run Disk}
    (runs : Runs arguments env clock d s root r) (json : arguments.json = true) :
    let done := (generate arguments env clock d).1
    let said := done.stderr
    said = notice arguments (settingsFile? arguments env d) ++ jsonLines r.events ∧
      (arguments.verbose = false → IsLines said (r.events.map Event.json)) ∧
      (arguments.verbose = true →
        ∀ events : List Event, ¬ IsLines said (events.map Event.json)) ∧
      (done.exitCode = none → ∃ before file, r.events = before ++ [.processing file]) := by
  intro done said
  have eq : said = notice arguments (settingsFile? arguments env d) ++ jsonLines r.events := by
    obtain ⟨w, -, eq⟩ := generate_of_runs runs
    have shown : watch arguments env w r.events = jsonLines r.events := if_pos json
    have all : (conclude arguments env w r.result r.events).stderr = jsonLines r.events := by
      rw [conclude, Ending.after, stderr_verdict_of_json json, shown, String.append_empty]
    rw [← all]
    exact congrArg (fun done => done.1.stderr) eq
  refine ⟨eq, ?_, ?_, ?_⟩
  · intro quiet
    have noNotice : notice arguments (settingsFile? arguments env d) = "" := by simp [notice, quiet]
    rw [eq, noNotice, String.empty_append]
    exact isLines_jsonLines r.events
  · intro verbose events
    obtain ⟨c, first, noObject, noNewline⟩ :=
      head?_notice verbose (settingsFile? arguments env d) (jsonLines r.events)
    rw [eq]
    exact not_isLines_json first noObject noNewline events
  · intro broken
    obtain ⟨crash, breaks⟩ := (runs.exists_iff fun _ r => CutShort r).mp
      (exitCode_eq_none_iff.mp broken)
    rw [runs.eq] at breaks ⊢
    exact Generation.exists_last_of_crash breaks

/-- Over one icon, with little to be said and with much. -/
theorem generate_says_more_than_events :
    let d := (({} : Disk).putDirectory Disk.root "icons").put 1 "home.svg"
      (.file "<svg title=\"Home\"/>".toUTF8)
    let env : Environment := { workingDirectory := ⟨"/"⟩ }
    let clock : Clock := fun n => 1000000 * n
    (∃ r, Runs { json := true } env clock d {} ⟨"/"⟩ r ∧
      IsLines (generate { json := true } env clock d).1.stderr (r.events.map Event.json)) ∧
    (∃ r, Runs { json := true, verbose := true } env clock d {} ⟨"/"⟩ r) ∧
    ∀ events : List Event,
      ¬ IsLines (generate { json := true, verbose := true } env clock d).1.stderr
        (events.map Event.json) := by
  intro d env clock
  have quiet : Runs { json := true } env clock d {} ⟨"/"⟩ _ :=
    runs_default (by decide +kernel) (by decide +kernel)
  have verbose : Runs { json := true, verbose := true } env clock d {} ⟨"/"⟩ _ :=
    runs_default (by decide +kernel) (by decide +kernel)
  refine ⟨⟨_, quiet, ?_⟩, ⟨_, verbose⟩, ?_⟩
  · exact (generate_says_events quiet rfl).2.1 rfl
  · exact (generate_says_events verbose rfl).2.2.1 rfl

end Generate

end IconForge.CommandLine
