import IconForge.CommandLine.Init
import IconForge.Proofs.Interaction
import IconForge.Proofs.Generation.Performance

/-!
# Commands carried out on a disk

A command is carried out request by request. What that comes to is said here in one piece: a run
that is watched is the run on the disk as a store, and what is shown is the text of its events; a
command ends as its parts say, with all that has been said before.

## Main statements

- `Generate.carryOut_shown`: a run that is watched, and the run by itself.
- `generate_eq`, `init_eq`: what the commands come to.
- `onDisk_program`: the program of a command line is one of them.
-/

namespace IconForge.CommandLine

open IconForge.Progress IconForge.Text
open IconForge.Interaction (carryOut carryOut_bind carryOut_now carryOut_onSystem carryOut_say)

theorem carryOut_conduct (clock : Clock) (s : DiskSession) (e : Ending) :
    carryOut clock s e.conduct =
      (e.exitCode, { s with stdout := s.stdout ++ e.stdout, stderr := s.stderr ++ e.stderr }) :=
  rfl

theorem onDisk_eq (program : Interaction (Option Nat)) (clock : Clock) (d : Disk) :
    Ending.onDisk program clock d =
      let done := carryOut clock { disk := d } program
      (⟨done.1, done.2.stdout, done.2.stderr⟩, done.2.disk) := rfl

namespace Generate

/-! ## Watching a run -/

/-- The text of some events, in lines for programs or on a console. -/
def textOf (json : Bool) (c : Console) (events : List Event) : String :=
  if json then jsonLines events else c.reportAll events

theorem textOf_nil (json : Bool) (c : Console) : textOf json c [] = "" := by
  cases json <;> rfl

theorem textOf_cons (json : Bool) (c : Console) (e : Event) (events : List Event) :
    textOf json c (e :: events) =
      (if json then e.jsonLine else (c.report e).2) ++ textOf json (c.report e).1 events := by
  cases json with
  | false => rfl
  | true => simp [textOf, jsonLines, String.join_cons]

/-- A run that is watched comes to what it comes to by itself, and what is shown is the text of its
events. -/
theorem carryOut_shown {α : Type} (clock : Clock) (json : Bool) (c : Console) (s : DiskSession)
    (p : Program RunRequest.Answer α) (events : List Event) :
    let run := Generation.carryOut clock ⟨s.disk, s.readings, events⟩ p
    ∃ new, run.2.events = events ++ new ∧
      carryOut clock s (shown json c p) =
        (run.1, { s with
          disk := run.2.store
          readings := run.2.readings
          stderr := s.stderr ++ textOf json c new }) := by
  -- what has been reported before stays in front of what is reported now
  induction p generalizing c s events with
  | done result =>
    -- nothing more is shown
    refine ⟨[], (List.append_nil events).symm, ?_⟩
    rw [textOf_nil, String.append_empty]
    rfl
  | ask q next ih =>
    cases q with
    | files q =>
      let answered := (FileStore.answer q).run s.disk
      obtain ⟨new, told, eq⟩ := ih answered.1 c { s with disk := answered.2 } events
      refine ⟨new, told, ?_⟩
      rw [shown, carryOut_bind, carryOut_onSystem]
      exact eq
    | now =>
      obtain ⟨new, told, eq⟩ :=
        ih (clock s.readings) c { s with readings := s.readings + 1 } events
      refine ⟨new, told, ?_⟩
      rw [shown, carryOut_bind, carryOut_now]
      exact eq
    | report e =>
      -- the event is shown before the next one is asked for
      let text := if json then e.jsonLine else (c.report e).2
      obtain ⟨new, told, eq⟩ :=
        ih () (c.report e).1 { s with stderr := s.stderr ++ text } (events ++ [e])
      refine ⟨e :: new, by rw [List.append_cons]; exact told, ?_⟩
      rw [shown, carryOut_bind, carryOut_say, textOf_cons, ← String.append_assoc]
      exact eq

/-! ## The command -/

variable (arguments : GenerateArguments) (env : Environment)

/-- What is shown of the events of a run. -/
def watch (w : Workspace) (events : List Event) : String :=
  textOf arguments.json (console env w) events

/-- The end of the program after a run with these events, or with it, if it breaks off. -/
def conclude (w : Workspace) (result : Except Stop Outcome) (events : List Event) : Ending :=
  (verdict arguments w result).after (watch arguments env w events)

/-- A run that is watched on a disk, and the run by itself. -/
theorem carryOut_run (clock : Clock) (d : Disk) (stdout stderr : String) (w : Workspace) :
    let p := (generation arguments w).program w.srcDirectory w.outDirectory
    let run := (generation arguments w).run w.srcDirectory w.outDirectory clock d
    let watched := carryOut clock ⟨d, 0, stdout, stderr⟩
      (shown arguments.json (console env w) p)
    watched.1 = run.result ∧ watched.2.disk = run.store ∧ watched.2.stdout = stdout ∧
      watched.2.stderr = stderr ++ watch arguments env w run.events := by
  intro p run watched
  obtain ⟨events, told, eq⟩ :=
    carryOut_shown clock arguments.json (console env w) ⟨d, 0, stdout, stderr⟩ p []
  -- both are carried out from the first reading, and nothing has been reported before
  have ran : run = _ := (generation arguments w).run_eq_perform ..
  have done : watched = _ := eq
  rw [ran, done]
  exact ⟨rfl, rfl, rfl, congrArg (fun events => stderr ++ watch arguments env w events) told.symm⟩

theorem carryOut_file (clock : Clock) (s : DiskSession) (path : Option Path) :
    carryOut clock s (path.mapM fun path => return (path, ← Interaction.readText path)) =
      (path.map fun path => (path, s.disk.readText path), s) := by
  cases path <;> rfl

end Generate

open Generate in
/-- What a call of `generate` comes to. -/
theorem generate_eq (arguments : GenerateArguments) (env : Environment) (clock : Clock) (d : Disk) :
    generate arguments env clock d =
      let path := settingsPath? arguments env (Settings.locate? d env)
      let said := notice arguments path
      match workspace arguments env (path.map fun path => (path, d.readText path)) with
      | .error ending => (ending.after said, d)
      | .ok w =>
        let run := (generation arguments w).run w.srcDirectory w.outDirectory clock d
        ((conclude arguments env w run.result run.events).after said, run.store) := by
  rw [generate, onDisk_eq, Generate.program, carryOut_bind, Settings.carryOut_locate,
    ← Settings.locate?_eq, carryOut_bind, carryOut_say, carryOut_bind, carryOut_file]
  dsimp only
  cases workspace arguments env
      ((settingsPath? arguments env (Settings.locate? d env)).map fun path =>
        (path, d.readText path)) with
  | error ending => simp [carryOut_conduct, Ending.after]
  | ok w =>
    obtain ⟨result, disk, stdout, stderr⟩ := carryOut_run arguments env clock d ""
      ("" ++ notice arguments (settingsPath? arguments env (Settings.locate? d env))) w
    simp only [carryOut_bind, carryOut_conduct, result, disk, stdout, stderr]
    simp [conclude, Ending.after, String.append_assoc]

theorem onDisk_initProgram (force : Bool) (env : Environment) (clock : Clock) (d : Disk) :
    Ending.onDisk (initProgram force env) clock d =
      let made := Settings.created d env.workingDirectory force
      (initEnding made.1, made.2) := by
  rw [onDisk_eq, initProgram, carryOut_bind, Settings.carryOut_create]
  simp [carryOut_conduct]

/-- What a call of `init` comes to. -/
theorem init_eq (force : Bool) (env : Environment) (d : Disk) :
    init force env d =
      let made := Settings.created d env.workingDirectory force
      (initEnding made.1, made.2) := by
  rw [init, onDisk_initProgram]

/-- The program of a command line, on a disk, with any clock. -/
theorem onDisk_program (command : Command) (env : Environment) (clock : Clock) (d : Disk) :
    Ending.onDisk (program command env) clock d =
      match command with
      | .generate arguments => generate arguments env clock d
      | .init force => init force env d := by
  cases command with
  | generate arguments => exact (generate.eq_1 arguments env clock d).symm
  | init force => exact (onDisk_initProgram force env clock d).trans (init_eq force env d).symm

end IconForge.CommandLine
