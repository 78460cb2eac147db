import IconForge.Proofs.Generation.Time

/-!
# What a dry run foretells

A dry run and a run that writes its module have the same batch, since nothing is written before the
last icon is done. So from the same store both are stopped alike before there is a batch, and both
break off at the same icon, if they do; and with a batch that is worked on to its end the dry run
shows the report and the module of the run that writes, whether that one can be carried out or not.
What a dry run cannot foretell is only whether the module can be written, and how long it all takes.

## Main statements

- `run_of_dry`: what a dry run comes to.
- `Generation.dry_run_foretells`: a dry run against the run that writes.
-/

namespace IconForge

open IconForge.Progress

/-! ## How the events of a run end -/

/-- The event that ends a run with this outcome, for the file written, without the time taken. -/
def Outcome.finished (o : Outcome) (file : Option String) : Event :=
  .finished o.report.processed o.report.failed o.report.skipped file 0

/-- Events of a run that has ended: `told`, none of which ends a run, and one that does. -/
structure EndsWith (events told : List Event) (final : Event) : Prop where
  order : events = told ++ [final]
  going : ∀ e ∈ told, e.isFinal = false
  last : final.isFinal = true

/-- What a batch tells of its icons ends no run. -/
theorem Batch.endsWith_events (b : Batch) (took : Nat → Nat) {final : Event}
    (last : final.isFinal = true) : EndsWith (b.events took ++ [final]) (b.events took) final :=
  ⟨rfl, by simpa using b.countP_isFinal took, last⟩

namespace Generation

variable {σ : Type} [FileStore σ] {g : Generation} {input output : Path} {clock : Clock} {store : σ}

omit [FileStore σ] in
/-- The events of a run that is carried out, for the file written. -/
theorem endsWith_close (g : Generation) (output : Path) (clock : Clock) (b : Batch) (after : σ) :
    let outcome := g.outcomeOf output clock b
    EndsWith (untimed (g.close output clock b (.ok ()) after).events) (b.events fun _ => 0)
      (outcome.finished (if g.dryRun then none else some outcome.outputPath.text)) := by
  intro outcome
  have final : outcome.finished (if g.dryRun then none else some outcome.outputPath.text) =
      b.finished (fun _ => 0) (if g.dryRun then none else some outcome.outputPath.text) 0 :=
    (b.finished_eq _ _ _ _).symm
  have events : untimed (g.close output clock b (.ok ()) after).events =
      (b.events fun _ => 0) ++ [outcome.finished
        (if g.dryRun then none else some outcome.outputPath.text)] := by
    rw [final]
    simp only [close, untimed_append, b.untimed_events, untimed_singleton, b.untimed_finished]
    rfl
  rw [events]
  exact b.endsWith_events _ rfl

omit [FileStore σ] in
/-- The events of a run whose module cannot be written. -/
theorem endsWith_stopped (b : Batch) (clock : Clock) (e : GenerationError) (after : σ) :
    EndsWith (untimed (Run.stopped e (b.events (iconTime clock)) after).events)
      (b.events fun _ => 0) (.aborted e.message) := by
  have events : untimed (Run.stopped e (b.events (iconTime clock)) after).events =
      (b.events fun _ => 0) ++ [.aborted e.message] := by
    simp only [Run.stopped, untimed_append, b.untimed_events]
    rfl
  rw [events]
  exact b.endsWith_events _ rfl

/-! ## Dry runs -/

/-- A dry run is stopped without a batch, or it breaks off at an icon of the batch that it has, or it
is carried out with that. -/
theorem run_of_dry (dry : g.dryRun = true) :
    g.run input output clock store =
      match g.batch input store with
      | .error e => .stopped e [] store
      | .ok b =>
        match b.crash with
        | some (_, crash) => ⟨.error (.crash crash), b.events (iconTime clock), store⟩
        | none => g.close output clock b (.ok ()) store := by
  rcases g.run_cases input output clock store with
    ⟨e, failed, run⟩ | ⟨b, batched, ⟨source, crash, broken, run⟩ | ⟨whole, ⟨-, run⟩ | ⟨real, -⟩⟩⟩
  · rw [run, failed]
  · simp only [run, batched, broken]
  · simp only [run, batched, whole]
  · simp [dry] at real

/-- A dry run writes nothing, so it is never stopped because something cannot be written. -/
theorem result_ne_unwritten_of_dry (dry : g.dryRun = true) (place : Path) (error : FileError) :
    (g.run input output clock store).result ≠ .error (.failure (.unwritten place error)) := by
  intro stopped
  rcases result_eq_failure_iff.mp stopped with failed | ⟨b, -, -, real, -⟩
  · rcases batch_error_cases failed with eq | ⟨_, eq, -⟩ | ⟨_, eq, -⟩ <;> simp at eq
  · exact absurd (dry.symm.trans real) (by simp)

/-- A dry run against a run with the same options that writes its module, both from the same store
and each with its own clock. If that one is not stopped, the dry run has its outcome, and its events
but for the file that the last one names. If that one is stopped because something cannot be
written, the dry run is not stopped; it has the module that could not be written, and the events up
to the last one. In all other cases both are stopped by the same error, or break off alike, after the
same events. The time taken is left out of all this. The dry run itself is never stopped because
something cannot be written, and leaves the store alone. -/
theorem dry_run_foretells (options : Options) (input output : Path) (clock clock' : Clock)
    (store : σ) :
    let real := (Generation.mk options false).run input output clock store
    let dry := (Generation.mk options true).run input output clock' store
    dry.store = store ∧
      (∀ place error, dry.result ≠ .error (.failure (.unwritten place error))) ∧
      match real.result with
      | .ok outcome =>
        outcome.written = true ∧
          dry.result.map Outcome.untimed = .ok { outcome.untimed with written := false } ∧
          ∃ told, EndsWith (untimed real.events) told
              (outcome.finished (some outcome.outputPath.text)) ∧
            EndsWith (untimed dry.events) told (outcome.finished none)
      | .error (.failure (.unwritten place error)) =>
        ∃ outcome told, dry.result = .ok outcome ∧ outcome.written = false ∧
          persist output outcome.outputPath outcome.artifact store =
            (.error (.unwritten place error), real.store) ∧
          EndsWith (untimed real.events) told
            (.aborted (GenerationError.unwritten place error).message) ∧
          EndsWith (untimed dry.events) told (outcome.finished none)
      | .error e => dry.result = .error e ∧ untimed dry.events = untimed real.events := by
  intro real dry
  -- the batch does not depend on whether it is to be written
  have isDry : dry =
      match (Generation.mk options false).batch input store with
      | .error e => .stopped e [] store
      | .ok b =>
        match b.crash with
        | some (_, crash) => ⟨.error (.crash crash), b.events (iconTime clock'), store⟩
        | none => close ⟨options, true⟩ output clock' b (.ok ()) store :=
    run_of_dry rfl
  suffices foretold : dry.store = store ∧ _ from
    ⟨foretold.1, result_ne_unwritten_of_dry rfl, foretold.2⟩
  rcases run_cases ⟨options, false⟩ input output clock store with
    ⟨e, failed, run⟩ | ⟨b, batched, ⟨source, crash, broken, run⟩ | ⟨whole, ⟨absurd, -⟩ | ⟨-, run⟩⟩⟩
  · -- both are stopped without a batch, and not because something cannot be written
    have isReal : real = .stopped e [] store := run
    rw [failed] at isDry
    rw [isReal, isDry]
    refine ⟨rfl, ?_⟩
    rcases batch_error_cases failed with rfl | ⟨error, rfl, -⟩ | ⟨error, rfl, -⟩
    · exact ⟨rfl, rfl⟩
    · exact ⟨rfl, rfl⟩
    · exact ⟨rfl, rfl⟩
  · -- both break off at the same icon
    have isReal : real = ⟨.error (.crash crash), b.events (iconTime clock), store⟩ := run
    simp only [batched, broken] at isDry
    rw [isReal, isDry]
    refine ⟨rfl, rfl, ?_⟩
    rw [b.untimed_events, b.untimed_events]
  · exact Bool.noConfusion absurd
  · simp only [batched, whole] at isDry
    have isReal : real = close ⟨options, false⟩ output clock b _ _ := run
    rw [isReal, isDry]
    refine ⟨rfl, ?_⟩
    have dryEnds := endsWith_close ⟨options, true⟩ output clock' b store
    cases persisted : persist output (outputPath ⟨options, false⟩ output)
        (b.artifact options.format) store with
    | mk answer after =>
      cases answer with
      | ok _ =>
        -- both are carried out, and only one of them names a file
        exact ⟨rfl, rfl, _, endsWith_close ⟨options, false⟩ output clock b after, dryEnds⟩
      | error e =>
        obtain ⟨place, error, rfl⟩ := persist_error (by rw [persisted])
        exact ⟨outcomeOf ⟨options, true⟩ output clock' b, _, rfl, rfl, persisted,
          endsWith_stopped b clock _ after, dryEnds⟩

end Generation

end IconForge
