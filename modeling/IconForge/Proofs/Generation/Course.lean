import IconForge.Proofs.Generation.Performance
import Mathlib

/-!
# The course of a run

A run can go four ways: it is stopped before there is a batch; it has a batch and breaks off at an
icon of it; it has a batch and writes nothing, because it is a dry run; or it has a batch and writes
its module, which may fail. `run_cases` says so once, with the result, the events and the store that
each way leaves, and `persist_cases` says the same of writing a module.

## Main statements

- `batch_eq_ok_iff`, `batch_error_cases`: when there is a batch, and which, and why there is none.
- `run_cases`, `persist_cases`: the ways that a run and the writing of its module can go.
-/

namespace IconForge.Generation

variable {σ : Type} [FileStore σ] {g : Generation} {input output : Path} {clock : Clock} {store : σ}

/-! ## Batches -/

/-- A directory can be divided if it is there, its patterns can be read and it can be listed. -/
theorem select_eq_ok_iff {isThere : Bool} {listing : Except FileError (List String)}
    {d : Discovery} :
    g.select input isThere listing = .ok d ↔
      isThere = true ∧ ∃ excludes names, compileExcludes g.options.exclude = .ok excludes ∧
        listing = .ok names ∧ d = discover input names excludes := by
  unfold select
  cases isThere with
  | false => simp [throw, throwThe, MonadExceptOf.throw, bind, Except.bind]
  | true =>
    cases compiled : compileExcludes g.options.exclude with
    | error e => simp [Except.mapError, bind, Except.bind]
    | ok excludes =>
      cases listing with
      | error e => simp [Except.mapError, bind, Except.bind]
      | ok names => simp [Except.mapError, bind, Except.bind, pure, Except.pure, eq_comm]

/-- There is a batch if there is a divided listing. -/
theorem batch_eq_ok_iff {b : Batch} :
    g.batch input store = .ok b ↔
      FileStore.pathExists store input = true ∧
        ∃ excludes names, compileExcludes g.options.exclude = .ok excludes ∧
          FileStore.listFiles store input = .ok names ∧
          b = g.batchOf store (discover input names excludes) := by
  rw [batch]
  constructor
  · intro batched
    cases selected : g.select input (FileStore.pathExists store input)
        (FileStore.listFiles store input) with
    | error e => simp [selected, Except.map] at batched
    | ok d =>
      rw [selected] at batched
      obtain ⟨isThere, excludes, names, compiled, listed, rfl⟩ := select_eq_ok_iff.mp selected
      exact ⟨isThere, excludes, names, compiled, listed, (Except.ok.inj batched).symm⟩
  · rintro ⟨isThere, excludes, names, compiled, listed, rfl⟩
    rw [select_eq_ok_iff.mpr ⟨isThere, excludes, names, compiled, listed, rfl⟩]
    rfl

/-- There is no batch because the directory is not there, because one of the patterns cannot be read
or because the directory cannot be listed. -/
theorem batch_error_cases {e : GenerationError} (h : g.batch input store = .error e) :
    e = .inputMissing input ∨
      (∃ error, e = .invalidPattern error ∧ compileExcludes g.options.exclude = .error error) ∨
      ∃ error, e = .unlisted input error ∧ FileStore.listFiles store input = .error error := by
  rw [batch] at h
  unfold select at h
  cases isThere : FileStore.pathExists store input with
  | false =>
    left
    simpa [isThere, throw, throwThe, MonadExceptOf.throw, bind, Except.bind, Except.map, eq_comm]
      using h
  | true =>
    right
    cases compiled : compileExcludes g.options.exclude with
    | error error =>
      left
      refine ⟨error, ?_, rfl⟩
      simpa [isThere, compiled, Except.mapError, bind, Except.bind, Except.map, eq_comm] using h
    | ok excludes =>
      right
      cases listed : FileStore.listFiles store input with
      | error error =>
        refine ⟨error, ?_, rfl⟩
        simpa [isThere, compiled, listed, Except.mapError, bind, Except.bind, Except.map, eq_comm]
          using h
      | ok names =>
        -- nothing is left that could fail
        simp [isThere, compiled, listed, Except.mapError, bind, Except.bind, Except.map, pure,
          Except.pure] at h

/-- The results of a batch are those of its icons and their contents. -/
theorem results_batchOf_congr (g : Generation) {store other : σ} {d e : Discovery}
    (sources : e.sources = d.sources)
    (contents : ∀ source ∈ d.sources,
      FileStore.readText other source.path = FileStore.readText store source.path) :
    (g.batchOf other e).results = (g.batchOf store d).results ∧
      (g.batchOf other e).crash = (g.batchOf store d).crash := by
  have same : e.sources.map (fun source => (source, FileStore.readText other source.path)) =
      d.sources.map fun source => (source, FileStore.readText store source.path) := by
    rw [sources]
    exact List.map_congr_left fun source mem => by rw [contents source mem]
  rw [batchOf, batchOf, same]
  exact ⟨rfl, rfl⟩

/-! ## Runs -/

/-- A run is stopped without a batch, or it has one and breaks off at an icon of it, or it has one
and writes nothing, or it has one and writes its module. -/
theorem run_cases (g : Generation) (input output : Path) (clock : Clock) (store : σ) :
    (∃ e, g.batch input store = .error e ∧
      g.run input output clock store = .stopped e [] store) ∨
    ∃ b, g.batch input store = .ok b ∧
      ((∃ source crash, b.crash = some (source, crash) ∧
        g.run input output clock store =
          ⟨.error (.crash crash), b.events (iconTime clock), store⟩) ∨
      b.crash = none ∧
      ((g.dryRun = true ∧ g.run input output clock store = g.close output clock b (.ok ()) store) ∨
        (g.dryRun = false ∧
          let done := persist output (g.outputPath output) (b.artifact g.options.format) store
          g.run input output clock store = g.close output clock b done.1 done.2))) := by
  rw [run_eq]
  cases g.batch input store with
  | error e => exact Or.inl ⟨e, rfl, rfl⟩
  | ok b =>
    refine Or.inr ⟨b, rfl, ?_⟩
    cases crash : b.crash with
    | some broken => exact Or.inl ⟨broken.1, broken.2, rfl, by simp [crash]⟩
    | none =>
      refine Or.inr ⟨rfl, ?_⟩
      cases dry : g.dryRun with
      | true => exact Or.inl ⟨rfl, by simp [crash, delivered, dry]⟩
      | false => exact Or.inr ⟨rfl, by simp [crash, delivered, dry]⟩

/-- A run that breaks off at an icon has told of the ones before and has written nothing. -/
theorem run_of_crash {b : Batch} {source : Source} {crash : Crash}
    (batched : g.batch input store = .ok b) (broken : b.crash = some (source, crash)) :
    g.run input output clock store =
      ⟨.error (.crash crash), b.events (iconTime clock), store⟩ := by
  simp [run_eq, batched, broken]

/-- A store in which a directory has been prepared: it was there, or it has been made. -/
def Prepared (store : σ) (dir : Path) (prepared : σ) : Prop :=
  (FileStore.pathExists store dir = true ∧ prepared = store) ∨
    (FileStore.pathExists store dir = false ∧
      FileStore.makeDirectories store dir = (.ok (), prepared))

/-- Where making a directory either fails or leaves `made`, a prepared store is the one before or
that one. -/
theorem Prepared.eq_ite {dir : Path} {prepared made : σ} (h : Prepared store dir prepared)
    (making : (∃ e, FileStore.makeDirectories store dir = (.error e, store)) ∨
      FileStore.makeDirectories store dir = (.ok (), made)) :
    prepared = if FileStore.pathExists store dir = true then store else made := by
  rcases h with ⟨isThere, rfl⟩ | ⟨isMissing, done⟩
  · rw [if_pos isThere]
  · rw [if_neg (by simp [isMissing])]
    rcases making with ⟨e, failed⟩ | ok
    · obtain ⟨failed, -⟩ := Prod.mk.inj (done.symm.trans failed)
      contradiction
    · exact (Prod.mk.inj (done.symm.trans ok)).2

/-- A module is not written because its directory cannot be made; or its directory is prepared, and
it is written as far as the store allows. -/
theorem persist_cases (output path : Path) (artifact : String) (store : σ) :
    (∃ e after, FileStore.pathExists store output = false ∧
      FileStore.makeDirectories store output = (.error e, after) ∧
      persist output path artifact store = (.error (.unwritten output e), after)) ∨
    ∃ prepared, Prepared store output prepared ∧
      persist output path artifact store =
        ((FileStore.writeText prepared path artifact).1.mapError (.unwritten path),
          (FileStore.writeText prepared path artifact).2) := by
  unfold persist
  cases isThere : FileStore.pathExists store output with
  | true => exact Or.inr ⟨store, Or.inl ⟨isThere, rfl⟩, by simp⟩
  | false =>
    cases made : FileStore.makeDirectories store output with
    | mk answer after =>
      cases answer with
      | error e => exact Or.inl ⟨e, after, rfl, rfl, by simp⟩
      | ok _ => exact Or.inr ⟨after, Or.inr ⟨isThere, made⟩, by simp⟩

/-- A module that is written is written into a prepared store. -/
theorem persist_ok {path : Path} {artifact : String}
    (h : (persist output path artifact store).1 = .ok ()) :
    ∃ prepared, Prepared store output prepared ∧
      FileStore.writeText prepared path artifact =
        (.ok (), (persist output path artifact store).2) := by
  rcases persist_cases output path artifact store with
    ⟨e, after, -, -, eq⟩ | ⟨prepared, isPrepared, eq⟩
  · simp [eq] at h
  · refine ⟨prepared, isPrepared, ?_⟩
    rw [eq] at h ⊢
    -- the answer of the store is the answer to the run
    cases written : FileStore.writeText prepared path artifact with
    | mk answer after =>
      cases answer with
      | error e => simp [written, Except.mapError] at h
      | ok _ => rfl

/-- Where writing a module fails, the error says what is not written. -/
theorem persist_error {path : Path} {artifact : String} {e : GenerationError}
    (h : (persist output path artifact store).1 = .error e) :
    ∃ place error, e = .unwritten place error := by
  rcases persist_cases output path artifact store with
    ⟨error, after, -, -, eq⟩ | ⟨prepared, -, eq⟩
  · obtain rfl : .unwritten output error = e := by simpa [eq] using h
    exact ⟨output, error, rfl⟩
  · rw [eq] at h
    -- the answer of the store is the answer to the run
    cases written : (FileStore.writeText prepared path artifact).1 with
    | error error =>
      obtain rfl : .unwritten path error = e := by simpa [written, Except.mapError] using h
      exact ⟨path, error, rfl⟩
    | ok _ => simp [written, Except.mapError] at h

/-- What a run with this batch produces, if it is not stopped. -/
def outcomeOf (g : Generation) (output : Path) (clock : Clock) (b : Batch) : Outcome :=
  ⟨b.report (clock (2 * b.results.length + 3) - clock 0), b.artifact g.options.format,
    g.outputPath output, !g.dryRun⟩

/-- A batch has been worked on to its end, and its module has been written, if it was to be. -/
def Writes (g : Generation) (output : Path) (store : σ) (b : Batch) : Prop :=
  b.crash = none ∧ (g.dryRun = true ∨
    (persist output (g.outputPath output) (b.artifact g.options.format) store).1 = .ok ())

omit [FileStore σ] in
theorem result_close (g : Generation) (output : Path) (clock : Clock) (b : Batch)
    (persisted : Except GenerationError Unit) (store : σ) :
    (g.close output clock b persisted store).result =
      (persisted.mapError .failure).map fun _ => g.outcomeOf output clock b := by
  cases persisted <;> rfl

omit [FileStore σ] in
theorem store_close (g : Generation) (output : Path) (clock : Clock) (b : Batch)
    (persisted : Except GenerationError Unit) (store : σ) :
    (g.close output clock b persisted store).store = store := by
  cases persisted <;> rfl

/-- A run is not stopped if it has a batch, does not break off and writes its module. -/
theorem result_eq_ok_iff {outcome : Outcome} :
    (g.run input output clock store).result = .ok outcome ↔
      ∃ b, g.batch input store = .ok b ∧ g.Writes output store b ∧
        outcome = g.outcomeOf output clock b := by
  rcases run_cases g input output clock store with
    ⟨e, failed, run⟩ | ⟨b, batched, ⟨source, crash, broken, run⟩ | ⟨whole, course⟩⟩
  · simp [run, failed, Run.stopped]
  · simp [run, batched, Writes, broken]
  · simp only [batched, Except.ok.injEq, exists_eq_left']
    rcases course with ⟨dry, run⟩ | ⟨real, run⟩
    · simp [run, result_close, Writes, whole, dry, Except.map, Except.mapError, eq_comm]
    · rw [run, result_close, Writes, real]
      -- the answer to the writing decides
      cases (persist output (g.outputPath output) (b.artifact g.options.format) store).1 with
      | error e => simp [Except.map, Except.mapError]
      | ok _ => simp [whole, Except.map, Except.mapError, eq_comm]

/-- A run is stopped if it has no batch, or if its module is to be written and is not. -/
theorem result_eq_failure_iff {e : GenerationError} :
    (g.run input output clock store).result = .error (.failure e) ↔
      g.batch input store = .error e ∨
        ∃ b, g.batch input store = .ok b ∧ b.crash = none ∧ g.dryRun = false ∧
          (persist output (g.outputPath output) (b.artifact g.options.format) store).1 =
            .error e := by
  rcases run_cases g input output clock store with
    ⟨e', failed, run⟩ | ⟨b, batched, ⟨source, crash, broken, run⟩ | ⟨whole, course⟩⟩
  · simp [run, failed, Run.stopped]
  · simp [run, batched, broken]
  · simp only [batched, reduceCtorEq, Except.ok.injEq, exists_eq_left', false_or, whole, true_and]
    rcases course with ⟨dry, run⟩ | ⟨real, run⟩
    · simp [run, result_close, dry, Except.map, Except.mapError]
    · rw [run, result_close, real]
      cases (persist output (g.outputPath output) (b.artifact g.options.format) store).1 with
      | error e' => simp [Except.map, Except.mapError]
      | ok _ => simp [Except.map, Except.mapError]

/-- A run breaks off if it has a batch and breaks off at an icon of it. -/
theorem result_eq_crash_iff {crash : Crash} :
    (g.run input output clock store).result = .error (.crash crash) ↔
      ∃ b source, g.batch input store = .ok b ∧ b.crash = some (source, crash) := by
  rcases run_cases g input output clock store with
    ⟨e', failed, run⟩ | ⟨b, batched, ⟨source, crash', broken, run⟩ | ⟨whole, course⟩⟩
  · simp [run, failed, Run.stopped]
  · simp [run, batched, broken]
  · simp only [batched, Except.ok.injEq, exists_and_left, exists_eq_left', whole, reduceCtorEq]
    -- what is left says why the module is not written, if it is not
    rcases course with ⟨-, run⟩ | ⟨-, run⟩
    · simp [run, result_close, Except.map, Except.mapError]
    · rw [run, result_close]
      cases (persist output (g.outputPath output) (b.artifact g.options.format) store).1 with
      | error e' => simp [Except.map, Except.mapError]
      | ok _ => simp [Except.map, Except.mapError]

/-- A run that has a batch, does not break off and is no dry run leaves the store that the writing
of its module leaves. -/
theorem store_run {b : Batch} (real : g.dryRun = false) (batched : g.batch input store = .ok b)
    (whole : b.crash = none) :
    (g.run input output clock store).store =
      (persist output (g.outputPath output) (b.artifact g.options.format) store).2 := by
  rcases run_cases g input output clock store with
    ⟨e, failed, -⟩ | ⟨b', batched', ⟨source, crash, broken, -⟩ | ⟨-, ⟨dry, -⟩ | ⟨-, run⟩⟩⟩
  · simp [batched] at failed
  · obtain rfl := Except.ok.inj (batched.symm.trans batched')
    simp [whole] at broken
  · simp [real] at dry
  · obtain rfl := Except.ok.inj (batched.symm.trans batched')
    rw [run, store_close]

end IconForge.Generation
