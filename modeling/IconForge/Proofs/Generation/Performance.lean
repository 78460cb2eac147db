import IconForge.Proofs.Batch

/-!
# Runs carried out

A run is carried out step by step. What the steps come to is said here in one piece: a run is
stopped without a batch; or it has one, breaks off at an icon of it or deals with its module, and
closes. From here on a run is no longer taken apart into its steps.

## Main statements

- `carryOut_workOn`: what working on icons in a row comes to.
- `carryOut_produce`: what working on a divided listing comes to.
- `run_eq`: what a run comes to.
-/

namespace IconForge

open IconForge.Progress IconForge.Text

/-- A run that an error stops after some events. -/
def Run.stopped {σ : Type} (e : GenerationError) (events : List Event) (store : σ) : Run σ :=
  ⟨.error (.failure e), events ++ [.aborted e.message], store⟩

namespace Generation

variable {σ : Type} [FileStore σ]

/-! ## The parts of a run in one piece -/

/-- The divided listing of the input directory, if that is there and can be listed. -/
def select (g : Generation) (input : Path) (isThere : Bool)
    (listing : Except FileError (List String)) : Except GenerationError Discovery := do
  if !isThere then throw (.inputMissing input)
  let excludes ← (compileExcludes g.options.exclude).mapError .invalidPattern
  let names ← listing.mapError (.unlisted input)
  return discover input names excludes

/-- The batch of a divided listing, with the contents that a store has for its icons. -/
def batchOf (g : Generation) (store : σ) (d : Discovery) : Batch :=
  .ofContents g.options d.skipped
    (d.sources.map fun source => (source, FileStore.readText store source.path))

def batch (g : Generation) (input : Path) (store : σ) : Except GenerationError Batch :=
  (g.select input (FileStore.pathExists store input) (FileStore.listFiles store input)).map
    (g.batchOf store)

/-- Writes a module, after making the directory if it is not there. -/
def persist (output outputPath : Path) (artifact : String) (store : σ) :
    Except GenerationError Unit × σ :=
  let (made, store) :=
    if FileStore.pathExists store output then (.ok (), store)
    else FileStore.makeDirectories store output
  match made with
  | .error e => (.error (.unwritten output e), store)
  | .ok () =>
    let (written, store) := FileStore.writeText store outputPath artifact
    (written.mapError (.unwritten outputPath), store)

/-- What becomes of a module, unless it is a dry run, and of the store. -/
def delivered (g : Generation) (output : Path) (artifact : String) (store : σ) :
    Except GenerationError Unit × σ :=
  if g.dryRun then (.ok (), store) else persist output (g.outputPath output) artifact store

/-- The milliseconds that the icon with a number takes. -/
def iconTime (clock : Clock) (i : Nat) : Nat :=
  milliseconds (clock (2 * i + 2)) (clock (2 * i + 3))

/-- The end of a run over a batch, for what became of writing its module. -/
def close (g : Generation) (output : Path) (clock : Clock) (b : Batch)
    (persisted : Except GenerationError Unit) (store : σ) : Run σ :=
  let events := b.events (iconTime clock)
  match persisted with
  | .error e => .stopped e events store
  | .ok () =>
    let outputPath := g.outputPath output
    let written := if g.dryRun then none else some outputPath.text
    let ended := 2 * b.results.length + 2
    let report := b.report (clock (ended + 1) - clock 0)
    let finished := b.finished (iconTime clock) written (milliseconds (clock 1) (clock ended))
    ⟨.ok ⟨report, b.artifact g.options.format, outputPath, !g.dryRun⟩, events ++ [finished], store⟩

/-! ## Carrying them out -/

section

variable {α β : Type} (clock : Clock) (s : Session σ)

/-- Carries a part of a run out. -/
def carryOut (p : Part α) : α × Session σ := p.perform (RunRequest.answer clock) s

theorem carryOut_pure (a : α) : carryOut clock s (pure a) = (a, s) := rfl

theorem carryOut_bind (p : Part α) (f : α → Part β) :
    carryOut clock s (p >>= f) =
      carryOut clock (carryOut clock s p).2 (f (carryOut clock s p).1) :=
  Program.perform_bind ..

theorem carryOut_pathExists (path : Path) :
    carryOut clock s (pathExists path) = (FileStore.pathExists s.store path, s) := rfl

theorem carryOut_listFiles (dir : Path) :
    carryOut clock s (listFiles dir) = (FileStore.listFiles s.store dir, s) := rfl

theorem carryOut_readText (path : Path) :
    carryOut clock s (readText path) = (FileStore.readText s.store path, s) := rfl

theorem carryOut_makeDirectories (dir : Path) :
    carryOut clock s (makeDirectories dir) =
      ((FileStore.makeDirectories s.store dir).1,
        { s with store := (FileStore.makeDirectories s.store dir).2 }) := rfl

theorem carryOut_now :
    carryOut clock s now = (clock s.readings, { s with readings := s.readings + 1 }) := rfl

theorem carryOut_report (e : Event) :
    carryOut clock s (report e) = ((), { s with events := s.events ++ [e] }) := rfl

theorem carryOut_tell (t : Tracker) (e : Event) :
    carryOut clock s (tell t e) = (t.count e, { s with events := s.events ++ [e] }) := rfl

theorem carryOut_tellAll (t : Tracker) (events : List Event) :
    carryOut clock s (events.foldlM tell t) =
      (events.foldl Tracker.count t, { s with events := s.events ++ events }) := by
  induction events generalizing t s with
  | nil => simp [carryOut_pure]
  | cons e rest ih =>
    rw [List.foldlM_cons, carryOut_bind, carryOut_tell, ih]
    simp

theorem carryOut_choose (g : Generation) (input : Path) :
    carryOut clock s (g.choose input) =
      (g.select input (FileStore.pathExists s.store input) (FileStore.listFiles s.store input),
        s) := by
  unfold choose select
  rw [carryOut_bind, carryOut_pathExists]
  cases FileStore.pathExists s.store input with
  | false => rfl
  | true =>
    cases compileExcludes g.options.exclude with
    | error e => rfl
    | ok excludes =>
      simp only [Bool.not_true, Bool.false_eq_true, if_false]
      rw [carryOut_bind, carryOut_listFiles]
      cases FileStore.listFiles s.store input <;> rfl

/-- What is told of icons with their results, of which the first one begins at a reading. -/
def toldFrom (clock : Clock) (readings : Nat)
    (results : List (Source × Except IconError Component)) : List Event :=
  (results.mapIdx fun i icon =>
    Batch.iconEvents icon.1 icon.2
      (milliseconds (clock (readings + 2 * i)) (clock (readings + 2 * i + 1)))).flatten

omit [FileStore σ] in
theorem toldFrom_cons (readings : Nat) (icon : Source × Except IconError Component)
    (results : List (Source × Except IconError Component)) :
    toldFrom clock readings (icon :: results) =
      .processing icon.1.fileName ::
        endingOf icon.1 icon.2 (milliseconds (clock readings) (clock (readings + 1))) ::
          toldFrom clock (readings + 2) results := by
  have later (i : Nat) : readings + 2 * (i + 1) = readings + 2 + 2 * i := by omega
  simp [toldFrom, Batch.iconEvents, later]

/-- Working on icons in a row gives their results, up to an icon at which the program breaks off. -/
theorem carryOut_workOn (options : Options) (registry : Registry) (t : Tracker)
    (sources : List Source) :
    let row := readAll (sources.map fun source =>
      (source, FileStore.readText s.store source.path))
    let results := processAll options registry row.1
    let events := toldFrom clock s.readings results ++
      row.2.toList.map fun icon => Event.processing icon.1.fileName
    carryOut clock s (workOn options registry t sources) =
      (match row.2 with
        | some (_, crash) => .error crash
        | none => .ok (results, events.foldl Tracker.count t),
       { s with
          readings := s.readings + 2 * results.length + row.2.toList.length
          events := s.events ++ events }) := by
  -- each icon goes on with the names, the counts and the reading that the one before it leaves
  induction sources generalizing registry t s with
  | nil => simp [workOn, carryOut_pure, readAll, processAll, toldFrom]
  | cons source rest ih =>
    simp only [workOn, carryOut_bind, carryOut_report, carryOut_now, carryOut_readText,
      List.map_cons, readAll, processContent]
    cases readIcon (FileStore.readText s.store source.path) with
    | error crash => simp [carryOut_pure, Except.map, processAll, toldFrom]
    | ok reading =>
      simp only [Except.map, carryOut_bind, carryOut_now, carryOut_tell, ih, carryOut_pure,
        processAll, toldFrom_cons]
      generalize readAll (rest.map fun source =>
        (source, FileStore.readText s.store source.path)) = row
      refine Prod.ext ?result ?session
      -- the events of this icon are counted first, on both sides
      case result => rcases row with ⟨-, - | -⟩ <;> rfl
      case session =>
        simp only [List.length_cons, List.append_assoc, List.cons_append, List.nil_append,
          Session.mk.injEq, true_and, and_true]
        omega

theorem carryOut_write (output outputPath : Path) (artifact : String) :
    carryOut clock s (write output outputPath artifact) =
      ((persist output outputPath artifact s.store).1,
        { s with store := (persist output outputPath artifact s.store).2 }) := by
  unfold write ensureDirectory persist
  rw [carryOut_bind, carryOut_bind, carryOut_pathExists]
  cases FileStore.pathExists s.store output with
  | true => rfl
  | false =>
    simp only [Bool.false_eq_true, if_false, carryOut_makeDirectories]
    rcases FileStore.makeDirectories s.store output with ⟨e | -, made⟩ <;> rfl

theorem carryOut_deliver (g : Generation) (output : Path) (artifact : String) :
    carryOut clock s (g.deliver output artifact) =
      ((g.delivered output artifact s.store).1,
        { s with store := (g.delivered output artifact s.store).2 }) := by
  unfold deliver delivered
  cases g.dryRun with
  | true => rfl
  | false => exact carryOut_write clock s output (g.outputPath output) artifact

theorem carryOut_finish (g : Generation) (output : Path) (start begun : Nat)
    (skipped : List Skipped) (results : List (Source × Except IconError Component))
    (t : Tracker) :
    let artifact := Component.aggregate (componentsOf results) g.options.format
    let done := g.delivered output artifact s.store
    carryOut clock s (g.finish output start begun skipped results t) =
      match done.1 with
      | .error e => (.error (.failure e), { s with store := done.2 })
      | .ok () =>
        let outputPath := g.outputPath output
        let written := if g.dryRun then none else some outputPath.text
        let report := reportOf skipped results (clock (s.readings + 1) - start)
        let finished := t.finished written (milliseconds begun (clock s.readings))
        (.ok ⟨report, artifact, outputPath, !g.dryRun⟩,
          ⟨done.2, s.readings + 2, s.events ++ [finished]⟩) := by
  simp only [finish, carryOut_bind, carryOut_deliver]
  rcases g.delivered output (Component.aggregate (componentsOf results) g.options.format) s.store
    with ⟨e | -, store⟩ <;> rfl

end

/-- The events of a batch, in the order in which they are reported. -/
theorem events_iconTime (b : Batch) (clock : Clock) :
    b.events (iconTime clock) =
      [.started b.total] ++ (b.skipped.map fun s => .skipped s.fileName s.reason.message) ++
        (toldFrom clock 2 b.results ++
          b.crash.toList.map fun icon => .processing icon.1.fileName) := by
  have told : toldFrom clock 2 b.results = (b.tales (iconTime clock)).flatten := by
    simp [toldFrom, Batch.tales, iconTime, Nat.add_comm 2, Nat.add_right_comm _ 2 1]
  simp [Batch.events, told]

/-- What working on a divided listing comes to. -/
theorem carryOut_produce (g : Generation) (output : Path) (clock : Clock) (store : σ)
    (d : Discovery) :
    let b := g.batchOf store d
    let events := b.events (iconTime clock)
    let ended := 2 * b.results.length + 2
    carryOut clock ⟨store, 1, []⟩ (g.produce output (clock 0) d) =
      match b.crash with
      | some (_, crash) => (.error (.crash crash), ⟨store, ended + 1, events⟩)
      | none =>
        let (persisted, store) := g.delivered output (b.artifact g.options.format) store
        match persisted with
        | .error e => (.error (.failure e), ⟨store, ended, events⟩)
        | .ok () =>
          let outputPath := g.outputPath output
          let written := if g.dryRun then none else some outputPath.text
          let report := b.report (clock (ended + 1) - clock 0)
          let finished := b.finished (iconTime clock) written (milliseconds (clock 1) (clock ended))
          (.ok ⟨report, b.artifact g.options.format, outputPath, !g.dryRun⟩,
            ⟨store, ended + 2, events ++ [finished]⟩) := by
  unfold produce
  -- one reading has begun the run, and one more begins the work on its icons
  rw [carryOut_bind, carryOut_now, carryOut_bind, carryOut_tell, carryOut_bind, carryOut_tellAll,
    carryOut_bind, carryOut_workOn]
  simp only [Batch.finished, events_iconTime, batchOf, Batch.ofContents, List.length_map]
  generalize readAll (d.sources.map fun source =>
    (source, FileStore.readText store source.path)) = row
  have readings (n : Nat) : 1 + 1 + 2 * n = 2 * n + 2 := Nat.add_comm ..
  rcases row with ⟨read, _ | ⟨source, crash⟩⟩
  · simp only [carryOut_finish, Option.toList_none, List.length_nil, readings, List.foldl_append]
    rfl
  · simp [carryOut_pure, readings]

/-- A run is its program, carried out from the first reading of the clock. -/
theorem run_eq_perform (g : Generation) (input output : Path) (clock : Clock) (store : σ) :
    g.run input output clock store =
      let done := carryOut clock { store } (g.program input output)
      ⟨done.1, done.2.events, done.2.store⟩ := by
  unfold run
  rfl

/-- What a run comes to. -/
theorem run_eq (g : Generation) (input output : Path) (clock : Clock) (store : σ) :
    g.run input output clock store =
      match g.batch input store with
      | .error e => .stopped e [] store
      | .ok b =>
        match b.crash with
        | some (_, crash) => ⟨.error (.crash crash), b.events (iconTime clock), store⟩
        | none =>
          let (persisted, store) := g.delivered output (b.artifact g.options.format) store
          g.close output clock b persisted store := by
  simp only [run_eq_perform, program, execute, carryOut_bind, carryOut_now, carryOut_choose,
    batch]
  cases g.select input (FileStore.pathExists store input) (FileStore.listFiles store input) with
  | error e => rfl
  | ok d =>
    simp only [Nat.zero_add, carryOut_produce, Except.map]
    cases (g.batchOf store d).crash with
    | some broken => rfl
    | none =>
      -- the answer to the delivery decides what is announced
      dsimp only
      rcases g.delivered output ((g.batchOf store d).artifact g.options.format) store with
        ⟨e | -, store⟩ <;> rfl

end Generation

end IconForge
