import IconForge.Proofs.Generation
import IconForge.Proofs.Markup.Cuts

/-!
# What a run tells

Whoever watches a run hears of it in a fixed order: how many icons there are, which entries are left
out, of each icon that it is worked on and how that ended, and at last how the run ended. A run
that is stopped before it has listed its directory only tells that it is stopped. The counts that
the last event gives are those of the events before it, and those of the report.

Only a run that breaks off does not come to its last event. It tells that an icon is worked on, and
nothing after that. The text of such an icon begins with two byte order marks.

## Main statements

- `Tracker.foldl_count`: what counting along with some events comes to.
- `Batch.countP_events`: events and report agree on every kind of entry.
- `Generation.events_follow_protocol`: the order of the events of a run, and its last event.
-/

namespace IconForge

namespace Progress

namespace Event

def isStarted : Event → Bool
  | started .. => true
  | _ => false

def isSucceeded : Event → Bool
  | succeeded .. => true
  | _ => false

def isFailed : Event → Bool
  | failed .. => true
  | _ => false

def isSkipped : Event → Bool
  | skipped .. => true
  | _ => false

/-- The events that end a run. -/
def isFinal : Event → Bool
  | aborted .. | finished .. => true
  | _ => false

end Event

/-! ## Counting along -/

/-- While no run begins, each count grows by the number of its events. -/
theorem Tracker.foldl_count (t : Tracker) {events : List Event}
    (going : ∀ e ∈ events, e.isStarted = false) :
    events.foldl Tracker.count t =
      { t with
        processed := t.processed + events.countP Event.isSucceeded
        failed := t.failed + events.countP Event.isFailed
        skipped := t.skipped + events.countP Event.isSkipped } := by
  induction events generalizing t with
  | nil => rfl
  | cons e events ih =>
    obtain ⟨here, later⟩ := List.forall_mem_cons.mp going
    rw [List.foldl_cons, ih _ later]
    simp only [List.countP_cons]
    cases e with
    | started => simp [Event.isStarted] at here
    | succeeded => simp [Tracker.count, Event.isSucceeded, Event.isFailed, Event.isSkipped]; omega
    | failed => simp [Tracker.count, Event.isSucceeded, Event.isFailed, Event.isSkipped]; omega
    | skipped => simp [Tracker.count, Event.isSucceeded, Event.isFailed, Event.isSkipped]; omega
    | processing | aborted | finished =>
      simp [Tracker.count, Event.isSucceeded, Event.isFailed, Event.isSkipped]

end Progress

open Progress Markup

/-! ## Events of a batch -/

/-- What is told of an icon: that it is worked on, and at once how that ended. -/
inductive Tale (file : String) : List Event → Prop
  | succeeded (identifier : String) (milliseconds : Nat) :
      Tale file [.processing file, .succeeded file identifier milliseconds]
  | failed (error : String) : Tale file [.processing file, .failed file error]

namespace Batch

variable (b : Batch)

theorem tale_iconEvents (source : Source) (r : Except IconError Component) (ms : Nat) :
    Tale source.fileName (iconEvents source r ms) := by
  cases r with
  | ok component => exact .succeeded component.identifier.text ms
  | error e => exact .failed e.message

/-- Each icon has its tale, in the order of the icons. -/
theorem forall₂_tales (took : Nat → Nat) :
    List.Forall₂ (fun (source : Source) tale => Tale source.fileName tale)
      (b.results.map Prod.fst) (b.tales took) := by
  rw [tales, List.forall₂_map_left_iff]
  generalize b.results = results
  induction results generalizing took with
  | nil => exact .nil
  | cons head results ih =>
    rw [List.mapIdx_cons]
    exact .cons (tale_iconEvents head.1 head.2 _) (ih fun i => took (i + 1))

/-- Events of a kind are as many as entries of the report, if the kind and the status agree on each
entry left out and on each icon. -/
theorem countP_events (took : Nat → Nat) (ns : Nat) (kind : Event → Bool) (status : Status → Bool)
    (start : ∀ n, kind (.started n) = false) (begun : ∀ file, kind (.processing file) = false)
    (left : ∀ file reason, kind (.skipped file reason) = status (.skipped reason))
    (icon : ∀ source r ms,
      (iconEvents source r ms).countP kind = if status (statusOf r) then 1 else 0) :
    (b.events took).countP kind = (b.report ns).files.countP fun f => status f.status := by
  have leftOut : (b.skipped.map fun s => Event.skipped s.fileName s.reason.message).countP kind =
      (b.skipped.map fun s => (⟨s.fileName, .skipped s.reason.message⟩ : FileResult)).countP
        fun f => status f.status := by
    simp only [List.countP_map, Function.comp_def, left]
  have icons (results : List (Source × Except IconError Component)) (took : Nat → Nat) :
      (results.mapIdx fun i icon => iconEvents icon.1 icon.2 (took i)).flatten.countP kind =
        (results.map fun icon => (⟨icon.1.fileName, statusOf icon.2⟩ : FileResult)).countP
          fun f => status f.status := by
    induction results generalizing took with
    | nil => rfl
    | cons head results ih =>
      obtain ⟨source, r⟩ := head
      rw [List.mapIdx_cons, List.flatten_cons, List.countP_append, ih fun i => took (i + 1), icon,
        List.map_cons, List.countP_cons, add_comm]
  have broken : (b.crash.toList.map fun found => Event.processing found.1.fileName).countP
      kind = 0 := by
    simp [List.countP_eq_zero, begun]
  rw [events, report, reportOf, List.countP_cons, List.countP_append, List.countP_append,
    List.countP_append, leftOut, tales, icons, broken]
  simp [start]

variable (took : Nat → Nat) (ns : Nat)

theorem countP_isSucceeded :
    (b.events took).countP Event.isSucceeded = (b.report ns).processed :=
  b.countP_events took ns Event.isSucceeded Status.isGenerated (fun _ => rfl) (fun _ => rfl)
    (fun _ _ => rfl) (by rintro source (e | component) ms <;> rfl)

theorem countP_isFailed : (b.events took).countP Event.isFailed = (b.report ns).failed :=
  b.countP_events took ns Event.isFailed Status.isFailed (fun _ => rfl) (fun _ => rfl)
    (fun _ _ => rfl) (by rintro source (e | component) ms <;> rfl)

theorem countP_isSkipped : (b.events took).countP Event.isSkipped = (b.report ns).skipped :=
  b.countP_events took ns Event.isSkipped Status.isSkipped (fun _ => rfl) (fun _ => rfl)
    (fun _ _ => rfl) (by rintro source (e | component) ms <;> rfl)

/-- A batch tells of no end. -/
theorem countP_isFinal : (b.events took).countP Event.isFinal = 0 := by
  rw [b.countP_events took 0 Event.isFinal (fun _ => false) (fun _ => rfl) (fun _ => rfl)
    (fun _ _ => rfl) (by rintro source (e | component) ms <;> rfl)]
  simp

/-- Icons are generated or fail, and nothing else does. -/
theorem processed_add_failed :
    (b.report ns).processed + (b.report ns).failed = b.results.length := by
  have skipped : (b.report ns).skipped = b.skipped.length := by
    have noIcon (results : List (Source × Except IconError Component)) :
        (results.map fun icon => (⟨icon.1.fileName, statusOf icon.2⟩ : FileResult)).countP
          (fun f => f.status.isSkipped) = 0 := by
      rw [List.countP_eq_zero]
      intro f mem
      obtain ⟨⟨source, e | component⟩, -, rfl⟩ := List.mem_map.mp mem <;>
        simp [statusOf, Status.isSkipped]
    simp only [Report.skipped, report, reportOf, List.countP_append, noIcon, Nat.add_zero]
    simp [List.countP_map, Function.comp_def, Status.isSkipped]
  have all := (b.report ns).processed_add_failed_add_skipped
  rw [skipped] at all
  simp only [report, reportOf, List.length_append, List.length_map] at all
  simp only [report, reportOf]
  omega

/-- A batch begins once. -/
theorem not_isStarted_of_mem_tail : ∀ e ∈ (b.events took).tail, e.isStarted = false := by
  intro e mem
  rcases List.mem_append.mp mem with mem | mem
  · rcases List.mem_append.mp mem with mem | mem
    · obtain ⟨s, -, rfl⟩ := List.mem_map.mp mem
      rfl
    · obtain ⟨tale, isTale, mem⟩ := List.mem_flatten.mp mem
      obtain ⟨i, inside, rfl⟩ := List.mem_mapIdx.mp isTale
      generalize b.results[i] = done at mem
      obtain ⟨source, e | component⟩ := done <;>
        (simp only [iconEvents, List.mem_cons, List.not_mem_nil, or_false] at mem
         rcases mem with rfl | rfl <;> rfl)
  · obtain ⟨broken, -, rfl⟩ := List.mem_map.mp mem
    rfl

/-- The event after all others gives the counts of the report. -/
theorem finished_eq (output : Option String) (ms : Nat) :
    b.finished took output ms =
      .finished (b.report ns).processed (b.report ns).failed (b.report ns).skipped output ms := by
  -- the first event starts the counts, and no other one does
  have counted := Tracker.foldl_count (Tracker.start b.total) (b.not_isStarted_of_mem_tail took)
  have start : (b.events took).foldl Tracker.count {} =
      (b.events took).tail.foldl Tracker.count (Tracker.start b.total) := rfl
  have tail (kind : Event → Bool) (none : ∀ n, kind (.started n) = false) :
      (b.events took).countP kind = (b.events took).tail.countP kind := by
    rw [events, List.tail_cons, List.countP_cons_of_neg (by simp [none])]
  rw [finished, start, counted, ← b.countP_isSucceeded took, ← b.countP_isFailed took,
    ← b.countP_isSkipped took, tail Event.isSucceeded fun _ => rfl, tail Event.isFailed fun _ => rfl,
    tail Event.isSkipped fun _ => rfl]
  simp [Tracker.finished, Tracker.start]

end Batch

namespace Generation

variable {σ : Type} [FileStore σ]

/-! ## Events of a run -/

/-- The last event says how a run with a batch has ended: it was stopped, in the words of the error;
or it was not, and then the counts given are those of the events and of the report, and a file is
named if and only if the module has been written into it. A run that breaks off has no last event.
-/
def Ends (d : Discovery) (clock : Clock) (store : σ) (r : Run σ) (final : Event) : Prop :=
  match r.result with
  | .error (.failure e) => final = .aborted e.message
  | .error (.crash _) => False
  | .ok outcome =>
    final = .finished outcome.report.processed outcome.report.failed outcome.report.skipped
        (if outcome.written then some outcome.outputPath.text else none)
        (Text.milliseconds (clock 1) (clock (2 * d.sources.length + 2))) ∧
      r.events.countP Event.isSucceeded = outcome.report.processed ∧
      r.events.countP Event.isFailed = outcome.report.failed ∧
      r.events.countP Event.isSkipped = outcome.report.skipped ∧
      outcome.report.processed + outcome.report.failed = d.sources.length ∧
      if outcome.written then
        ∃ prepared, FileStore.writeText prepared outcome.outputPath outcome.artifact =
          (.ok (), r.store)
      else r.store = store

/-- What is told of the entries of a divided listing that are left out, in the order of the
listing. -/
def tellsSkipped (d : Discovery) : List Event :=
  d.skipped.map fun s => .skipped s.fileName s.reason.message

/-- What is told of a run over a divided listing: the number of icons, the entries left out and the
tales of the icons, both in the order of the listing, and one last event. -/
structure Told (d : Discovery) (clock : Clock) (store : σ) (r : Run σ) (tales : List (List Event))
    (final : Event) : Prop where
  each : List.Forall₂ (fun (source : Source) tale => Tale source.fileName tale) d.sources tales
  order : r.events = .started d.sources.length :: tellsSkipped d ++ tales.flatten ++ [final]
  once : r.events.countP Event.isFinal = 1
  ending : Ends d clock store r final

/-- What is told of a run over a divided listing that breaks off at an icon: the number of icons, the
entries left out, the tales of the icons before this one, and that this one is worked on. That is
all, and nothing is written. -/
structure BreaksOff (d : Discovery) (store : σ) (r : Run σ) (before : List Source) (broken : Source)
    (later : List Source) (tales : List (List Event)) (crash : Crash) : Prop where
  sources : d.sources = before ++ broken :: later
  each : List.Forall₂ (fun (source : Source) tale => Tale source.fileName tale) before tales
  order : r.events = .started d.sources.length :: tellsSkipped d ++ tales.flatten ++
    [.processing broken.fileName]
  none : r.events.countP Event.isFinal = 0
  result : r.result = .error (.crash crash)
  unchanged : r.store = store

/-- The program breaks off at an icon that can be read, at a cut in its text. -/
def CrashesAt (store : σ) (source : Source) (crash : Crash) : Prop :=
  ∃ text, FileStore.readText store source.path = .ok text ∧
    Document.read text = .error (.crashed crash)

/-- It only does so behind two byte order marks. -/
theorem CrashesAt.marks {store : σ} {source : Source} {crash : Crash}
    (crashes : CrashesAt store source crash) :
    ∃ text, FileStore.readText store source.path = .ok text ∧
      [byteOrderMark, byteOrderMark] <+: text.toList := by
  obtain ⟨text, isRead, crashed⟩ := crashes
  refine ⟨text, isRead, ?_⟩
  by_contra single
  exact Document.ofChars_ne_crashed single crash crashed

theorem crashesAt_iff {store : σ} {source : Source} {crash : Crash} :
    CrashesAt store source crash ↔
      readIcon (FileStore.readText store source.path) = .error crash :=
  readIcon_eq_error_iff.symm

section

variable {g : Generation} {store : σ} {d : Discovery}

/-- The program works on a batch to its end if it breaks off at none of its icons. -/
theorem crash_batchOf_eq_none_iff :
    (g.batchOf store d).crash = none ↔ ∀ source ∈ d.sources, ∀ crash,
      ¬ CrashesAt store source crash := by
  rw [batchOf, Batch.ofContents, readAll_snd_eq_none_iff]
  simp only [List.forall_mem_map, crashesAt_iff, ne_eq]

/-- If the program breaks off at an icon of a batch, it is the first one at which it does, and the
icons before it have their results. -/
theorem sources_batchOf_of_crash {broken : Source} {crash : Crash}
    (breaks : (g.batchOf store d).crash = some (broken, crash)) :
    CrashesAt store broken crash ∧ ∃ before later, d.sources = before ++ broken :: later ∧
      (∀ source ∈ before, ∀ crash, ¬ CrashesAt store source crash) ∧
      (g.batchOf store d).results.map Prod.fst = before := by
  rw [batchOf, Batch.ofContents] at breaks ⊢
  obtain ⟨before, given, later, parts, none, isCrash, same⟩ := readAll_of_crash breaks
  obtain ⟨first, rest, sources, rfl, eq⟩ := List.map_eq_append_iff.mp parts
  obtain ⟨source, later, rfl, here, -⟩ := List.map_eq_cons_iff.mp eq
  obtain ⟨rfl, rfl⟩ := Prod.mk.inj here
  refine ⟨crashesAt_iff.mpr isCrash, first, later, sources, ?_, ?_⟩
  · intro source mem crash
    rw [crashesAt_iff]
    exact none (source, _) (List.mem_map_of_mem mem) crash
  · rw [map_fst_processAll, same, List.map_map]
    exact List.map_id _

/-- A run that breaks off does so at an icon that it has found. -/
theorem exists_crashesAt {input output : Path} {clock : Clock} {crash : Crash}
    (broken : (g.run input output clock store).result = .error (.crash crash)) :
    ∃ source, CrashesAt store source crash := by
  obtain ⟨b, source, batched, breaks⟩ := result_eq_crash_iff.mp broken
  obtain ⟨-, excludes, names, -, -, rfl⟩ := batch_eq_ok_iff.mp batched
  exact ⟨source, (sources_batchOf_of_crash breaks).1⟩

/-- The last that it tells is that this icon is worked on. -/
theorem exists_last_of_crash {input output : Path} {clock : Clock} {crash : Crash}
    (broken : (g.run input output clock store).result = .error (.crash crash)) :
    ∃ before file, (g.run input output clock store).events = before ++ [.processing file] := by
  obtain ⟨b, source, batched, breaks⟩ := result_eq_crash_iff.mp broken
  refine ⟨.started b.total :: (b.skipped.map (fun s => .skipped s.fileName s.reason.message) ++
    (b.tales (iconTime clock)).flatten), source.fileName, ?_⟩
  rw [run_of_crash batched breaks]
  simp [Batch.events, breaks]

/-- The number of icons in a batch is that of the divided listing. -/
theorem total_batchOf : (g.batchOf store d).total = d.sources.length := by
  simp [batchOf, Batch.ofContents]

end

omit [FileStore σ] in
/-- The events at the end of a run with a batch, for what became of writing its module. -/
theorem close_events (g : Generation) (output : Path) (clock : Clock) (b : Batch)
    (persisted : Except GenerationError Unit) (after : σ) :
    ∃ final, (g.close output clock b persisted after).events =
        b.events (iconTime clock) ++ [final] ∧
      final.isFinal = true ∧
      match persisted with
      | .error e => final = .aborted e.message
      | .ok _ =>
        final = b.finished (iconTime clock)
          (if g.dryRun then none else some (g.outputPath output).text)
          (Text.milliseconds (clock 1) (clock (2 * b.results.length + 2))) := by
  cases persisted with
  | error e => exact ⟨.aborted e.message, rfl, rfl, rfl⟩
  | ok _ =>
    refine ⟨_, rfl, ?_, rfl⟩
    rw [b.finished_eq _ 0]
    rfl

/-- What has to hold of a store when its module has been dealt with: a dry run has left it alone,
and any other has written the module. -/
def Persisted (g : Generation) (output : Path) (b : Batch) (store after : σ) : Prop :=
  if g.dryRun then after = store
  else
    ∃ prepared, FileStore.writeText prepared (g.outputPath output)
      (b.artifact g.options.format) = (.ok (), after)

/-- What is told of a run over a divided listing that does not break off, whatever has become of
writing the module. -/
theorem told_close {g : Generation} {output : Path} {clock : Clock} {store after : σ}
    {d : Discovery} {persisted : Except GenerationError Unit}
    (whole : (g.batchOf store d).crash = none)
    (done : persisted = .ok () → g.Persisted output (g.batchOf store d) store after) :
    ∃ tales final, Told d clock store (g.close output clock (g.batchOf store d) persisted after)
      tales final := by
  have sources := sources_batchOf whole
  have total : (g.batchOf store d).total = d.sources.length := total_batchOf
  have left : (g.batchOf store d).skipped = d.skipped := rfl
  generalize g.batchOf store d = b at *
  obtain ⟨final, events, isFinal, last⟩ := g.close_events output clock b persisted after
  have many : b.results.length = d.sources.length := by rw [← sources, List.length_map]
  refine ⟨_, final, sources ▸ b.forall₂_tales (iconTime clock), ?order, ?once, ?ending⟩
  case order => simp [events, Batch.events, total, left, whole, tellsSkipped]
  case once =>
    rw [events, List.countP_append, b.countP_isFinal]
    simp [isFinal]
  case ending =>
    -- the last event is none of those that are counted
    have counted (kind : Event → Bool) (other : ∀ e, e.isFinal = true → kind e = false) :
        (g.close output clock b persisted after).events.countP kind =
          (b.events (iconTime clock)).countP kind := by
      rw [events, List.countP_append]
      simp [other final isFinal]
    let ns := clock (2 * b.results.length + 3) - clock 0
    rw [Ends, counted Event.isSucceeded (by rintro ⟨⟩ <;> simp [Event.isFinal, Event.isSucceeded]),
      counted Event.isFailed (by rintro ⟨⟩ <;> simp [Event.isFinal, Event.isFailed]),
      counted Event.isSkipped (by rintro ⟨⟩ <;> simp [Event.isFinal, Event.isSkipped]),
      b.countP_isSucceeded _ ns, b.countP_isFailed _ ns, b.countP_isSkipped _ ns]
    cases persisted with
    | error e => exact last
    | ok _ =>
      refine ⟨?_, rfl, rfl, rfl, by rw [← many, ← b.processed_add_failed ns]; rfl, ?_⟩
      · rw [last, b.finished_eq _ ns, many]
        cases g.dryRun <;> rfl
      · have done := done rfl
        unfold Persisted at done
        cases dry : g.dryRun <;> simpa [dry, close] using done

/-- A run that does not break off comes to its end, and has then dealt with its module. -/
theorem exists_close {g : Generation} {input : Path} {store : σ} {b : Batch} (output : Path)
    (clock : Clock) (batched : g.batch input store = .ok b) (whole : b.crash = none) :
    ∃ persisted after, g.run input output clock store = g.close output clock b persisted after ∧
      (persisted = .ok () → g.Persisted output b store after) := by
  rcases g.run_cases input output clock store with
    ⟨e, failed, -⟩ | ⟨b', batched', ⟨source, crash, broken, -⟩ | ⟨-, course⟩⟩
  · simp [batched] at failed
  · obtain rfl := Except.ok.inj (batched.symm.trans batched')
    simp [whole] at broken
  · obtain rfl := Except.ok.inj (batched.symm.trans batched')
    rcases course with ⟨dry, run⟩ | ⟨real, run⟩
    · exact ⟨_, _, run, fun _ => by simp [Persisted, dry]⟩
    · refine ⟨_, _, run, fun ok => ?_⟩
      obtain ⟨prepared, -, written⟩ := persist_ok ok
      rw [Persisted, real]
      exact ⟨prepared, written⟩

/-- What is told of a run over a divided listing that breaks off at one of its icons. -/
theorem breaksOff_of_crash {g : Generation} {store : σ} {d : Discovery} {broken : Source}
    {crash : Crash} (clock : Clock) (breaks : (g.batchOf store d).crash = some (broken, crash)) :
    ∃ before later tales, (∀ source ∈ before, ∀ crash, ¬ CrashesAt store source crash) ∧
      BreaksOff d store ⟨.error (.crash crash), (g.batchOf store d).events (iconTime clock), store⟩
        before broken later tales crash := by
  obtain ⟨-, before, later, sources, none, first⟩ := sources_batchOf_of_crash breaks
  have total : (g.batchOf store d).total = d.sources.length := total_batchOf
  have left : (g.batchOf store d).skipped = d.skipped := rfl
  generalize g.batchOf store d = b at *
  refine ⟨before, later, _, none, sources, first ▸ b.forall₂_tales (iconTime clock), ?_, ?_, rfl,
    rfl⟩
  · simp [Batch.events, total, left, breaks, tellsSkipped]
  · exact b.countP_isFinal _

/-- The events of a run, whatever its store answers. A run that cannot list its directory tells only
that it is stopped. Any other run lists the entries that are left out and the icons in the order of
the listing. If the program breaks off at none of the icons, it tells of them all and comes to its
end, and so it is if no text begins with two byte order marks. Otherwise it breaks off at the first
of those at which the program does, and tells nothing more. -/
theorem events_follow_protocol (g : Generation) (input output : Path) (clock : Clock) (store : σ) :
    let r := g.run input output clock store
    match g.select input (FileStore.pathExists store input) (FileStore.listFiles store input) with
    | .error e => r.result = .error (.failure e) ∧ r.events = [.aborted e.message]
    | .ok d =>
      (∃ names excludes, FileStore.listFiles store input = .ok names ∧
        compileExcludes g.options.exclude = .ok excludes ∧
        d.skipped.map Skipped.fileName =
          names.filter (fun name => (skipReason? excludes name).isSome) ∧
        d.sources.map Source.fileName =
          names.filter fun name => (skipReason? excludes name).isNone) ∧
      ((∀ source ∈ d.sources, ∀ crash, ¬ CrashesAt store source crash) →
        ∃ tales final, Told d clock store r tales final) ∧
      (∀ source ∈ d.sources, ∀ crash, CrashesAt store source crash →
        ∃ text, FileStore.readText store source.path = .ok text ∧
          [byteOrderMark, byteOrderMark] <+: text.toList) ∧
      ((∃ source ∈ d.sources, ∃ crash, CrashesAt store source crash) →
        ∃ before broken later tales crash, CrashesAt store broken crash ∧
          (∀ source ∈ before, ∀ crash, ¬ CrashesAt store source crash) ∧
          BreaksOff d store r before broken later tales crash) := by
  intro r
  have batched : g.batch input store =
      (g.select input (FileStore.pathExists store input) (FileStore.listFiles store input)).map
        (g.batchOf store) := rfl
  cases selected : g.select input (FileStore.pathExists store input)
      (FileStore.listFiles store input) with
  | error e =>
    rw [selected] at batched
    rcases g.run_cases input output clock store with ⟨e', failed, run⟩ | ⟨b, divided, -⟩
    · obtain rfl : e = e' := Except.error.inj (batched.symm.trans failed)
      have eq : r = .stopped e [] store := run
      rw [eq]
      exact ⟨rfl, rfl⟩
    · simp [batched, Except.map] at divided
  | ok d =>
    rw [selected] at batched
    refine ⟨?listing, ?whole, fun source _ crash crashes => crashes.marks, ?broken⟩
    case listing =>
      obtain ⟨-, excludes, names, compiled, listed, rfl⟩ := select_eq_ok_iff.mp selected
      exact ⟨names, excludes, listed, compiled, map_fileName_discover input names excludes⟩
    case whole =>
      intro none
      have whole : (g.batchOf store d).crash = Option.none := crash_batchOf_eq_none_iff.mpr none
      obtain ⟨persisted, after, eq, done⟩ := exists_close output clock batched whole
      obtain ⟨tales, final, told⟩ := told_close whole done
      exact ⟨tales, final, show Told d clock store (g.run input output clock store) tales final from
        eq ▸ told⟩
    case broken =>
      rintro ⟨source, mem, crash, crashes⟩
      cases breaks : (g.batchOf store d).crash with
      | none => exact absurd crashes (crash_batchOf_eq_none_iff.mp breaks source mem crash)
      | some found =>
        obtain ⟨broken, crash⟩ := found
        obtain ⟨before, later, tales, none, breaksOff⟩ := breaksOff_of_crash clock breaks
        refine ⟨before, broken, later, tales, crash, (sources_batchOf_of_crash breaks).1, none, ?_⟩
        rw [show r = _ from run_of_crash batched breaks]
        exact breaksOff

/-- The icon behind two byte order marks is worked on, and that is the last that is told. -/
theorem events_end_behind_marks :
    let store : MemoryStore := {
      files := [([.name "in", .name "a.svg"], "\uFEFF\uFEFF<svg>éé</svg>")]
      directories := [[.name "in"]] }
    ∀ clock : Clock,
      let r := ({} : Generation).run ⟨"in"⟩ ⟨"out"⟩ clock store
      r.events = [.started 1, .processing "a.svg"] ∧ (∃ crash, r.result = .error (.crash crash)) ∧
        r.store = store := by
  intro store clock r
  have protocol := events_follow_protocol ({} : Generation) ⟨"in"⟩ ⟨"out"⟩ clock store
  have selected : ({} : Generation).select ⟨"in"⟩ (FileStore.pathExists store ⟨"in"⟩)
      (FileStore.listFiles store ⟨"in"⟩) = .ok ⟨[⟨"a.svg", ⟨"in/a.svg"⟩⟩], []⟩ := by cbv
  have crashes : CrashesAt store ⟨"a.svg", ⟨"in/a.svg"⟩⟩ ⟨5, 9⟩ :=
    ⟨"\uFEFF\uFEFF<svg>éé</svg>", by cbv, by decide +kernel⟩
  rw [selected] at protocol
  obtain ⟨-, -, -, broken⟩ := protocol
  obtain ⟨before, icon, later, tales, crash, -, -, told⟩ :=
    broken ⟨_, List.mem_singleton_self _, _, crashes⟩
  -- there is no other icon
  obtain ⟨rfl, here⟩ := List.append_eq_singleton_iff.mp told.sources.symm |>.resolve_right (by simp)
  obtain ⟨rfl, rfl⟩ := List.cons_eq_cons.mp here
  cases told.each
  exact ⟨told.order, ⟨crash, told.result⟩, told.unchanged⟩

end Generation

end IconForge
