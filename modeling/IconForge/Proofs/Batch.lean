import IconForge.Generation
import IconForge.Proofs.Registry

/-!
# Batches

A batch is the divided listing of a directory with what becomes of each icon in it, written down in
one piece: a component, or the reason why there is none. An icon at which the program breaks off is
the end of its batch. The report, the module and the events of a run can be read off its batch.

Here they are set against each other: every entry is in the report once, every icon that got a
component is in the module once, and no two components share a name.

## Main statements

- `readIcon_eq_ok_iff`, `readIcon_eq_error_iff`: which document an icon has, and when the program
  breaks off.
- `renderIcon_cases`: what becomes of one icon, and what that does to the names.
- `map_fst_readAll`, `readAll_of_crash`: icons in a row all have their readings, or one of them is
  the end of the row.
- `nodup_processAll`: the names of the components are pairwise different.
- `Batch.generated_components`: the generated entries of the report and the components agree, one by
  one and in order.
-/

namespace IconForge

open IconForge.Markup IconForge.Progress

/-! ## Batches -/

/-- The documents of icons in a row, and the icon at which the program breaks off, if there is one.
Those after it are not looked at. -/
def readAll : List (Source × Except FileError String) →
    List (Source × Except IconError Document) × Option (Source × Crash)
  | [] => ([], none)
  | (source, given) :: rest =>
    match readIcon given with
    | .error crash => ([], some (source, crash))
    | .ok reading => ((source, reading) :: (readAll rest).1, (readAll rest).2)

/-- The components of icons in a row. -/
def processAll (options : Options) (registry : Registry) :
    List (Source × Except IconError Document) → List (Source × Except IconError Component)
  | [] => []
  | (source, reading) :: rest =>
    let (result, registry) := renderIcon options registry source.stem reading
    (source, result) :: processAll options registry rest

/-- A divided listing and what becomes of the icons in it. -/
structure Batch where
  /-- The number of icons in the listing. -/
  total : Nat
  skipped : List Skipped
  results : List (Source × Except IconError Component)
  /-- The icon at which the program breaks off. -/
  crash : Option (Source × Crash) := none

namespace Batch

/-- The batch of a divided listing, with the contents of the icons in it. -/
def ofContents (options : Options) (skipped : List Skipped)
    (contents : List (Source × Except FileError String)) : Batch where
  total := contents.length
  skipped := skipped
  results := processAll options .empty (readAll contents).1
  crash := (readAll contents).2

def components (b : Batch) : List Component := componentsOf b.results

def artifact (b : Batch) (format : OutputFormat) : String := Component.aggregate b.components format

def report (b : Batch) (nanoseconds : Nat) : Report := reportOf b.skipped b.results nanoseconds

/-- What is told of an icon that takes so long. -/
def iconEvents (source : Source) (r : Except IconError Component) (milliseconds : Nat) :
    List Event :=
  [.processing source.fileName, endingOf source r milliseconds]

/-- What is told of the icons, of which the one with the number `i` takes `took i` milliseconds. -/
def tales (b : Batch) (took : Nat → Nat) : List (List Event) :=
  b.results.mapIdx fun i icon => iconEvents icon.1 icon.2 (took i)

/-- The events up to the end of the last icon, or up to the icon at which the program breaks off. -/
def events (b : Batch) (took : Nat → Nat) : List Event :=
  .started b.total ::
    ((b.skipped.map fun s => .skipped s.fileName s.reason.message) ++ (b.tales took).flatten ++
      b.crash.toList.map fun icon => .processing icon.1.fileName)

/-- The event after all others, for the file written. -/
def finished (b : Batch) (took : Nat → Nat) (output : Option String) (milliseconds : Nat) : Event :=
  ((b.events took).foldl Tracker.count {}).finished output milliseconds

end Batch

/-! ## One icon -/

/-- An icon has the document that its text holds, if it can be read. -/
theorem readIcon_eq_ok_iff {given : Except FileError String} {doc : Document} :
    readIcon given = .ok (.ok doc) ↔ ∃ text, given = .ok text ∧ Document.read text = .ok doc := by
  cases given with
  | error e => simp [readIcon]
  | ok text =>
    simp only [readIcon, Except.ok.injEq, exists_eq_left']
    rcases Document.read text with (e | crash) | doc' <;> simp

/-- The program breaks off at an icon if it breaks off reading its text. -/
theorem readIcon_eq_error_iff {given : Except FileError String} {crash : Crash} :
    readIcon given = .error crash ↔
      ∃ text, given = .ok text ∧ Document.read text = .error (.crashed crash) := by
  cases given with
  | error e => simp [readIcon]
  | ok text =>
    simp only [readIcon, Except.ok.injEq, exists_eq_left']
    rcases Document.read text with (e | crash') | doc <;> simp

/-- An icon without a document fails; any other fails because it gets no name, or it becomes the
component of its document. Only naming reaches the registry. -/
theorem renderIcon_cases (options : Options) (r : Registry) (stem : String)
    (reading : Except IconError Document) :
    (∃ e, reading = .error e ∧ renderIcon options r stem reading = (.error e, r)) ∨
    ∃ doc, reading = .ok doc ∧
      let attrs := IconAttributes.ofDocument doc options.sizes
      let named := r.synthesize attrs.title stem options.naming
      ((∃ e, named.1 = .error e ∧
        renderIcon options r stem reading = (.error (.unnamed e), named.2)) ∨
      ∃ id, named.1 = .ok id ∧ renderIcon options r stem reading =
        (.ok (Component.render id attrs doc.inner options.format), named.2)) := by
  cases reading with
  | error e => exact Or.inl ⟨e, rfl, rfl⟩
  | ok doc =>
    refine Or.inr ⟨doc, rfl, ?_⟩
    simp only [renderIcon]
    rcases r.synthesize (IconAttributes.ofDocument doc options.sizes).title stem
      options.naming with ⟨e | id, r'⟩
    · exact Or.inl ⟨e, rfl, rfl⟩
    · exact Or.inr ⟨id, rfl, rfl⟩

/-- An icon keeps the names apart; its component has the name that it added, and without a component
it adds none. -/
theorem renderIcon_names {r : Registry} (sound : r.Sound) (options : Options) (stem : String)
    (reading : Except IconError Document) :
    let done := renderIcon options r stem reading
    done.2.Sound ∧ done.2.identifiers =
      r.identifiers ++ (done.1.toOption.map Component.identifier).toList := by
  rcases renderIcon_cases options r stem reading with
    ⟨e, -, eq⟩ | ⟨doc, -, ⟨e, answer, eq⟩ | ⟨id, answer, eq⟩⟩
  · rw [eq]
    exact ⟨sound, by simp [Except.toOption]⟩
  · obtain ⟨next, -, step⟩ := Registry.synthesize_error answer
    rw [eq]
    exact ⟨sound.synthesize .., by simp [Except.toOption, step]⟩
  · obtain ⟨-, -, next, -, step⟩ := Registry.synthesize_ok answer
    rw [eq]
    exact ⟨sound.synthesize .., by
      simp [Except.toOption, step, Registry.register, Component.render]⟩

/-! ## Reading icons in a row -/

section

variable {contents : List (Source × Except FileError String)}

/-- A reading in a row is that of an icon in the row. -/
theorem exists_of_mem_readAll {source : Source} {reading : Except IconError Document}
    (mem : (source, reading) ∈ (readAll contents).1) :
    ∃ given, (source, given) ∈ contents ∧ readIcon given = .ok reading := by
  fun_induction readAll contents with
  | case1 | case2 => simp at mem
  | case3 source' given rest reading' read ih =>
    rcases List.mem_cons.mp mem with here | later
    · obtain ⟨rfl, rfl⟩ := Prod.mk.inj here
      exact ⟨given, List.mem_cons_self, read⟩
    · obtain ⟨given, mem, isRead⟩ := ih later
      exact ⟨given, List.mem_cons_of_mem _ mem, isRead⟩

/-- The program does not break off if it breaks off at no icon of the row. -/
theorem readAll_snd_eq_none_iff :
    (readAll contents).2 = none ↔ ∀ x ∈ contents, ∀ crash, readIcon x.2 ≠ .error crash := by
  fun_induction readAll contents with
  | case1 => simp
  | case2 source given rest crash read => simp [read]
  | case3 source given rest reading read ih => simp [read, ih]

/-- If the program does not break off, every icon of a row has its reading. -/
theorem map_fst_readAll (whole : (readAll contents).2 = none) :
    (readAll contents).1.map Prod.fst = contents.map Prod.fst := by
  fun_induction readAll contents with
  | case1 => rfl
  | case2 => simp at whole
  | case3 source given rest reading read ih => rw [List.map_cons, List.map_cons, ih whole]

/-- If the program breaks off at an icon of a row, it is the first one at which it does, and the
icons before it have their readings. -/
theorem readAll_of_crash {source : Source} {crash : Crash}
    (broken : (readAll contents).2 = some (source, crash)) :
    ∃ before given later, contents = before ++ (source, given) :: later ∧
      (∀ x ∈ before, ∀ crash, readIcon x.2 ≠ .error crash) ∧ readIcon given = .error crash ∧
      (readAll contents).1.map Prod.fst = before.map Prod.fst := by
  fun_induction readAll contents with
  | case1 => simp at broken
  | case2 source' given rest crash' read =>
    obtain ⟨rfl, rfl⟩ := Prod.mk.inj (Option.some.inj broken)
    exact ⟨[], given, rest, rfl, by simp, read, rfl⟩
  | case3 source' given' rest reading read ih =>
    obtain ⟨before, given, later, rfl, none, breaks, same⟩ := ih broken
    exact ⟨(source', given') :: before, given, later, rfl, by simpa [read] using none, breaks,
      by rw [List.map_cons, List.map_cons, same]⟩

end

/-! ## Icons in a row -/

variable {options : Options} {readings : List (Source × Except IconError Document)}

theorem processAll_cons (options : Options) (r : Registry) (source : Source)
    (reading : Except IconError Document) (rest : List (Source × Except IconError Document)) :
    processAll options r ((source, reading) :: rest) =
      (source, (renderIcon options r source.stem reading).1) ::
        processAll options (renderIcon options r source.stem reading).2 rest := rfl

/-- Every icon has one result, in the order of the icons. -/
theorem map_fst_processAll (options : Options) (r : Registry)
    (readings : List (Source × Except IconError Document)) :
    (processAll options r readings).map Prod.fst = readings.map Prod.fst := by
  induction readings generalizing r with
  | nil => rfl
  | cons head rest ih =>
    obtain ⟨source, reading⟩ := head
    rw [processAll_cons, List.map_cons, List.map_cons, ih]

/-- A component is the rendering, under its name, of the document that its icon holds. -/
theorem mem_processAll_ok {r : Registry} {source : Source} {c : Component}
    (mem : (source, .ok c) ∈ processAll options r readings) :
    ∃ doc, (source, .ok doc) ∈ readings ∧
      c = Component.render c.identifier (IconAttributes.ofDocument doc options.sizes) doc.inner
        options.format := by
  induction readings generalizing r with
  | nil => simp [processAll] at mem
  | cons head rest ih =>
    obtain ⟨source', reading⟩ := head
    rw [processAll_cons] at mem
    rcases List.mem_cons.mp mem with here | later
    · -- two of the three things that can become of an icon are no component
      obtain ⟨rfl, made⟩ := Prod.mk.inj here
      rcases renderIcon_cases options r source.stem reading with
        ⟨e, -, eq⟩ | ⟨doc, rfl, ⟨e, -, eq⟩ | ⟨id, -, eq⟩⟩
      · simp [eq] at made
      · simp [eq] at made
      · obtain rfl : c = Component.render id (IconAttributes.ofDocument doc options.sizes)
            doc.inner options.format := by simpa [eq] using made
        exact ⟨doc, List.mem_cons_self, rfl⟩
    · obtain ⟨doc, mem, rest⟩ := ih later
      exact ⟨doc, List.mem_cons_of_mem _ mem, rest⟩

theorem componentsOf_cons (source : Source) (result : Except IconError Component)
    (results : List (Source × Except IconError Component)) :
    componentsOf ((source, result) :: results) =
      result.toOption.toList ++ componentsOf results := by
  cases result <;> simp [componentsOf, Except.toOption]

/-- The names of components are different from each other and from the names given before. -/
theorem nodup_processAll {r : Registry} (sound : r.Sound) (options : Options)
    (readings : List (Source × Except IconError Document)) :
    (r.identifiers ++ (componentsOf (processAll options r readings)).map
      Component.identifier).Nodup := by
  -- the invariant carries the names of the icons so far along
  induction readings generalizing r with
  | nil => simpa [processAll, componentsOf] using sound.nodup
  | cons head rest ih =>
    obtain ⟨source, reading⟩ := head
    obtain ⟨sound', added⟩ := renderIcon_names sound options source.stem reading
    have later := ih sound'
    rw [added, List.append_assoc] at later
    rw [processAll_cons, componentsOf_cons, List.map_append]
    convert later using 3
    cases (renderIcon options r source.stem reading).1.toOption <;> rfl

/-! ## Counts of a report -/

/-- Every entry is counted as one of three kinds. -/
theorem Report.processed_add_failed_add_skipped (r : Report) :
    r.processed + r.failed + r.skipped = r.files.length := by
  obtain ⟨files, ns⟩ := r
  simp only [Report.processed, Report.failed, Report.skipped]
  induction files with
  | nil => rfl
  | cons f files ih =>
    have one : (if f.status.isGenerated = true then 1 else 0) +
        (if f.status.isFailed = true then 1 else 0) +
        (if f.status.isSkipped = true then 1 else 0) = 1 := by
      cases f.status <;> rfl
    simp only [List.countP_cons, List.length_cons]
    omega

namespace Batch

/-! ## The report of a batch -/

/-- The names in the report are those of the components. -/
theorem identifiers_report (b : Batch) (ns : Nat) :
    (b.report ns).identifiers = b.components.map Component.identifier := by
  have skippedPart : (b.skipped.map fun s =>
      (⟨s.fileName, .skipped s.reason.message⟩ : FileResult)).filterMap
        (fun f => f.status.identifier?) = [] := by
    simp [Status.identifier?]
  -- both sides pick from the same results
  rw [Report.identifiers, report, reportOf, List.filterMap_append, skippedPart, List.nil_append,
    List.filterMap_map, components, componentsOf, List.map_filterMap]
  apply List.filterMap_congr
  rintro ⟨source, e | c⟩ - <;> rfl

/-- The generated entries of the report and the components agree, one by one and in order. -/
theorem generated_components (b : Batch) (ns : Nat) :
    List.Forall₂ (fun (f : FileResult) (c : Component) =>
        f.status = .generated c.identifier ∧
          ∃ source, (source, .ok c) ∈ b.results ∧ f.fileName = source.fileName)
      ((b.report ns).files.filter fun f => f.status.isGenerated) b.components := by
  have skippedPart : (b.skipped.map fun s =>
      (⟨s.fileName, .skipped s.reason.message⟩ : FileResult)).filter
        (fun f => f.status.isGenerated) = [] := by
    simp [List.filter_eq_nil_iff, Status.isGenerated]
  rw [report, reportOf, List.filter_append, skippedPart, List.nil_append, components]
  obtain ⟨total, skipped, results, crash⟩ := b
  dsimp only
  -- the results so far are part of all results
  suffices all : ∀ part ⊆ results, List.Forall₂ (fun (f : FileResult) (c : Component) =>
      f.status = .generated c.identifier ∧
        ∃ source, (source, .ok c) ∈ results ∧ f.fileName = source.fileName)
      ((part.map fun icon => ⟨icon.1.fileName, statusOf icon.2⟩).filter
        fun f => f.status.isGenerated)
      (componentsOf part) from all results fun _ => id
  intro part
  induction part with
  | nil => intro _; exact .nil
  | cons head part ih =>
    intro sub
    obtain ⟨source, e | c⟩ := head
    · exact ih (List.cons_subset.mp sub).2
    · obtain ⟨mem, later⟩ := List.cons_subset.mp sub
      exact .cons ⟨rfl, source, mem, rfl⟩ (ih later)

/-! ## Batches of a divided listing -/

/-- No two components of a batch share a name. -/
theorem nodup_components (options : Options) (skipped : List Skipped)
    (contents : List (Source × Except FileError String)) :
    ((ofContents options skipped contents).components.map Component.identifier).Nodup := by
  simpa [components, ofContents, Registry.empty] using
    nodup_processAll Registry.sound_empty options (readAll contents).1

end Batch

end IconForge
