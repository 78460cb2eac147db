import IconForge.Proofs.Generation
import IconForge.Proofs.Naming

/-!
# Icons that fail leave no trace

Whether an icon can be used depends on its own content only, and one that cannot be used takes no
name. So a run over a listing from which the entries left out and the icons that failed have been
deleted makes the same module, with the same names in the same order.

A suffix that is no word is a case of its own: with it a number may be drawn for nothing, but then
no icon at all gets a name.

## Main statements

- `isOk_renderIcon`, `renderIcon_of_not_canRender`: what one icon does.
- `readAll_filter`, `processAll_filter`: what deleting the unusable icons of a row does.
- `Generation.bad_icons_leave_no_trace`: what deleting them from a listing does.
-/

namespace IconForge

open IconForge.Markup

/-! ## One icon -/

/-- An icon with this document can become a component. -/
def canRender (options : Options) : Except IconError Document → Bool
  | .error _ => false
  | .ok doc => Registry.isNameable (IconAttributes.ofDocument doc options.sizes).title options.naming

/-- An icon with this content can become a component. -/
def isUsable (options : Options) (given : Except FileError String) : Bool :=
  match readIcon given with
  | .error _ => false
  | .ok reading => canRender options reading

/-- An icon with this content has no document, and the program goes on. -/
def HoldsNone (given : Except FileError String) : Prop := ∃ e, readIcon given = .ok (.error e)

theorem holdsNone_error (e : FileError) : HoldsNone (.error e) := ⟨.unreadable e, rfl⟩

/-- Whether an icon becomes a component does not depend on the icons before it. -/
theorem isOk_renderIcon (options : Options) (r : Registry) (stem : String)
    (reading : Except IconError Document) :
    (renderIcon options r stem reading).1.isOk = canRender options reading := by
  rcases renderIcon_cases options r stem reading with ⟨e, rfl, eq⟩ | ⟨doc, rfl, named⟩
  · rw [eq]
    rfl
  · have nameable := r.isOk_synthesize (IconAttributes.ofDocument doc options.sizes).title stem
      options.naming
    rw [canRender, ← nameable]
    rcases named with ⟨e, answer, eq⟩ | ⟨id, answer, eq⟩
    · rw [eq, answer]
      rfl
    · rw [eq, answer]
      rfl

/-- With a suffix that is a word, an icon that becomes no component takes no name. -/
theorem renderIcon_of_not_canRender {options : Options} {r : Registry} {stem : String}
    {reading : Except IconError Document} (word : isWord options.naming.suffix = true)
    (h : canRender options reading = false) : (renderIcon options r stem reading).2 = r := by
  rw [← isOk_renderIcon options r stem reading] at h
  rcases renderIcon_cases options r stem reading with
    ⟨e, -, eq⟩ | ⟨doc, -, ⟨e, answer, eq⟩ | ⟨id, -, eq⟩⟩
  · rw [eq]
  · rw [eq]
    exact Registry.synthesize_of_not_isOk word (by rw [answer]; rfl)
  · rw [eq] at h
    contradiction

/-- With a suffix that is no word, no icon becomes a component. -/
theorem canRender_of_not_isWord {options : Options} (h : isWord options.naming.suffix = false)
    (reading : Except IconError Document) : canRender options reading = false := by
  cases reading with
  | error e => rfl
  | ok doc => simp [canRender, Registry.isNameable, h]

/-! ## Reading icons in a row -/

section

variable {contents : List (Source × Except FileError String)}

/-- Where the program does not break off, whether an icon becomes a component is known from its
content. -/
theorem map_canRender_readAll (options : Options) (whole : (readAll contents).2 = none) :
    (readAll contents).1.map (fun x => (x.1, canRender options x.2)) =
      contents.map fun x => (x.1, isUsable options x.2) := by
  fun_induction readAll contents with
  | case1 => rfl
  | case2 => simp at whole
  | case3 source given rest reading read ih =>
    simp only [List.map_cons, ih whole, isUsable, read]

/-- The readings of the usable icons of a row. -/
theorem readAll_filter (options : Options) (whole : (readAll contents).2 = none) :
    readAll (contents.filter fun x => isUsable options x.2) =
      ((readAll contents).1.filter (fun x => canRender options x.2), none) := by
  fun_induction readAll contents with
  | case1 => rfl
  | case2 => simp at whole
  | case3 source given rest reading read ih =>
    have usable : isUsable options given = canRender options reading := by rw [isUsable, read]
    rw [List.filter_cons, List.filter_cons, usable]
    cases canRender options reading with
    | true => simp [readAll, read, ih whole]
    | false => simpa using ih whole

end

/-! ## Icons in a row -/

/-- Every icon becomes a component or not, at its own place in the row. -/
theorem map_isOk_processAll (options : Options) (r : Registry)
    (readings : List (Source × Except IconError Document)) :
    (processAll options r readings).map (fun x => (x.1, x.2.isOk)) =
      readings.map fun x => (x.1, canRender options x.2) := by
  induction readings generalizing r with
  | nil => rfl
  | cons head readings ih =>
    obtain ⟨source, reading⟩ := head
    simp only [processAll_cons, List.map_cons, ih, isOk_renderIcon]

/-- The components of a row are those of the icons that can become one alone, names and all. -/
theorem processAll_filter (options : Options) (r : Registry)
    (readings : List (Source × Except IconError Document)) :
    (processAll options r readings).filter (fun x => x.2.isOk) =
      processAll options r (readings.filter fun x => canRender options x.2) := by
  cases word : isWord options.naming.suffix with
  | false =>
    -- no icon is usable, so nothing is left on either side
    have none (reading : Except IconError Document) : canRender options reading = false :=
      canRender_of_not_isWord word reading
    have noneOk : (processAll options r readings).filter (fun x => x.2.isOk) = [] := by
      rw [List.filter_eq_nil_iff]
      rintro ⟨source, result⟩ mem
      have isOk : (source, result.isOk) ∈
          (processAll options r readings).map fun x => (x.1, x.2.isOk) :=
        List.mem_map.mpr ⟨_, mem, rfl⟩
      rw [map_isOk_processAll] at isOk
      obtain ⟨⟨source', reading⟩, -, eq⟩ := List.mem_map.mp isOk
      simp only [none, Prod.mk.injEq] at eq
      simp [← eq.2]
    simp [noneOk, none, processAll]
  | true =>
    induction readings generalizing r with
    | nil => rfl
    | cons head readings ih =>
      obtain ⟨source, reading⟩ := head
      have same := isOk_renderIcon options r source.stem reading
      rw [processAll_cons]
      cases usable : canRender options reading with
      | true =>
        rw [usable] at same
        rw [List.filter_cons_of_pos (by simpa using same), ih,
          List.filter_cons_of_pos (by simpa using usable), processAll_cons]
      | false =>
        -- the icon is dropped on both sides, and the registry is as before
        rw [usable] at same
        rw [List.filter_cons_of_neg (by simp [same]), ih,
          List.filter_cons_of_neg (by simp [usable]), renderIcon_of_not_canRender word usable]

/-! ## Batches without their bad icons -/

namespace Batch

/-- A batch without the entries left out and the icons that failed. -/
def generated (b : Batch) : Batch where
  total := (b.results.filter fun x => x.2.isOk).length
  skipped := []
  results := b.results.filter fun x => x.2.isOk

theorem components_generated (b : Batch) : b.generated.components = b.components := by
  rw [components, components, componentsOf, componentsOf, generated, List.filterMap_filter]
  apply List.filterMap_congr
  rintro ⟨source, e | component⟩ - <;> rfl

/-- What remains in the report are the entries that became components. -/
theorem files_report_generated (b : Batch) (ns ns' : Nat) :
    (b.generated.report ns').files = (b.report ns).files.filter fun f => f.status.isGenerated := by
  have left : (b.skipped.map fun s =>
      (⟨s.fileName, .skipped s.reason.message⟩ : FileResult)).filter
        (fun f => f.status.isGenerated) = [] := by
    simp [List.filter_eq_nil_iff, Status.isGenerated]
  rw [report, report, reportOf, reportOf, generated, List.filter_append, left, List.filter_map]
  simp only [List.map_nil, List.nil_append]
  congr 1
  apply List.filter_congr
  rintro ⟨source, e | component⟩ - <;> rfl

end Batch

/-- The names of the entries that became no component. -/
def Report.lost (r : Report) : List String :=
  (r.files.filter fun f => !f.status.isGenerated).map FileResult.fileName

/-- An entry became no component because it was left out or because it failed. -/
theorem Batch.mem_lost_report (b : Batch) (ns : Nat) (name : String) :
    name ∈ (b.report ns).lost ↔
      name ∈ b.skipped.map Skipped.fileName ∨
        ∃ x ∈ b.results.map fun x => (x.1, x.2.isOk), x.2 = false ∧ x.1.fileName = name := by
  have left : ((b.skipped.map fun s =>
      (⟨s.fileName, .skipped s.reason.message⟩ : FileResult)).filter
        fun f => !f.status.isGenerated).map FileResult.fileName =
          b.skipped.map Skipped.fileName := by
    rw [List.filter_eq_self.mpr, List.map_map]
    · rfl
    · intro f mem
      obtain ⟨s, -, rfl⟩ := List.mem_map.mp mem
      rfl
  have failed (x : Source × Except IconError Component) :
      (!(statusOf x.2).isGenerated) = true ↔ x.2.isOk = false := by
    obtain ⟨source, e | component⟩ := x <;>
      simp [statusOf, Status.isGenerated, Except.isOk, Except.toBool]
  rw [Report.lost, report, reportOf, List.filter_append, List.map_append, List.mem_append, left]
  refine or_congr_right ?_
  simp only [List.filter_map, List.map_map, List.mem_map, List.mem_filter, Function.comp_apply,
    failed, exists_exists_and_eq_and, and_assoc]

/-! ## Stores with another listing -/

/-- A store in which one directory lists other names, and which is otherwise the store inside it. -/
structure RelistedStore (σ : Type) where
  store : σ
  dir : Path
  names : List String

namespace RelistedStore

variable {σ : Type} [FileStore σ]

instance : FileStore (RelistedStore σ) where
  pathExists s path := FileStore.pathExists s.store path
  listFiles s dir := if dir.Same s.dir then .ok s.names else FileStore.listFiles s.store dir
  readText s path := FileStore.readText s.store path
  makeDirectories s dir :=
    let (result, store) := FileStore.makeDirectories s.store dir
    (result, { s with store := store })
  writeText s path content :=
    let (result, store) := FileStore.writeText s.store path content
    (result, { s with store := store })

/-- Writing a module does not depend on the listing. -/
theorem persist_fst (s : RelistedStore σ) (output path : Path) (artifact : String) :
    (Generation.persist output path artifact s).1 =
      (Generation.persist output path artifact s.store).1 := by
  unfold Generation.persist
  simp only [FileStore.pathExists, FileStore.makeDirectories, FileStore.writeText]
  cases FileStore.pathExists s.store output with
  | true => rfl
  | false =>
    rcases FileStore.makeDirectories s.store output with ⟨e | ok, after⟩ <;> rfl

end RelistedStore

namespace Generation

variable {σ : Type} [FileStore σ] {g : Generation} {input output : Path} {clock : Clock} {store : σ}
  {names : List String} {excludes : List Glob.Pattern}

/-- An entry becomes a component: it is not left out, and its file can be used. -/
def keeps (g : Generation) (input : Path) (store : σ) (excludes : List Glob.Pattern)
    (name : String) : Bool :=
  (skipReason? excludes name).isNone &&
    isUsable g.options (FileStore.readText store (input.join ⟨name⟩))

/-- The entries that became no component are those that are not kept. -/
theorem mem_lost (whole : (g.batchOf store (discover input names excludes)).crash = none) (ns : Nat)
    {name : String} :
    name ∈ ((g.batchOf store (discover input names excludes)).report ns).lost ↔
      name ∈ names ∧ g.keeps input store excludes name = false := by
  rw [Batch.mem_lost_report]
  have left : name ∈ (g.batchOf store (discover input names excludes)).skipped.map
      Skipped.fileName ↔ name ∈ names ∧ (skipReason? excludes name).isSome = true := by
    rw [batchOf, Batch.ofContents, (map_fileName_discover input names excludes).1,
      List.mem_filter]
  have results : (g.batchOf store (discover input names excludes)).results.map
      (fun x => (x.1, x.2.isOk)) =
        (names.filter fun name => (skipReason? excludes name).isNone).map fun name =>
          (⟨name, input.join ⟨name⟩⟩,
            isUsable g.options (FileStore.readText store (input.join ⟨name⟩))) := by
    rw [batchOf, Batch.ofContents, map_isOk_processAll, map_canRender_readAll _ whole]
    simp [discover, Function.comp_def]
  rw [left, results]
  cases reason : skipReason? excludes name <;>
    simp [keeps, reason]

/-- The icons of a listing that can be used are those of the listing with the entries that are kept,
with the same contents. -/
theorem contents_keeps (names : List String) :
    (discover input (names.filter (g.keeps input store excludes)) excludes).sources.map
        (fun source => (source, FileStore.readText store source.path)) =
      ((discover input names excludes).sources.map
        fun source => (source, FileStore.readText store source.path)).filter
          fun x => isUsable g.options x.2 := by
  simp only [discover, List.map_map, List.filter_map, List.filter_filter, Function.comp_def]
  congr 1
  apply List.filter_congr
  intro name _
  rw [keeps, Bool.and_comm, Bool.and_assoc, Bool.and_comm _ (Option.isNone _), Bool.and_self_left]

/-- No entry that is kept is left out. -/
theorem skipped_keeps (names : List String) :
    (discover input (names.filter (g.keeps input store excludes)) excludes).skipped = [] := by
  rw [discover, List.filterMap_eq_nil_iff]
  intro name mem
  have kept := (List.mem_filter.mp mem).2
  rw [keeps, Bool.and_eq_true, Option.isNone_iff_eq_none] at kept
  rw [kept.1]
  rfl

/-- The batch of a listing that holds just the entries that are kept. -/
theorem batchOf_keeps (names : List String)
    (whole : (g.batchOf store (discover input names excludes)).crash = none) :
    let kept := names.filter (g.keeps input store excludes)
    g.batchOf (RelistedStore.mk store input kept) (discover input kept excludes) =
      (g.batchOf store (discover input names excludes)).generated := by
  intro kept
  show g.batchOf store (discover input kept excludes) = _
  have readings := readAll_filter g.options whole
  -- both batches have the readings of the usable icons, which are as many as these icons
  have many := congrArg List.length (map_fst_readAll (congrArg Prod.snd readings))
  simp only [readings, List.length_map] at many
  simp only [batchOf, Batch.generated, Batch.ofContents, skipped_keeps, contents_keeps, kept,
    readings, processAll_filter]
  rw [← many, ← List.length_map Prod.fst, ← map_fst_processAll g.options .empty, List.length_map]

/-- A run that is not stopped, and a run over its listing without the entries that became no
component: that one is not stopped either, makes the same module with the same names, and reports
just the entries that became components before. -/
theorem bad_icons_leave_no_trace {outcome : Outcome}
    (h : (g.run input output clock store).result = .ok outcome) (clock' : Clock) :
    ∃ names, FileStore.listFiles store input = .ok names ∧
      let kept := names.filter fun name => !outcome.report.lost.contains name
      ∃ again, (g.run input output clock' (RelistedStore.mk store input kept)).result = .ok again ∧
        again.artifact = outcome.artifact ∧
        again.report.identifiers = outcome.report.identifiers ∧
        again.report.failed = 0 ∧
        again.report.files = outcome.report.files.filter fun f => f.status.isGenerated := by
  obtain ⟨b, batched, ⟨whole, written⟩, rfl⟩ := result_eq_ok_iff.mp h
  obtain ⟨isThere, excludes, names, compiled, listed, rfl⟩ := batch_eq_ok_iff.mp batched
  set b := g.batchOf store (discover input names excludes)
  refine ⟨names, listed, ?_⟩
  intro kept
  have keptEq : kept = names.filter (g.keeps input store excludes) := by
    apply List.filter_congr
    intro name mem
    let ns := clock (2 * b.results.length + 3) - clock 0
    have lost : name ∈ (b.report ns).lost ↔ _ := mem_lost whole ns
    show (!(b.report ns).lost.contains name) = g.keeps input store excludes name
    cases keeps : g.keeps input store excludes name with
    | true =>
      have kept : name ∉ (b.report ns).lost := fun isLost => by simp [(lost.mp isLost).2] at keeps
      simpa using kept
    | false =>
      have isLost : name ∈ (b.report ns).lost := lost.mpr ⟨mem, keeps⟩
      simpa using isLost
  -- the second run has the batch of the first one without its bad icons
  have batched' : g.batch input (RelistedStore.mk store input kept) = .ok b.generated := by
    refine batch_eq_ok_iff.mpr ⟨isThere, excludes, kept, compiled, ?_, ?_⟩
    · simp [FileStore.listFiles, Path.Same]
    · rw [keptEq, batchOf_keeps names whole]
  have sameArtifact : b.generated.artifact g.options.format = b.artifact g.options.format := by
    rw [Batch.artifact, Batch.components_generated]
    rfl
  have written' : g.Writes output (RelistedStore.mk store input kept) b.generated := by
    rw [Writes, sameArtifact, RelistedStore.persist_fst]
    exact ⟨rfl, written⟩
  refine ⟨_, result_eq_ok_iff.mpr ⟨b.generated, batched', written', rfl⟩, sameArtifact, ?names,
    ?failed, b.files_report_generated _ _⟩
  case names =>
    show (b.generated.report _).identifiers = (b.report _).identifiers
    rw [Batch.identifiers_report, Batch.components_generated, Batch.identifiers_report]
  case failed =>
    show (b.generated.report _).failed = 0
    rw [Report.failed, b.files_report_generated 0, List.countP_eq_zero]
    intro f mem
    have generated := (List.mem_filter.mp mem).2
    cases status : f.status <;> simp_all [Status.isGenerated, Status.isFailed]

/-- An icon whose title makes no name, a page, a text and an icon without a title: only the last one
becomes a component, and it gets the first number whether the others are there or not. -/
theorem bad_icons_leave_no_trace_on_numbers :
    let store : MemoryStore := {
      files := [([.name "in", .name "a.svg"], "<svg title=\"!\"/>"),
        ([.name "in", .name "b.svg"], "<html/>"), ([.name "in", .name "c.txt"], ""),
        ([.name "in", .name "!.svg"], "<svg/>")]
      directories := [[.name "in"]] }
    let clock : Clock := fun _ => 0
    let clock' : Clock := fun i => i
    ∃ outcome again,
      (({} : Generation).run ⟨"in"⟩ ⟨"out"⟩ clock store).result = .ok outcome ∧
      outcome.report.lost = ["c.txt", "a.svg", "b.svg"] ∧
      outcome.report.identifiers.map Identifier.text = ["Icon1"] ∧
      (({} : Generation).run ⟨"in"⟩ ⟨"out"⟩ clock'
        (RelistedStore.mk store ⟨"in"⟩ ["!.svg"])).result = .ok again ∧
      again.artifact = outcome.artifact := by
  intro store clock clock'
  have runs : ((({} : Generation).run ⟨"in"⟩ ⟨"out"⟩ clock store).result.toOption.map fun o =>
      (o.report.lost, o.report.identifiers.map Identifier.text)) =
        some (["c.txt", "a.svg", "b.svg"], ["Icon1"]) := by
    decide +kernel
  cases result : (({} : Generation).run ⟨"in"⟩ ⟨"out"⟩ clock store).result with
  | error e => simp [result, Except.toOption] at runs
  | ok outcome =>
    rw [result] at runs
    obtain ⟨lost, identifiers⟩ := Prod.mk.inj (Option.some.inj runs)
    obtain ⟨names, listed, again, ran, same, -⟩ := bad_icons_leave_no_trace result clock'
    obtain rfl : names = ["a.svg", "b.svg", "c.txt", "!.svg"] := (Except.ok.inj listed).symm
    rw [lost] at ran
    exact ⟨outcome, again, rfl, lost, identifiers, ran, same⟩

end Generation

end IconForge
