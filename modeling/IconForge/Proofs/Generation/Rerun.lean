import IconForge.Proofs.Generation.Course
import IconForge.Proofs.Store.Memory

/-!
# Runs again

A run changes the store that the next run reads: there may be a new directory, and there is a new
file, which may even be in the directory that is listed. As long as that file is not itself an icon
of this directory, the next run reads the same icons in the same order. So it makes the same module,
and writing that changes nothing but the number of writes.

## Main statements

- `batch_wrote`: the icons of a run are as they were after a file has been written that is none.
- `Settled.run`: what a run does that has been made before, and so on for any number of them.
- `Generation.rerun_repeats`: what runs after a first one do.
-/

namespace IconForge

namespace MemoryStore

variable {s : MemoryStore} {dir : Path} {names : List String}

theorem listFiles_eq_ok_iff :
    s.listFiles dir = .ok names ↔
      s.isDirectory dir.components = true ∧
        namesIn (s.files.map Prod.fst) dir.components = names := by
  rw [listFiles_eq]
  split <;> simp_all

/-- The listing of a directory, after another one has been prepared and a file has been written: it
is the same, or the file is new in it and comes last. -/
theorem listFiles_wrote (listed : s.listFiles dir = .ok names) (prepared l : Location)
    (content : String) :
    ((s.prepared prepared).wrote l content).listFiles dir = .ok names ∨
      ∃ name, l = dir.components ++ [.name name] ∧
        ((s.prepared prepared).wrote l content).listFiles dir = .ok (names ++ [name]) := by
  obtain ⟨isThere, rfl⟩ := listFiles_eq_ok_iff.mp listed
  have isThere : ((s.prepared prepared).wrote l content).isDirectory dir.components = true :=
    isDirectory_addDirectory_of (isDirectory_prepared_of isThere)
  have files : ((s.prepared prepared).wrote l content).files = put s.files l content := by
    rw [wrote, files_addFile, files_prepared]
  simp only [listFiles_eq_ok_iff, isThere, files, true_and]
  exact namesIn_put s.files l dir.components content

/-- Preparing a directory and writing a file changes no other file. -/
theorem readText_wrote {path : Path} {l : Location} (other : path.components ≠ l)
    (prepared : Location) (content : String) :
    ((s.prepared prepared).wrote l content).readText path = s.readText path := by
  have kept : ((s.prepared prepared).wrote l content).contents? path.components =
      s.contents? path.components := by
    rw [contents?_wrote, if_neg other, contents?, files_prepared, contents?]
  simp only [readText, kept]

/-- The path of a listed name leads to a file in the directory. -/
theorem WellFormed.components_join (wf : s.WellFormed) (listed : s.listFiles dir = .ok names)
    {name : String} (mem : name ∈ names) :
    (dir.join ⟨name⟩).components = dir.components ++ [.name name] := by
  obtain ⟨isThere, rfl⟩ := listFiles_eq_ok_iff.mp listed
  have given : dir.text ≠ "" := by
    rw [ne_eq, ← Path.components_eq_nil_iff]
    exact ((isDirectory_iff ..).mp isThere).1
  obtain ⟨path, eq⟩ := wf.located _ (mem_namesIn mem)
  have plain : Path.PlainName name := Path.plainName_of_mem_components (p := path) (by simp [eq])
  exact Path.components_join given plain

end MemoryStore

/-- An entry at the end of a listing that is left out is no source. -/
theorem sources_discover_concat {names : List String} {excludes : List Glob.Pattern} {name : String}
    (left : skipReason? excludes name ≠ none) (input : Path) :
    (discover input (names ++ [name]) excludes).sources =
      (discover input names excludes).sources := by
  have left : (skipReason? excludes name).isNone = false := by
    rwa [ne_eq, ← Option.isNone_iff_eq_none, Bool.not_eq_true] at left
  simp [discover, left]

namespace Generation

variable {g : Generation} {input output : Path} {clock : Clock} {s : MemoryStore}

/-! ## The batch of the next run -/

/-- A path is that of an entry of a directory that would be a source. -/
def Selects (g : Generation) (input path : Path) : Prop :=
  ∃ excludes name, compileExcludes g.options.exclude = .ok excludes ∧
    skipReason? excludes name = none ∧ path.components = input.components ++ [.name name]

/-- After a file has been written that is no source, there is a batch with the same components. -/
theorem batch_wrote {b : Batch} (wf : s.WellFormed) (batched : g.batch input s = .ok b)
    {path : Path} (notSource : ¬ g.Selects input path) (prepared : Location) (content : String) :
    ∃ again, g.batch input ((s.prepared prepared).wrote path.components content) = .ok again ∧
      again.results = b.results ∧ again.crash = b.crash := by
  obtain ⟨isThere, excludes, names, compiled, listed, rfl⟩ := batch_eq_ok_iff.mp batched
  set t := (s.prepared prepared).wrote path.components content
  have isThere : t.holds input.components = true :=
    MemoryStore.holds_wrote_of (MemoryStore.holds_prepared_of isThere)
  -- the file may be new in the listing, but it is left out
  obtain ⟨names', listed', sources⟩ : ∃ names', t.listFiles input = .ok names' ∧
      (discover input names' excludes).sources = (discover input names excludes).sources := by
    rcases MemoryStore.listFiles_wrote listed prepared path.components content with
      same | ⟨name, inside, more⟩
    · exact ⟨names, same, rfl⟩
    · exact ⟨names ++ [name], more, sources_discover_concat
        (fun selected => notSource ⟨excludes, name, compiled, selected, inside⟩) input⟩
  refine ⟨g.batchOf t (discover input names' excludes),
    batch_eq_ok_iff.mpr ⟨isThere, excludes, names', compiled, listed', rfl⟩,
    g.results_batchOf_congr sources ?_⟩
  -- no source is the file, so they have their contents
  intro source mem
  obtain ⟨name, isListed, rfl⟩ := List.mem_map.mp mem
  obtain ⟨isListed, selected⟩ := List.mem_filter.mp isListed
  have inside := wf.components_join listed isListed
  have other : (input.join ⟨name⟩).components ≠ path.components := fun same =>
    notSource ⟨excludes, name, compiled, by simpa using selected, same.symm.trans inside⟩
  exact MemoryStore.readText_wrote other prepared content

/-! ## Writing the module again -/

/-- A module that has been written is kept in a store whose directory has been prepared. -/
theorem persist_memory_ok {path : Path} {artifact : String}
    (h : (persist output path artifact s).1 = .ok ()) :
    (persist output path artifact s).2 =
        (s.prepared output.components).wrote path.components artifact ∧
      (persist output path artifact s).2.Kept output path artifact := by
  obtain ⟨prepared, isPrepared, written⟩ := persist_ok h
  obtain rfl : prepared = s.prepared output.components :=
    isPrepared.eq_ite ((s.makeDirectories_cases output).imp_right And.right)
  rcases (s.prepared output.components).writeText_cases path artifact with
    ⟨e, written'⟩ | ⟨allowed, parent, written'⟩
  · obtain ⟨failed, -⟩ := Prod.mk.inj (written.symm.trans written')
    contradiction
  · obtain ⟨-, eq⟩ := Prod.mk.inj (written.symm.trans written')
    rw [eq]
    exact ⟨rfl, MemoryStore.kept_wrote artifact allowed parent⟩

/-- A module that is kept can be written again, and only the write is new. -/
theorem persist_kept {path : Path} {artifact : String} (kept : s.Kept output path artifact) :
    persist output path artifact s =
      (.ok (), { s with written := path.components :: s.written }) := by
  have again : FileStore.writeText s path artifact = _ := kept.writeText
  rcases persist_cases output path artifact s with
    ⟨e, after, isMissing, failed, -⟩ | ⟨prepared, ⟨-, rfl⟩ | ⟨isMissing, made⟩, eq⟩
  · obtain ⟨failed, -⟩ := Prod.mk.inj (failed.symm.trans (kept.makeDirectories isMissing))
    contradiction
  · rw [eq, again]
    rfl
  · obtain ⟨-, rfl⟩ := Prod.mk.inj (made.symm.trans (kept.makeDirectories isMissing))
    rw [eq, again]
    rfl

/-! ## Runs in a row -/

/-- A store in which the module of a run is kept, and the next run makes it once more. -/
structure Settled (g : Generation) (input output : Path) (artifact : String) (s : MemoryStore) :
    Prop where
  kept : s.Kept output (g.outputPath output) artifact
  batched : ∃ b, g.batch input s = .ok b ∧ b.crash = none ∧ b.artifact g.options.format = artifact

/-- The number of writes does not matter. -/
theorem Settled.recount {artifact : String} (settled : g.Settled input output artifact s)
    (written : List Location) : g.Settled input output artifact { s with written := written } :=
  ⟨⟨settled.kept.prepared, settled.kept.allowed, settled.kept.parent, settled.kept.housed,
    settled.kept.content⟩, settled.batched⟩

/-- A run that writes its module settles a store, unless the module is a source. -/
theorem settled_run {outcome : Outcome} (wf : s.WellFormed) (real : g.dryRun = false)
    (notSource : ¬ g.Selects input (g.outputPath output))
    (ran : (g.run input output clock s).result = .ok outcome) :
    g.Settled input output outcome.artifact (g.run input output clock s).store := by
  obtain ⟨b, batched, ⟨whole, written⟩, rfl⟩ := result_eq_ok_iff.mp ran
  have written : (persist output (g.outputPath output) (b.artifact g.options.format) s).1 =
      .ok () := by simpa [real] using written
  obtain ⟨after, kept⟩ := persist_memory_ok written
  obtain ⟨again, batched', same, sameCrash⟩ := batch_wrote wf batched notSource output.components
    (b.artifact g.options.format)
  rw [store_run real batched whole]
  refine ⟨kept, again, by rw [after, batched'], by rw [sameCrash, whole], ?_⟩
  show again.artifact g.options.format = b.artifact g.options.format
  simp only [Batch.artifact, Batch.components, same]

/-- A run over a settled store succeeds with the same module, and only the write is new. -/
theorem Settled.run {artifact : String} (settled : g.Settled input output artifact s)
    (real : g.dryRun = false) (clock : Clock) :
    ∃ again, (g.run input output clock s).result = .ok again ∧ again.artifact = artifact ∧
      (g.run input output clock s).store =
        { s with written := (g.outputPath output).components :: s.written } := by
  obtain ⟨b, batched, whole, rfl⟩ := settled.batched
  have written := persist_kept settled.kept
  refine ⟨_, result_eq_ok_iff.mpr ⟨b, batched, ⟨whole, Or.inr (by rw [written])⟩, rfl⟩, rfl, ?_⟩
  rw [store_run real batched whole, written]

/-- The store after a number of runs in a row, each with a clock of its own. -/
def storeAfter (g : Generation) (input output : Path) (clocks : Nat → Clock) :
    Nat → MemoryStore → MemoryStore
  | 0, s => s
  | n + 1, s => (g.run input output (clocks n) (storeAfter g input output clocks n s)).store

/-- Runs in a row over a settled store change nothing but the number of writes, which grows by one
with each. -/
theorem Settled.storeAfter {artifact : String} (settled : g.Settled input output artifact s)
    (real : g.dryRun = false) (clocks : Nat → Clock) (n : Nat) :
    g.storeAfter input output clocks n s =
      { s with written :=
          List.replicate n (g.outputPath output).components ++ s.written } := by
  induction n with
  | zero => rfl
  | succ n ih =>
    -- the store before the last run differs from the settled one in its count only
    obtain ⟨again, -, -, store⟩ := (settled.recount
      (List.replicate n (g.outputPath output).components ++ s.written)).run real (clocks n)
    rw [Generation.storeAfter, ih, store, List.replicate_succ, List.cons_append]

/-- After a run that has written its module, which is no source, every further run succeeds with the
same module, leaves all files as they were after the first run and adds one write, of the module. -/
theorem rerun_repeats {operations : List MemoryStore.Operation} {first : Outcome}
    (real : g.dryRun = false) (notSource : ¬ g.Selects input (g.outputPath output))
    (ran : (g.run input output clock (MemoryStore.after operations)).result = .ok first)
    (clocks : Nat → Clock) (n : Nat) :
    let once := (g.run input output clock (MemoryStore.after operations)).store
    let before := g.storeAfter input output clocks n once
    let next := g.run input output (clocks n) before
    ∃ again, next.result = .ok again ∧ again.artifact = first.artifact ∧
      next.store.files = once.files ∧
      next.store.writes (g.outputPath output).components =
        before.writes (g.outputPath output).components + 1 ∧
      ∀ l ≠ (g.outputPath output).components, next.store.writes l = before.writes l := by
  intro once before next
  have settled : g.Settled input output first.artifact once :=
    settled_run (MemoryStore.wellFormed_after operations) real notSource ran
  have beforeEq : before = { once with written := _ } := settled.storeAfter real clocks n
  have settledBefore : g.Settled input output first.artifact before := by
    rw [beforeEq]
    exact settled.recount _
  obtain ⟨again, result, same, store⟩ := settledBefore.run real (clocks n)
  refine ⟨again, result, same, ?files, ?counted, ?others⟩
  case files =>
    show (g.run input output (clocks n) before).store.files = once.files
    rw [store, beforeEq]
  case counted =>
    show (g.run input output (clocks n) before).store.writes _ = _
    rw [store, MemoryStore.writes, List.count_cons_self, MemoryStore.writes]
  case others =>
    intro l other
    show (g.run input output (clocks n) before).store.writes l = _
    rw [store, MemoryStore.writes, List.count_cons_of_ne other.symm, MemoryStore.writes]

/-- A module that is written into the directory with its icons: the third run lists it too, and
makes what the first one made, though it takes longer. -/
theorem rerun_repeats_among_icons :
    let before := MemoryStore.after [.addFile ⟨"in/home.svg"⟩ "<svg title=\"Home\"/>"]
    let clock : Clock := fun _ => 0
    let clocks : Nat → Clock := fun n i => n * i
    let once := (({} : Generation).run ⟨"in"⟩ ⟨"in/"⟩ clock before).store
    let third := ({} : Generation).run ⟨"in"⟩ ⟨"in/"⟩ (clocks 1)
      (({} : Generation).storeAfter ⟨"in"⟩ ⟨"in/"⟩ clocks 1 once)
    once.listFiles ⟨"in"⟩ = .ok ["home.svg", "icons.jsx"] ∧
      ∃ first again, (({} : Generation).run ⟨"in"⟩ ⟨"in/"⟩ clock before).result = .ok first ∧
        third.result = .ok again ∧ again.artifact = first.artifact ∧
        third.store.files = once.files := by
  intro before clock clocks once third
  have runs : (({} : Generation).run ⟨"in"⟩ ⟨"in/"⟩ clock before).result.toOption.isSome = true := by
    rw [run_eq]
    decide +kernel
  have notSource : ¬ ({} : Generation).Selects ⟨"in"⟩ (({} : Generation).outputPath ⟨"in/"⟩) := by
    rintro ⟨excludes, name, -, selected, inside⟩
    have path : (({} : Generation).outputPath ⟨"in/"⟩).components =
        [.name "in"] ++ [.name "icons.jsx"] := by decide +kernel
    have directory : (Path.mk "in").components = [.name "in"] := by decide +kernel
    obtain rfl : "icons.jsx" = name := by simpa [path, directory] using inside
    have noIcon : isSvgFile "icons.jsx" = false := by decide +kernel
    simp [skipReason?, noIcon] at selected
  have listed : once.listFiles ⟨"in"⟩ = .ok ["home.svg", "icons.jsx"] := by
    rw [show once = _ from congrArg Run.store (run_eq ..)]
    decide +kernel
  refine ⟨listed, ?_⟩
  cases result : (({} : Generation).run ⟨"in"⟩ ⟨"in/"⟩ clock before).result with
  | error e => simp [result, Except.toOption] at runs
  | ok first =>
    obtain ⟨again, repeated, same, files, -⟩ := rerun_repeats rfl notSource result clocks 1
    exact ⟨first, again, rfl, repeated, same, files⟩

end Generation

end IconForge
