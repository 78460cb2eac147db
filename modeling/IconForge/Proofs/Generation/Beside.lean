import IconForge.Proofs.Generation.Isolation
import IconForge.Proofs.Generation.OnDisk
import IconForge.Proofs.Store.Disk.Beside
import IconForge.Proofs.Store.Disk.Inside
import IconForge.Proofs.Store.Disk.Listing

/-!
# A run and one more file

A file that is no icon changes little for a run. It is listed as one more entry that is left out,
and an icon that is that file cannot be used, nor could it be without it. So there is the same
module, and it is written alike, unless it is to be written into a directory that is to be made
where the file is.

## Main statements

- `listFiles_put`: listing with one more file.
- `batch_put`: batches with one more file.
- `persist_beside`: writing a module beside one more file.
- `run_put`: runs with one more file.
-/

namespace IconForge

namespace Disk

variable {d d' : Disk} {here : Nat} {name : String} {path : Path}

/-! ## Listings -/

/-- The entries of a directory after something has been put where nothing was. -/
theorem entries_put_of_vacant (inside : here < d.directories.size)
    (vacant : d.child? here name = none) (e : DiskEntry) (around : Nat) :
    (d.put here name e).entries around =
      if around = here then (name, e) :: d.entries here else d.entries around := by
  have others : (d.entries here).filter (fun x => x.1 != name) = d.entries here := by
    rw [List.filter_eq_self]
    intro x isEntry
    have other := List.lookup_eq_none_iff.mp vacant x isEntry
    rw [bne_iff_ne] at other ⊢
    exact other.symm
  rw [entries_put, others]
  simp only [inside, and_true]

/-- One more file does not change which of the others are chosen, nor their order. -/
theorem filter_fileNames_cons (entries : List Listed) {chosen : String → Bool}
    (left : chosen name = false) :
    (fileNames (⟨name.toUTF8, true⟩ :: entries)).filter chosen =
      (fileNames entries).filter chosen := by
  have perm : ((fileNames (⟨name.toUTF8, true⟩ :: entries)).filter chosen).Perm
      ((fileNames entries).filter chosen) := by
    refine ((List.mergeSort_perm _ _).filter chosen).trans ?_
    rw [List.filter_cons_of_pos rfl,
      List.filterMap_cons_some (f := fun e : Listed => String.fromUTF8? e.name)
        (fromUTF8?_toUTF8 name),
      List.filter_cons_of_neg (by simp [left])]
    exact ((List.mergeSort_perm _ _).filter chosen).symm
  exact eq_of_perm_of_ascending perm ((pairwise_fileNames _).filter chosen)
    ((pairwise_fileNames _).filter chosen)

theorem listFiles_eq (d : Disk) (dir : Path) :
    FileStore.listFiles d dir =
      ((d.findDirectory dir).map fun number => fileNames
        ((d.entries number).map fun (name, e) => ⟨name.toUTF8, e matches .file _⟩)).mapError
          (.ofFailure dir) := by
  have unfolded : FileStore.listFiles d dir =
      ((d.listed dir).map fileNames).mapError (.ofFailure dir) := rfl
  rw [unfolded, listed]
  cases d.findDirectory dir <;> rfl

/-- A directory that can be listed is there. -/
theorem isThere_of_listFiles {dir : Path} {names : List String}
    (h : FileStore.listFiles d dir = .ok names) : FileStore.pathExists d dir = true := by
  have isThere : d.isThere dir = true := by
    rw [listFiles_eq] at h
    cases found : d.findDirectory dir with
    | error failure => simp [found, Except.map, Except.mapError] at h
    | ok number => rw [isThere, findDirectory_eq_ok_iff.mp found]
  exact isThere

/-- With one more file a directory is listed as before, but for that file. -/
theorem listFiles_put (inside : here < d.directories.size) (vacant : d.child? here name = none)
    (bytes : ByteArray) (dir : Path) :
    (∃ e e', FileStore.listFiles d dir = .error e ∧
      FileStore.listFiles (d.put here name (.file bytes)) dir = .error e') ∨
    ∃ names names', FileStore.listFiles d dir = .ok names ∧
      FileStore.listFiles (d.put here name (.file bytes)) dir = .ok names' ∧
      ∀ chosen : String → Bool, chosen name = false →
        names'.filter chosen = names.filter chosen := by
  rw [listFiles_eq, listFiles_eq]
  rcases findDirectory_beside (beside_put inside vacant bytes) dir with same | ⟨missing, none⟩
  · rw [same]
    cases d.findDirectory dir with
    | error failure => exact Or.inl ⟨_, _, rfl, rfl⟩
    | ok number =>
      refine Or.inr ⟨_, _, rfl, rfl, ?_⟩
      intro chosen left
      dsimp only
      rw [entries_put_of_vacant inside vacant]
      split
      · rename_i isHere
        rw [isHere]
        exact filter_fileNames_cons _ left
      · rfl
  · rw [missing, none]
    exact Or.inl ⟨_, _, rfl, rfl⟩

/-! ## Contents -/

theorem readText_eq (d : Disk) (path : Path) :
    d.readText path = (d.resolve .look path).bind fun target =>
      match target with
      | .file _ _ bytes =>
        match String.fromUTF8? bytes with
        | some text => .ok text
        | none => .error notUtf8
      | .directory _ => .error isADirectory
      | .vacant .. => .error noSuchFile := rfl

/-- With one more file a text is read as before, or it is read from that file and could not be read
before, or it cannot be read either way. -/
theorem readText_beside {text : String} (beside : Beside here name text.toUTF8 d d')
    (path : Path) :
    FileStore.readText d' path = FileStore.readText d path ∨
      (∃ e, FileStore.readText d path = .error e) ∧
        (FileStore.readText d' path = .ok text ∨ ∃ e', FileStore.readText d' path = .error e') := by
  have unfolded (d : Disk) : FileStore.readText d path = (d.readText path).mapError
      (.ofFailure path) := rfl
  rw [unfolded, unfolded, readText_eq, readText_eq]
  have alike := resolve_beside beside .look path
  generalize d.resolve .look path = result at alike
  generalize d'.resolve .look path = result' at alike
  cases alike with
  | same => exact Or.inl rfl
  | ends =>
    refine Or.inr ⟨⟨_, rfl⟩, Or.inl ?_⟩
    simp only [Except.bind, fromUTF8?_toUTF8, Except.mapError]
  | goesOn => exact Or.inr ⟨⟨_, rfl⟩, Or.inr ⟨_, rfl⟩⟩

end Disk

/-! ## Batches -/

/-- How many icons of a batch have failed, from which of them have become components. -/
theorem Batch.failed_report (b : Batch) (ns : Nat) :
    (b.report ns).failed = (b.results.map fun x => (x.1, x.2.isOk)).countP fun x => !x.2 := by
  have left : (b.skipped.map fun s =>
      (⟨s.fileName, .skipped s.reason.message⟩ : FileResult)).countP
        (fun f => f.status.isFailed) = 0 := by
    simp [List.countP_eq_zero, Status.isFailed]
  rw [Report.failed, Batch.report, reportOf, List.countP_append, left, Nat.zero_add,
    List.countP_map, List.countP_map]
  apply List.countP_congr
  rintro ⟨source, e | component⟩ - <;>
    simp [statusOf, Status.isFailed, Except.isOk, Except.toBool]

/-- Two batches of the same icons with the same components and as many failures, of which both break
off at one icon or none does. -/
structure SameBatch (b b' : Batch) : Prop where
  components : b'.components = b.components
  failed : ∀ ns ns', (b'.report ns').failed = (b.report ns).failed
  crash : b'.crash = b.crash

section

variable {read read' : Source → Except FileError String}

/-- Contents are alike: each is the same, or it holds no icon either way. -/
def AlikeContents (read read' : Source → Except FileError String) : Prop :=
  ∀ source, read' source = read source ∨ HoldsNone (read source) ∧ HoldsNone (read' source)

/-- Alike contents have the same readings, but for those that are no documents, and the program
breaks off at the same icon of a row. -/
theorem readAll_alike (options : Options) (alike : AlikeContents read read')
    (sources : List Source) :
    let row := readAll (sources.map fun source => (source, read source))
    let row' := readAll (sources.map fun source => (source, read' source))
    row'.1.filter (fun x => canRender options x.2) = row.1.filter (fun x => canRender options x.2) ∧
      row'.1.map (fun x => (x.1, canRender options x.2)) =
        row.1.map (fun x => (x.1, canRender options x.2)) ∧
      row'.2 = row.2 := by
  intro row row'
  induction sources with
  | nil => exact ⟨rfl, rfl, rfl⟩
  | cons source sources ih =>
    obtain ⟨usable, outcomes, crash⟩ := ih
    simp only [row, row', List.map_cons, readAll]
    rcases alike source with same | ⟨⟨e, none⟩, e', none'⟩
    · rw [same]
      cases readIcon (read source) with
      | error crash => exact ⟨rfl, rfl, rfl⟩
      | ok reading =>
        refine ⟨?_, ?_, crash⟩
        · rw [List.filter_cons, List.filter_cons, usable]
        · rw [List.map_cons, List.map_cons, outcomes]
    · simp only [none, none']
      refine ⟨?_, ?_, crash⟩
      · rw [List.filter_cons_of_neg (by simp [canRender]),
          List.filter_cons_of_neg (by simp [canRender]), usable]
      · rw [List.map_cons, List.map_cons, outcomes]
        rfl

/-- Batches of the same icons with alike contents are the same. -/
theorem Batch.ofContents_alike (options : Options) (alike : AlikeContents read read')
    (sources : List Source) (skipped skipped' : List Skipped) :
    SameBatch
      (Batch.ofContents options skipped (sources.map fun source => (source, read source)))
      (Batch.ofContents options skipped' (sources.map fun source => (source, read' source))) := by
  obtain ⟨usable, outcomes, crash⟩ := readAll_alike options alike sources
  set b := Batch.ofContents options skipped (sources.map fun source => (source, read source))
  set b' := Batch.ofContents options skipped' (sources.map fun source => (source, read' source))
  refine ⟨?components, ?failed, crash⟩
  case components =>
    -- the components are those of the usable icons alone
    have results : b'.results.filter (fun x => x.2.isOk) =
        b.results.filter fun x => x.2.isOk := by
      have rendered := congrArg (processAll options .empty) usable
      rwa [← processAll_filter, ← processAll_filter] at rendered
    rw [← b'.components_generated, ← b.components_generated, Batch.components, Batch.components,
      generated, generated, results]
  case failed =>
    intro ns ns'
    have results : b'.results.map (fun x => (x.1, x.2.isOk)) =
        b.results.map fun x => (x.1, x.2.isOk) :=
      (map_isOk_processAll options .empty _).trans
        (outcomes.trans (map_isOk_processAll options .empty _).symm)
    rw [failed_report, failed_report, results]

end

namespace Generation

open Disk

variable {d d' : Disk} {g : Generation} {here : Nat} {name text : String} {clock clock' : Clock}

/-- There is no batch where the directory cannot be listed or one of the patterns cannot be read. -/
theorem exists_batch_error {σ : Type} [FileStore σ] (g : Generation) (input : Path) (store : σ)
    (h : (∃ e, FileStore.listFiles store input = .error e) ∨
      ∃ e, compileExcludes g.options.exclude = .error e) : ∃ e, g.batch input store = .error e := by
  cases batched : g.batch input store with
  | error e => exact ⟨e, rfl⟩
  | ok b =>
    obtain ⟨-, excludes, names, compiled, listed, -⟩ := batch_eq_ok_iff.mp batched
    rcases h with ⟨e, failed⟩ | ⟨e, failed⟩
    · simp [failed] at listed
    · simp [failed] at compiled

/-- With one more file that is no icon, nor holds one, there is a batch or there is none as before,
with the same components and as many failures. -/
theorem batch_put (g : Generation) (inside : here < d.directories.size)
    (vacant : d.child? here name = none) (noIcon : isSvgFile name = false)
    (holdsNone : HoldsNone (.ok text)) (input : Path) :
    let d' := d.put here name (.file text.toUTF8)
    (∃ e e', g.batch input d = .error e ∧ g.batch input d' = .error e') ∨
      ∃ b b', g.batch input d = .ok b ∧ g.batch input d' = .ok b' ∧ SameBatch b b' := by
  intro d'
  have beside := beside_put inside vacant text.toUTF8
  rcases listFiles_put inside vacant text.toUTF8 input with
    ⟨e, e', failed, failed'⟩ | ⟨names, names', listed, listed', chosen⟩
  · obtain ⟨error, batched⟩ := g.exists_batch_error input d (Or.inl ⟨e, failed⟩)
    obtain ⟨error', batched'⟩ := g.exists_batch_error input d' (Or.inl ⟨e', failed'⟩)
    exact Or.inl ⟨error, error', batched, batched'⟩
  · cases compiled : compileExcludes g.options.exclude with
    | error e =>
      obtain ⟨error, batched⟩ := g.exists_batch_error input d (Or.inr ⟨e, compiled⟩)
      obtain ⟨error', batched'⟩ := g.exists_batch_error input d' (Or.inr ⟨e, compiled⟩)
      exact Or.inl ⟨error, error', batched, batched'⟩
    | ok excludes =>
      right
      have batched := batch_eq_ok_iff.mpr
        ⟨isThere_of_listFiles listed, excludes, names, compiled, listed, rfl⟩
      have batched' := batch_eq_ok_iff.mpr
        ⟨isThere_of_listFiles listed', excludes, names', compiled, listed', rfl⟩
      refine ⟨_, _, batched, batched', ?_⟩
      -- the file is left out, so that the sources are the same
      have sources : (discover input names' excludes).sources =
          (discover input names excludes).sources := by
        rw [discover, discover, chosen _ (by simp [skipReason?, noIcon])]
      rw [batchOf, batchOf, sources]
      apply Batch.ofContents_alike
      intro source
      dsimp only
      rcases readText_beside beside source.path with same | ⟨⟨e, failed⟩, read | ⟨e', failed'⟩⟩
      · exact Or.inl same
      · rw [failed, read]
        exact Or.inr ⟨holdsNone_error e, holdsNone⟩
      · rw [failed, failed']
        exact Or.inr ⟨holdsNone_error e, holdsNone_error e'⟩

/-! ## Writing a module -/

/-- Makes the directory of a module, if nothing is there. -/
def prepare (d : Disk) (output : Path) : Except Failure Unit × Disk :=
  if d.isThere output then (.ok (), d) else d.makeDirectories output

theorem makeDirectories_eq (d : Disk) (dir : Path) :
    FileStore.makeDirectories d dir =
      ((d.makeDirectories dir).1.mapError (.ofFailure dir), (d.makeDirectories dir).2) := rfl

/-- A store in which the directory of a module is prepared is the one that preparing it leaves. -/
theorem prepare_of_prepared {output : Path} {prepared : Disk}
    (isPrepared : Prepared d output prepared) :
    (prepare d output).1.isOk = true ∧ (prepare d output).2 = prepared := by
  rcases isPrepared with ⟨isThere, rfl⟩ | ⟨isMissing, made⟩
  · rw [prepare, if_pos (show prepared.isThere output = true from isThere)]
    exact ⟨rfl, rfl⟩
  · rw [prepare, show d.isThere output = false from isMissing, if_neg (by decide)]
    rw [makeDirectories_eq] at made
    obtain ⟨answer, left⟩ := Prod.mk.inj made
    rw [← isOk_mapError, answer]
    exact ⟨rfl, left⟩

/-- A module is written if its directory can be prepared and its file can then be written. The
directories that are there then are those that preparing it leaves. -/
theorem persist_eq_prepare (wf : d.WellFormed) (output path : Path) (artifact : String) :
    (persist output path artifact d).1.isOk =
        ((prepare d output).1.isOk && ((prepare d output).2.replaceFile path artifact).isOk) ∧
      ∀ around other number,
        (persist output path artifact d).2.child? around other = some (.directory number) ↔
          (prepare d output).2.child? around other = some (.directory number) := by
  rcases persist_cases output path artifact d with
    ⟨error, after, isMissing, made, eq⟩ | ⟨prepared, isPrepared, eq⟩
  · rw [makeDirectories_eq] at made
    obtain ⟨answer, rfl⟩ := Prod.mk.inj made
    rw [eq, prepare, show d.isThere output = false from isMissing, if_neg (by decide),
      ← isOk_mapError _ (d.makeDirectories output).1, answer]
    exact ⟨rfl, fun _ _ _ => Iff.rfl⟩
  · have wf' := (sameFiles_of_prepared wf isPrepared).2
    obtain ⟨isOk, left⟩ := prepare_of_prepared isPrepared
    rw [eq, isOk, left]
    rcases writeText_cases prepared path artifact with
      ⟨after, written, answer⟩ | ⟨failure, failed, answer⟩
    · rw [answer, written]
      refine ⟨rfl, fun around other number => ?_⟩
      obtain ⟨last, lastName, -, inside, noDirectory, rfl⟩ := replaceFile_ok wf' written
      show (prepared.put last lastName _).child? around other = _ ↔ _
      rw [child?_put inside]
      split
      · -- a file takes no directory's place
        rename_i isPlace
        rw [isPlace.1, isPlace.2]
        exact iff_of_false (by simp) (noDirectory number)
      · exact Iff.rfl
    · rw [answer, failed]
      exact ⟨rfl, fun _ _ _ => Iff.rfl⟩

/-- The directory of a module is prepared alike on two disks beside each other, or it is made on the
first where the second has its file. -/
theorem prepare_beside {bytes : ByteArray} (wf : d.WellFormed)
    (beside : Beside here name bytes d d') (output : Path) :
    MadeAlike here name bytes (prepare d output) (prepare d' output) ∨
      (prepare d output = d.makeDirectories output ∧ prepare d' output = (.ok (), d') ∧
        d'.resolve .look output = .ok (.file here name bytes)) := by
  rcases isThere_beside beside output with same | ⟨isMissing, isFile⟩
  · left
    rw [prepare, prepare, same]
    split
    · exact Or.inl ⟨rfl, beside⟩
    · exact makeDirectories_beside wf beside output
  · right
    have isThere : d'.isThere output = true := by rw [Disk.isThere, isFile]
    rw [prepare, prepare, isMissing, if_neg (by decide), if_pos isThere]
    exact ⟨rfl, rfl, isFile⟩

/-- A module is written beside one more file as it is without that file, unless its directory is
made where the file is. Then it cannot be written beside it. -/
theorem persist_beside {bytes : ByteArray} (wf : d.WellFormed)
    (beside : Beside here name bytes d d') {output : Path} (given : output.text ≠ "")
    {fileName : String} (plain : Path.PlainName fileName) (artifact : String) :
    let done := persist output (output.join ⟨fileName⟩) artifact d
    let done' := persist output (output.join ⟨fileName⟩) artifact d'
    (done'.1.isOk = done.1.isOk ∧
        (done.1.isOk = true → ∀ number, done.2.child? here name ≠ some (.directory number))) ∨
      (done'.1.isOk = false ∧ ∃ number, done.2.child? here name = some (.directory number)) := by
  intro done done'
  have wf' := beside.wellFormed wf
  obtain ⟨isOk, directories⟩ := persist_eq_prepare wf output (output.join ⟨fileName⟩) artifact
  obtain ⟨isOk', -⟩ := persist_eq_prepare wf' output (output.join ⟨fileName⟩) artifact
  simp only [done, done', isOk, isOk', ne_eq, directories]
  rcases prepare_beside wf beside output with alike | ⟨making, prepared', isFile⟩
  · rcases alike with ⟨same, besides⟩ | ⟨failed', failed | ⟨number, isThere⟩⟩
    · left
      rw [same, isOk_replaceFile_beside besides, besides.vacant]
      exact ⟨rfl, fun _ _ => by simp⟩
    · exact Or.inl (by simp [failed, failed'])
    · exact Or.inr ⟨by rw [failed', Bool.false_and], number, isThere⟩
  · -- on the second disk the module would have to be written into the file
    have failed' : (d'.replaceFile (output.join ⟨fileName⟩) artifact).isOk = false :=
      isOk_replaceFile_of_file wf' given plain isFile artifact
    rw [prepared', failed', making, Bool.and_false]
    rcases makeDirectories_beside wf beside output with
      ⟨-, besides⟩ | ⟨-, failed | ⟨number, isThere⟩⟩
    · -- nor is a directory made there on the first one
      obtain ⟨same', wfMade'⟩ := makeDirectories_spec wf' output
      obtain ⟨bytes', stillFile⟩ := same'.keeps.resolve_file wf' isFile
      have failed := isOk_replaceFile_of_file wfMade' given plain stillFile artifact
      rw [isOk_replaceFile_beside besides] at failed
      exact Or.inl (by simp [failed])
    · exact Or.inl (by simp [failed])
    · exact Or.inr ⟨rfl, number, isThere⟩

/-! ## Runs -/

/-- Two outcomes with the same module, written alike, and as many failures. -/
def SameOutcome (outcome outcome' : Outcome) : Prop :=
  outcome'.artifact = outcome.artifact ∧ outcome'.outputPath = outcome.outputPath ∧
    outcome'.written = outcome.written ∧ outcome'.report.failed = outcome.report.failed

/-- Two runs that are both stopped, or both break off alike, or are both carried out, with outcomes
that are the same. -/
inductive SameResult : Except Stop Outcome → Except Stop Outcome → Prop
  | stopped (e e' : GenerationError) : SameResult (.error (.failure e)) (.error (.failure e'))
  | broken (crash : Crash) : SameResult (.error (.crash crash)) (.error (.crash crash))
  | done {outcome outcome' : Outcome} :
      SameOutcome outcome outcome' → SameResult (.ok outcome) (.ok outcome')

theorem sameOutcome_outcomeOf (g : Generation) (output : Path) {b b' : Batch}
    (same : SameBatch b b') :
    SameOutcome (g.outcomeOf output clock b) (g.outcomeOf output clock' b') := by
  refine ⟨?_, rfl, rfl, same.failed _ _⟩
  simp only [outcomeOf, Batch.artifact, same.components]

/-- The module of a run that is carried out is written. -/
theorem writes_of_result {input output : Path} {b : Batch} (batched : g.batch input d = .ok b)
    {outcome : Outcome} (done : (g.run input output clock d).result = .ok outcome) :
    g.Writes output d b := by
  obtain ⟨other, isOther, writes, -⟩ := result_eq_ok_iff.mp done
  obtain rfl := Except.ok.inj (batched.symm.trans isOther)
  exact writes

/-- A run that does not break off and whose module is not written is stopped. -/
theorem exists_result_failure {input output : Path} {b : Batch} (clock : Clock)
    (batched : g.batch input d = .ok b) (whole : b.crash = none)
    (unwritten : ¬ g.Writes output d b) :
    ∃ e, (g.run input output clock d).result = .error (.failure e) := by
  cases result : (g.run input output clock d).result with
  | ok outcome => exact absurd (writes_of_result batched result) unwritten
  | error stop =>
    cases stop with
    | failure e => exact ⟨e, rfl⟩
    | crash crash =>
      obtain ⟨other, source, isOther, broken⟩ := result_eq_crash_iff.mp result
      obtain rfl := Except.ok.inj (batched.symm.trans isOther)
      simp [whole] at broken

/-- Runs whose batches are the same have the same result if both modules are written or none is. -/
theorem sameResult_of_writes {input output : Path} {b b' : Batch}
    (batched : g.batch input d = .ok b) (batched' : g.batch input d' = .ok b')
    (same : SameBatch b b') (writes_iff : g.Writes output d' b' ↔ g.Writes output d b) :
    SameResult (g.run input output clock d).result (g.run input output clock' d').result := by
  cases broken : b.crash with
  | some found =>
    obtain ⟨source, crash⟩ := found
    rw [run_of_crash batched broken, run_of_crash batched' (same.crash.trans broken)]
    exact .broken crash
  | none =>
    by_cases writes : g.Writes output d b
    · rw [result_eq_ok_iff.mpr ⟨b, batched, writes, rfl⟩,
        result_eq_ok_iff.mpr ⟨b', batched', writes_iff.mpr writes, rfl⟩]
      exact .done (sameOutcome_outcomeOf g output same)
    · obtain ⟨e, stopped⟩ := exists_result_failure clock batched broken writes
      obtain ⟨e', stopped'⟩ := exists_result_failure clock' batched'
        (same.crash.trans broken) (mt writes_iff.mp writes)
      rw [stopped, stopped']
      exact .stopped e e'

theorem writes_iff_isOk (real : g.dryRun = false) {output : Path} {b : Batch} :
    g.Writes output d b ↔ b.crash = none ∧
      (persist output (g.outputPath output) (b.artifact g.options.format) d).1.isOk = true := by
  rw [Writes, real]
  cases (persist output (g.outputPath output) (b.artifact g.options.format) d).1 with
  | error e => simp [Except.isOk, Except.toBool]
  | ok _ => simp [Except.isOk, Except.toBool]

/-- A run that is carried out and leaves a directory at a place. -/
def MakesDirectory (r : Run Disk) (here : Nat) (name : String) : Prop :=
  (∃ outcome, r.result = .ok outcome) ∧
    ∃ number, r.store.child? here name = some (.directory number)

/-- A run goes alike with one more file that is no icon, nor holds one, unless it makes a directory
where the file is. Then it is stopped. -/
theorem run_put (g : Generation) (input : Path) (clock clock' : Clock) (wf : d.WellFormed)
    (inside : here < d.directories.size) (vacant : d.child? here name = none)
    (noIcon : isSvgFile name = false) (holdsNone : HoldsNone (.ok text))
    {output : Path} (given : output.text ≠ "") (plain : Path.PlainName g.options.outputFileName) :
    let r := g.run input output clock d
    let r' := g.run input output clock' (d.put here name (.file text.toUTF8))
    (¬ MakesDirectory r here name ∧ SameResult r.result r'.result) ∨
      (MakesDirectory r here name ∧ ∃ e', r'.result = .error (.failure e')) := by
  intro r r'
  have leavesNone (h : ¬ ∃ outcome, r.result = .ok outcome) : ¬ MakesDirectory r here name :=
    fun makes => h makes.1
  rcases batch_put g inside vacant noIcon holdsNone input with
    ⟨e, e', noBatch, noBatch'⟩ | ⟨b, b', batched, batched', same⟩
  · have stopped : r.result = .error (.failure e) := result_eq_failure_iff.mpr (Or.inl noBatch)
    have stopped' : r'.result = .error (.failure e') := result_eq_failure_iff.mpr (Or.inl noBatch')
    refine Or.inl ⟨leavesNone (by simp [stopped]), ?_⟩
    rw [stopped, stopped']
    exact .stopped e e'
  cases dry : g.dryRun with
  | true =>
    refine Or.inl ⟨?_, sameResult_of_writes batched batched' same ?_⟩
    · rintro ⟨-, number, isThere⟩
      rw [show r.store = d from store_of_dry dry d, vacant] at isThere
      contradiction
    · simp [Writes, dry, same.crash]
  | false =>
    have artifact : b'.artifact g.options.format = b.artifact g.options.format := by
      simp only [Batch.artifact, same.components]
    have store (writes : g.Writes output d b) : r.store = _ := store_run dry batched writes.1
    rcases persist_beside wf (beside_put inside vacant text.toUTF8) given plain
      (b.artifact g.options.format) with ⟨sameAnswer, free⟩ | ⟨failed', number, isThere⟩
    · -- the module is written with the file just as without
      refine Or.inl ⟨?_, sameResult_of_writes batched batched' same ?_⟩
      · rintro ⟨⟨outcome, done⟩, number, isThere⟩
        have writes := writes_of_result batched done
        rw [store writes] at isThere
        exact free ((writes_iff_isOk dry).mp writes).2 number isThere
      · rw [writes_iff_isOk dry, writes_iff_isOk dry, artifact, outputPath, sameAnswer, same.crash]
    · -- the module cannot be written with the file
      have unwritten' : ¬ g.Writes output (d.put here name (.file text.toUTF8)) b' := by
        rw [writes_iff_isOk dry, artifact, outputPath, failed']
        exact fun writes => Bool.false_ne_true writes.2
      by_cases writes : g.Writes output d b
      · have done : r.result = .ok (g.outcomeOf output clock b) :=
          result_eq_ok_iff.mpr ⟨b, batched, writes, rfl⟩
        refine Or.inr ⟨⟨⟨_, done⟩, number, ?_⟩,
          exists_result_failure clock' batched' (same.crash.trans writes.1) unwritten'⟩
        rw [store writes]
        exact isThere
      · refine Or.inl ⟨leavesNone ?_, sameResult_of_writes batched batched' same
          (iff_of_false unwritten' writes)⟩
        rintro ⟨outcome, done⟩
        exact writes (writes_of_result batched done)

end Generation

end IconForge
