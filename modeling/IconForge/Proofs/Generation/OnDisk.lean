import IconForge.Proofs.Generation.Course
import IconForge.Proofs.Store.Disk.Changes

/-!
# What a run does to a disk

A run that is carried out has written its module and no other file: it makes the directories that
are missing, and then the module takes the place of the last name of its path. A run that is stopped
has changed no file, and a dry run and one that breaks off have changed nothing at all.

## Main statements

- `persist_disk_cases`: what the writing of a module does to a disk.
- `Generation.wrote_of_ok`, `Generation.sameFiles_of_failure`, `Generation.store_of_dry`,
  `Generation.store_of_crash`: what a run does, for its result.
-/

namespace IconForge

namespace Disk

/-- A text has been written at a path, after making directories that were missing: the text has
taken the place of the last name of the path, and nothing else is different. If that was no link,
the text is found where the path leads. -/
def Wrote (before after : Disk) (path : Path) (text : String) : Prop :=
  ∃ prepared around name, before.SameFiles prepared ∧
    prepared.lastName path = .ok ⟨around, some name, false⟩ ∧
    after.child? around name = some (.file text.toUTF8) ∧
    (∀ here other, ¬ (here = around ∧ other = name) →
      after.child? here other = prepared.child? here other) ∧
    ((∀ target, prepared.child? around name ≠ some (.link target)) →
      after.readText path = .ok text)

variable {d prepared after : Disk} {path : Path} {text : String}

/-- Where the directories have been prepared, a file that is written is all that has changed. -/
theorem wrote_of_replaceFile (same : d.SameFiles prepared) (wf : prepared.WellFormed)
    (written : prepared.replaceFile path text = .ok after) : d.Wrote after path text := by
  obtain ⟨around, name, found, inside, noDirectory, rfl⟩ := replaceFile_ok wf written
  refine ⟨prepared, around, name, same, found, ?_, ?_, ?_⟩
  · rw [child?_put inside, if_pos ⟨rfl, rfl⟩]
  · intro here other elsewhere
    rw [child?_put inside, if_neg elsewhere]
  · intro noLink
    apply readText_put wf found
    -- neither a directory nor a link was there, so it was a file or nothing
    intro e isThere
    cases e with
    | file bytes => exact ⟨bytes, rfl⟩
    | directory number => exact absurd isThere (noDirectory number)
    | link target => exact absurd isThere (noLink target)

theorem writeText_cases (d : Disk) (path : Path) (text : String) :
    (∃ after, d.replaceFile path text = .ok after ∧
      FileStore.writeText d path text = (.ok (), after)) ∨
    ∃ failure, d.replaceFile path text = .error failure ∧
      FileStore.writeText d path text = (.error (.ofFailure path failure), d) := by
  cases written : d.replaceFile path text with
  | ok after => exact Or.inl ⟨after, rfl, by simp [FileStore.writeText, written]⟩
  | error failure => exact Or.inr ⟨failure, rfl, by simp [FileStore.writeText, written]⟩

/-- A directory that is being prepared, or made in vain, costs no file. -/
theorem sameFiles_of_makeDirectories (wf : d.WellFormed) {dir : Path}
    {answer : Except FileError Unit} (made : FileStore.makeDirectories d dir = (answer, after)) :
    d.SameFiles after ∧ after.WellFormed := by
  obtain ⟨-, rfl⟩ := Prod.mk.inj made
  exact makeDirectories_spec wf dir

theorem sameFiles_of_prepared (wf : d.WellFormed) {dir : Path}
    (isPrepared : Generation.Prepared d dir prepared) :
    d.SameFiles prepared ∧ prepared.WellFormed := by
  rcases isPrepared with ⟨-, rfl⟩ | ⟨-, made⟩
  · exact ⟨.refl _, wf⟩
  · exact sameFiles_of_makeDirectories wf made

end Disk

namespace Generation

open Disk

variable {d : Disk} {g : Generation} {input output path : Path} {clock : Clock}

/-- A module is written, or it is not and no file has changed. -/
theorem persist_disk_cases (wf : d.WellFormed) (output path : Path) (artifact : String) :
    (∃ after, persist output path artifact d = (.ok (), after) ∧ d.Wrote after path artifact) ∨
    ∃ e after, persist output path artifact d = (.error e, after) ∧ d.SameFiles after := by
  rcases persist_cases output path artifact d with
    ⟨error, after, -, made, eq⟩ | ⟨prepared, isPrepared, eq⟩
  · exact Or.inr ⟨_, after, eq, (sameFiles_of_makeDirectories wf made).1⟩
  · obtain ⟨same, wf'⟩ := sameFiles_of_prepared wf isPrepared
    rcases writeText_cases prepared path artifact with
      ⟨after, written, answer⟩ | ⟨failure, -, answer⟩
    · exact Or.inl ⟨after, by rw [eq, answer]; rfl, wrote_of_replaceFile same wf' written⟩
    · exact Or.inr ⟨_, prepared, by rw [eq, answer]; rfl, same⟩

/-- A run that is carried out has written its module. -/
theorem wrote_of_ok (wf : d.WellFormed) (real : g.dryRun = false) {outcome : Outcome}
    (done : (g.run input output clock d).result = .ok outcome) :
    d.Wrote (g.run input output clock d).store outcome.outputPath outcome.artifact := by
  obtain ⟨b, batched, ⟨whole, writes⟩, rfl⟩ := result_eq_ok_iff.mp done
  have written := writes.resolve_left (by simp [real])
  rw [store_run real batched whole]
  rcases persist_disk_cases wf output (g.outputPath output) (b.artifact g.options.format) with
    ⟨after, eq, wrote⟩ | ⟨e, after, eq, -⟩
  · rw [eq]
    exact wrote
  · simp [eq] at written

/-- A run that is stopped has changed no file. -/
theorem sameFiles_of_failure (wf : d.WellFormed) {e : GenerationError}
    (stopped : (g.run input output clock d).result = .error (.failure e)) :
    d.SameFiles (g.run input output clock d).store := by
  rcases result_eq_failure_iff.mp stopped with failed | ⟨b, batched, whole, real, unwritten⟩
  · rcases run_cases g input output clock d with ⟨e', -, run⟩ | ⟨b, batched, -⟩
    · rw [run]
      exact .refl d
    · simp [failed] at batched
  · rw [store_run real batched whole]
    rcases persist_disk_cases wf output (g.outputPath output) (b.artifact g.options.format) with
      ⟨after, eq, -⟩ | ⟨e', after, eq, same⟩
    · simp [eq] at unwritten
    · rw [eq]
      exact same

/-- A dry run changes nothing, in any store. -/
theorem store_of_dry {σ : Type} [FileStore σ] (dry : g.dryRun = true) (store : σ) :
    (g.run input output clock store).store = store := by
  rcases run_cases g input output clock store with
    ⟨e, -, run⟩ | ⟨b, -, ⟨source, crash, -, run⟩ | ⟨-, ⟨-, run⟩ | ⟨real, -⟩⟩⟩
  · rw [run]
    rfl
  · rw [run]
  · rw [run, store_close]
  · simp [dry] at real

/-- Nor does a run that breaks off. -/
theorem store_of_crash {σ : Type} [FileStore σ] {store : σ} {crash : Crash}
    (broken : (g.run input output clock store).result = .error (.crash crash)) :
    (g.run input output clock store).store = store := by
  obtain ⟨b, source, batched, breaks⟩ := result_eq_crash_iff.mp broken
  rw [run_of_crash batched breaks]

end Generation

end IconForge
