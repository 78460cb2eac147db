import IconForge.Proofs.Generation.Course
import IconForge.Proofs.Store.Memory
import IconForge.Settings.Validation
import IconForge.Store.Faults

/-!
# What a run leaves behind

A run reads, and at its end it writes one file. So a run that is stopped or breaks off, wherever
that happens, and a dry run leave all files as they were; a run that is not stopped has written its
module and nothing else. Any failures may be injected into the store, and any icons may fail.

## Main statements

- `persist_memory_cases`: what the writing of a module does to a store in memory with faults.
- `Generation.run_leaves_files`: what a run does to such a store.
-/

namespace IconForge

/-- A plain file name is one component of a path. -/
theorem plainName_of_isPlainFileName {name : String} (plain : isPlainFileName name = true) :
    Path.PlainName name := by
  simp only [isPlainFileName, Bool.and_eq_true, Bool.not_eq_true', bne_iff_ne, ne_eq,
    List.any_eq_false, Bool.or_eq_true, beq_iff_eq, not_or] at plain
  obtain ⟨⟨⟨given, noSlash⟩, notDot⟩, notDots⟩ := plain
  refine ⟨by simpa using given, fun slash => (noSlash _ slash).1 rfl, ?_, ?_⟩
  · intro dot
    exact notDot (String.toList_inj.mp dot)
  · intro dots
    exact notDots (String.toList_inj.mp dots)

namespace FaultyStore

variable (faults : List StoreFault) (s : MemoryStore)

/-- With faults too, a directory that cannot be made changes nothing. -/
theorem makeDirectories_cases (dir : Path) :
    (∃ e, FileStore.makeDirectories (FaultyStore.mk faults s) dir = (.error e, ⟨faults, s⟩)) ∨
      FileStore.makeDirectories (FaultyStore.mk faults s) dir =
        (.ok (), ⟨faults, s.addDirectory dir.components⟩) := by
  cases fault : (FaultyStore.mk faults s).error? .makeDirectories dir with
  | some e => exact Or.inl ⟨e, by simp [FileStore.makeDirectories, fault]⟩
  | none =>
    rcases s.makeDirectories_cases dir with ⟨e, eq⟩ | ⟨-, eq⟩
    · exact Or.inl ⟨e, by simp [FileStore.makeDirectories, fault, eq]⟩
    · exact Or.inr (by simp [FileStore.makeDirectories, fault, eq])

/-- With faults too, a file that cannot be written changes nothing. -/
theorem writeText_cases (path : Path) (content : String) :
    (∃ e, FileStore.writeText (FaultyStore.mk faults s) path content = (.error e, ⟨faults, s⟩)) ∨
      FileStore.writeText (FaultyStore.mk faults s) path content =
        (.ok (), ⟨faults, s.wrote path.components content⟩) := by
  cases fault : (FaultyStore.mk faults s).error? .writeText path with
  | some e => exact Or.inl ⟨e, by simp [FileStore.writeText, fault]⟩
  | none =>
    rcases s.writeText_cases path content with ⟨e, eq⟩ | ⟨-, -, eq⟩
    · exact Or.inl ⟨e, by simp [FileStore.writeText, fault, eq]⟩
    · exact Or.inr (by simp [FileStore.writeText, fault, eq])

end FaultyStore

namespace MemoryStore

/-- No file is added, removed or changed, and no write is counted. -/
structure SameFiles (before now : MemoryStore) : Prop where
  files : now.files = before.files
  written : now.written = before.written

theorem SameFiles.refl (s : MemoryStore) : SameFiles s s := ⟨rfl, rfl⟩

theorem sameFiles_prepared (s : MemoryStore) (l : Location) : SameFiles s (s.prepared l) :=
  ⟨s.files_prepared l, s.written_prepared l⟩

/-- One file has been written, once and with this content, and no other one is different. -/
structure OnlyWrote (before now : MemoryStore) (path : Path) (content : String) : Prop where
  content : now.contents? path.components = some content
  counted : now.writes path.components = before.writes path.components + 1
  others : ∀ l ≠ path.components,
    now.contents? l = before.contents? l ∧ now.writes l = before.writes l

theorem onlyWrote_wrote (s : MemoryStore) (l : Location) (path : Path) (content : String) :
    OnlyWrote s ((s.prepared l).wrote path.components content) path content where
  content := by rw [contents?_wrote, if_pos rfl]
  counted := by rw [writes_wrote, if_pos rfl, writes, written_prepared]; rfl
  others := by
    intro k other
    constructor
    · rw [contents?_wrote, if_neg other, contents?, files_prepared]
      rfl
    · rw [writes_wrote, if_neg other, writes, written_prepared]
      rfl

end MemoryStore

namespace Generation

/-- Writing a module into a store in memory with faults: its directory cannot be made; or it has
been prepared, and then the module cannot be written, or is written and nothing else. -/
theorem persist_memory_cases (faults : List StoreFault) (s : MemoryStore) (output path : Path)
    (artifact : String) :
    (∃ e, persist output path artifact (FaultyStore.mk faults s) =
      (.error (.unwritten output e), ⟨faults, s⟩)) ∨
    (∃ e, persist output path artifact (FaultyStore.mk faults s) =
      (.error (.unwritten path e), ⟨faults, s.prepared output.components⟩)) ∨
    persist output path artifact (FaultyStore.mk faults s) =
      (.ok (), ⟨faults, (s.prepared output.components).wrote path.components artifact⟩) := by
  rcases persist_cases output path artifact (FaultyStore.mk faults s) with
    ⟨e, after, -, failed, eq⟩ | ⟨after, prepared, eq⟩
  · -- making the directory has failed, so the store is the one before
    rcases FaultyStore.makeDirectories_cases faults s output with ⟨e', made⟩ | made
    · obtain ⟨-, rfl⟩ := Prod.mk.inj (failed.symm.trans made)
      exact Or.inl ⟨e, eq⟩
    · simp [failed] at made
  · obtain rfl : after = ⟨faults, s.prepared output.components⟩ := by
      rw [prepared.eq_ite (FaultyStore.makeDirectories_cases faults s output),
        MemoryStore.prepared, apply_ite (FaultyStore.mk faults)]
      rfl
    rcases FaultyStore.writeText_cases faults (s.prepared output.components) path artifact with
      ⟨e, written⟩ | written
    · exact Or.inr (Or.inl ⟨e, by rw [eq, written]; rfl⟩)
    · exact Or.inr (Or.inr (by rw [eq, written]; rfl))

/-- What a run does to a store in memory, for its result. A run that is stopped leaves the files
alone, and the directories too, unless the directory of the module was made before the module could
not be written. A run that is not stopped has written its module, once, and no other file; where it
had to make the directory for a module with a plain name, there is nothing else in that directory. A
dry run changes nothing, and neither does one that breaks off. -/
def Leaves (g : Generation) (output : Path) (before now : MemoryStore) :
    Except Stop Outcome → Prop
  | .error (.crash _) => now = before
  | .error (.failure e) =>
    before.SameFiles now ∧
      (now = before ∨ g.dryRun = false ∧
        (∃ error, e = .unwritten (g.outputPath output) error) ∧
        now = before.addDirectory output.components)
  | .ok outcome =>
    if g.dryRun then now = before
    else
      before.OnlyWrote now outcome.outputPath outcome.artifact ∧
        (isPlainFileName g.options.outputFileName = true → output.isEmpty = false →
          before.holds output.components = false →
            now.listFiles output = .ok [g.options.outputFileName])

/-- A run leaves a store in memory so, in whatever way the store has been reached and whatever
faults it has. -/
theorem run_leaves_files (operations : List MemoryStore.Operation) (faults : List StoreFault)
    (g : Generation) (input output : Path) (clock : Clock) :
    let before := MemoryStore.after operations
    let r := g.run input output clock (FaultyStore.mk faults before)
    g.Leaves output before r.store.store r.result := by
  intro before r
  have wf : before.WellFormed := MemoryStore.wellFormed_after operations
  rcases run_cases g input output clock (FaultyStore.mk faults before) with
    ⟨e, -, run⟩ | ⟨b, -, ⟨source, crash, -, run⟩ | ⟨-, ⟨dry, run⟩ | ⟨real, run⟩⟩⟩
  · -- stopped before there is a batch
    have eq : r = .stopped e [] (FaultyStore.mk faults before) := run
    simp only [Leaves, eq, Run.stopped]
    exact ⟨.refl before, Or.inl trivial⟩
  · -- broken off at an icon
    have eq : r = ⟨_, _, FaultyStore.mk faults before⟩ := run
    simp only [Leaves, eq]
  · -- a dry run
    have eq : r = g.close output clock b (.ok ()) (FaultyStore.mk faults before) := run
    simp [Leaves, eq, close, dry]
  · have eq : r = g.close output clock b _ _ := run
    rcases persist_memory_cases faults before output (g.outputPath output)
        (b.artifact g.options.format) with ⟨e, done⟩ | ⟨e, done⟩ | done
    · -- the directory cannot be made
      simp only [Leaves, eq, done, close, Run.stopped]
      exact ⟨.refl before, Or.inl trivial⟩
    · -- the module cannot be written into its directory
      simp only [Leaves, eq, done, close, Run.stopped]
      refine ⟨before.sameFiles_prepared output.components, ?_⟩
      cases isThere : before.holds output.components with
      | true => exact Or.inl (by simp [MemoryStore.prepared, isThere])
      | false =>
        exact Or.inr ⟨real, ⟨e, rfl⟩, by simp [MemoryStore.prepared, isThere]⟩
    · -- the module is written
      simp only [Leaves, eq, done, close, real, Bool.false_eq_true, if_false]
      refine ⟨before.onlyWrote_wrote output.components (g.outputPath output) _, ?_⟩
      intro plain given isMissing
      have given : output.text ≠ "" := by simpa [Path.isEmpty] using given
      rw [outputPath, Path.components_join given (plainName_of_isPlainFileName plain),
        MemoryStore.prepared, isMissing]
      exact wf.listFiles_of_fresh (fun none => given ((Path.components_eq_nil_iff _).mp none))
        isMissing _

/-- A directory with one icon, and a module for a directory that is not there. -/
theorem run_leaves_one_file :
    let before := MemoryStore.after [.addFile ⟨"in/home.svg"⟩ "<svg title=\"Home\"/>"]
    let clock : Clock := fun _ => 0
    let r := ({} : Generation).run ⟨"in"⟩ ⟨"build/icons"⟩ clock (FaultyStore.mk [] before)
    r.result.toOption.isSome = true ∧
      before.holds (Path.mk "build/icons").components = false ∧
      r.store.store.listFiles ⟨"build/icons"⟩ = .ok ["icons.jsx"] := by
  intro before clock r
  have runs : r.result.toOption.isSome = true := by
    rw [show r = _ from run_eq ..]
    decide +kernel
  have isMissing : before.holds (Path.mk "build/icons").components = false := by decide +kernel
  refine ⟨runs, isMissing, ?_⟩
  have leaves : Leaves {} ⟨"build/icons"⟩ before r.store.store r.result :=
    run_leaves_files [.addFile ⟨"in/home.svg"⟩ "<svg title=\"Home\"/>"] [] {} ⟨"in"⟩ ⟨"build/icons"⟩
      clock
  cases result : r.result with
  | error e => simp [result, Except.toOption] at runs
  | ok outcome =>
    rw [result] at leaves
    exact leaves.2 (by decide) (by decide) isMissing

end Generation

end IconForge
