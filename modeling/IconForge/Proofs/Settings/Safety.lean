import IconForge.Proofs.Generation.Events
import IconForge.Proofs.Generation.Persistence
import IconForge.Proofs.Path.Parent
import IconForge.Proofs.Settings.Problems
import IconForge.Settings.Workspace

/-!
# Sound settings do not fail a run

What is checked before a run is what the run relies on. Under settings without problems no pattern
stops a run, no icon fails because its name is no identifier, and the module stands in its directory
under the name that the settings give. The checks are no stricter than that: whenever a pattern
would be refused, or an icon could fail in its name, the setting is named, and only then.

## Main statements

- `exists_failsInName_iff`: when an icon can fail in its name.
- `Generation.result_ne_invalidPattern`, `Generation.not_failsInName_of_batch`: what then cannot
  happen in a run.
- `Settings.dependable_of_problems_eq_nil`: runs under sound settings.
- `Settings.problems_decide_runs`: both directions.
-/

namespace IconForge

open IconForge.Markup IconForge.Progress

/-! ## Failing in the name -/

/-- An icon fails because the name that it would get is no identifier. -/
def FailsInName (result : Except IconError Component) : Prop :=
  ∃ name, result = .error (.unnamed (.invalidIdentifier name))

variable {options : Options}

/-- An icon is read without its name being asked for. -/
theorem readIcon_ne_unnamed (given : Except FileError String) (e : NamingError) :
    readIcon given ≠ .ok (.error (.unnamed e)) := by
  cases given with
  | error failure => simp [readIcon]
  | ok text =>
    rw [readIcon]
    rcases Document.read text with (malformed | crash) | doc <;> simp

/-- With a suffix that is a word no icon fails in its name, whatever names are taken. -/
theorem not_failsInName_renderIcon (word : isWord options.naming.suffix = true) (r : Registry)
    (stem : String) {given : Except FileError String} {reading : Except IconError Document}
    (read : readIcon given = .ok reading) :
    ¬ FailsInName (renderIcon options r stem reading).1 := by
  rintro ⟨name, failed⟩
  rcases renderIcon_cases options r stem reading with
    ⟨e, rfl, eq⟩ | ⟨doc, -, ⟨e, answer, eq⟩ | ⟨id, -, eq⟩⟩
  · obtain rfl : e = .unnamed (.invalidIdentifier name) := by simpa [eq] using failed
    exact readIcon_ne_unnamed given _ read
  · obtain rfl : e = .invalidIdentifier name := by simpa [eq] using failed
    have noWord := (Registry.synthesize_eq_invalid_iff.mp ⟨name, answer⟩).2
    exact absurd (word.symm.trans noWord) (by simp)
  · simp [eq] at failed

/-- With any other suffix the first icon fails in its name, if it has no title. -/
theorem failsInName_processContent (options : Options)
    (noWord : isWord options.naming.suffix = false) (stem : String) :
    ∃ done, processContent options .empty stem (.ok "<svg/>") = .ok done ∧ FailsInName done.1 := by
  let doc : Document := ⟨"svg", [], [], ""⟩
  have read : readIcon (.ok "<svg/>") = .ok (.ok doc) :=
    readIcon_eq_ok_iff.mpr ⟨_, rfl, by cbv⟩
  refine ⟨_, by rw [processContent, read]; rfl, ?_⟩
  obtain ⟨name, answer⟩ : ∃ name, (Registry.empty.synthesize
      (IconAttributes.ofDocument doc options.sizes).title stem options.naming).1 =
        .error (.invalidIdentifier name) :=
    Registry.synthesize_eq_invalid_iff.mpr ⟨rfl, noWord⟩
  rcases renderIcon_cases options .empty stem (.ok doc) with
    ⟨e, absurd, -⟩ | ⟨found, here, named⟩
  · simp at absurd
  · obtain rfl := Except.ok.inj here
    rcases named with ⟨e, refused, eq⟩ | ⟨id, made, -⟩
    · obtain rfl := Except.error.inj (answer.symm.trans refused)
      exact ⟨name, by rw [eq]⟩
    · exact absurd (answer.symm.trans made) (by simp)

/-- Some icon can fail in its name, at some point of a batch, if and only if the suffix is no
word. -/
theorem exists_failsInName_iff :
    (∃ r stem given done, processContent options r stem given = .ok done ∧ FailsInName done.1) ↔
      isWord options.naming.suffix = false := by
  constructor
  · rintro ⟨r, stem, given, done, processed, fails⟩
    cases read : readIcon given with
    | error crash => simp [processContent, read, Except.map] at processed
    | ok reading =>
      obtain rfl : renderIcon options r stem reading = done := by
        simpa [processContent, read, Except.map] using processed
      by_contra word
      exact not_failsInName_renderIcon (by simpa using word) r stem read fails
  · intro noWord
    obtain ⟨done, processed, fails⟩ := failsInName_processContent options noWord ""
    exact ⟨_, _, _, done, processed, fails⟩

/-- With a suffix that is a word no icon of a row fails in its name. -/
theorem not_failsInName_processAll (word : isWord options.naming.suffix = true) (r : Registry)
    {readings : List (Source × Except IconError Document)}
    (read : ∀ x ∈ readings, ∃ given, readIcon given = .ok x.2) :
    ∀ x ∈ processAll options r readings, ¬ FailsInName x.2 := by
  induction readings generalizing r with
  | nil => simp [processAll]
  | cons head rest ih =>
    obtain ⟨source, reading⟩ := head
    obtain ⟨⟨given, here⟩, later⟩ := List.forall_mem_cons.mp read
    rw [processAll_cons]
    exact List.forall_mem_cons.mpr
      ⟨not_failsInName_renderIcon word r source.stem here, ih _ later⟩

/-! ## What is told of it -/

theorem head?_toList_append {s : String} {c : Char} (h : s.toList.head? = some c) (t : String) :
    (s ++ t).toList.head? = some c := by
  rw [String.toList_append, List.head?_append, h]
  rfl

/-- The message of a name that is no identifier begins with a quote, and no other one does. -/
theorem failsInName_of_message_eq {e : IconError} {name : String}
    (h : e.message = (NamingError.invalidIdentifier name).message) :
    ∃ name', e = .unnamed (.invalidIdentifier name') := by
  have quote : e.message.toList.head? = some '\x27' := by
    rw [h]
    exact head?_toList_append (head?_toList_append rfl name) _
  have noLetter {c : Char} (letter : e.message.toList.head? = some c) (other : c ≠ '\x27') :
      False :=
    other (Option.some.inj (letter.symm.trans quote))
  cases e with
  | unreadable error =>
    cases error with
    | notFound path =>
      exact (noLetter (c := 'n') (head?_toList_append rfl _) (by decide)).elim
    | permissionDenied path =>
      exact (noLetter (c := 'p') (head?_toList_append rfl _) (by decide)).elim
    | diskFull path =>
      exact (noLetter (c := 'd') (head?_toList_append rfl _) (by decide)).elim
    | other path message =>
      have letter := head?_toList_append (c := 'I') (s := "I/O error on ") rfl path.text
      exact (noLetter (head?_toList_append (head?_toList_append letter _) _) (by decide)).elim
  | malformed error =>
    exact (noLetter (c := 'm') (head?_toList_append rfl _) (by decide)).elim
  | unnamed error =>
    cases error with
    | emptyIdentifier title =>
      have letter := head?_toList_append (c := 'c') (s := "cannot derive an identifier from '") rfl
        title
      exact (noLetter (head?_toList_append letter _) (by decide)).elim
    | invalidIdentifier name' => exact ⟨name', rfl⟩

namespace Generation

variable {σ : Type} [FileStore σ] {g : Generation} {input output : Path} {clock : Clock} {store : σ}

/-- What a batch tells of failures are the failures of its icons. -/
theorem exists_of_failed_mem_batch {b : Batch} {took : Nat → Nat} {file message : String}
    (mem : .failed file message ∈ b.events took) :
    ∃ x ∈ b.results, ∃ e, x.2 = .error e ∧ message = e.message := by
  simp only [Batch.events, Batch.tales, List.mem_cons, List.mem_append, List.mem_map,
    List.mem_flatten, List.mem_mapIdx, reduceCtorEq, false_or, or_false, and_false,
    exists_false] at mem
  obtain ⟨tale, ⟨i, inside, rfl⟩, here⟩ := mem
  refine ⟨b.results[i], List.getElem_mem inside, ?_⟩
  cases result : b.results[i].2 with
  | error e =>
    obtain ⟨-, rfl⟩ : file = b.results[i].1.fileName ∧ message = e.message := by
      simpa [Batch.iconEvents, endingOf, result] using here
    exact ⟨e, rfl, rfl⟩
  | ok component => simp [Batch.iconEvents, endingOf, result] at here

/-- What a run tells of failures are the failures of the icons in its batch. -/
theorem exists_of_failed_mem_events {file message : String}
    (mem : .failed file message ∈ (g.run input output clock store).events) :
    ∃ b, g.batch input store = .ok b ∧
      ∃ x ∈ b.results, ∃ e, x.2 = .error e ∧ message = e.message := by
  rcases run_cases g input output clock store with
    ⟨e, -, run⟩ | ⟨b, batched, ⟨source, crash, -, run⟩ | ⟨whole, -⟩⟩
  · simp [run, Run.stopped] at mem
  · rw [run] at mem
    exact ⟨b, batched, exists_of_failed_mem_batch mem⟩
  · obtain ⟨persisted, after, run, -⟩ := exists_close output clock batched whole
    obtain ⟨final, events, last, -⟩ := g.close_events output clock b persisted after
    rw [run, events, List.mem_append, List.mem_singleton] at mem
    rcases mem with told | rfl
    · exact ⟨b, batched, exists_of_failed_mem_batch told⟩
    · -- the last event is no failure
      simp [Event.isFinal] at last

/-! ## What cannot happen in a run -/

/-- Patterns that can be read stop no run: among the reasons for which one is stopped, they are not
left. -/
theorem result_ne_invalidPattern (read : (compileExcludes g.options.exclude).isOk = true)
    (error : ExcludeError) :
    (g.run input output clock store).result ≠ .error (.failure (.invalidPattern error)) := by
  intro stopped
  rcases result_eq_failure_iff.mp stopped with failed | ⟨b, -, -, -, unwritten⟩
  · rcases batch_error_cases failed with eq | ⟨error', -, refused⟩ | ⟨error', eq, -⟩
    · simp at eq
    · simp [refused, Except.isOk, Except.toBool] at read
    · simp at eq
  · obtain ⟨place, error', eq⟩ := persist_error unwritten
    simp at eq

/-- With a suffix that is a word no icon of a batch fails in its name. -/
theorem not_failsInName_of_batch (word : isWord g.options.naming.suffix = true) {b : Batch}
    (batched : g.batch input store = .ok b) : ∀ x ∈ b.results, ¬ FailsInName x.2 := by
  obtain ⟨-, excludes, names, -, -, rfl⟩ := batch_eq_ok_iff.mp batched
  refine not_failsInName_processAll word .empty fun x mem => ?_
  obtain ⟨given, -, isRead⟩ := exists_of_mem_readAll mem
  exact ⟨given, isRead⟩

/-- Nor is any icon said to fail in its name. -/
theorem failed_not_mem_events (word : isWord g.options.naming.suffix = true)
    (file name : String) :
    .failed file (NamingError.invalidIdentifier name).message ∉
      (g.run input output clock store).events := by
  intro mem
  obtain ⟨b, batched, x, isResult, e, failed, message⟩ := exists_of_failed_mem_events mem
  -- the message gives the reason away
  obtain ⟨name', rfl⟩ := failsInName_of_message_eq message.symm
  exact not_failsInName_of_batch word batched x isResult ⟨name', failed⟩

end Generation

/-! ## Runs in a workspace -/

namespace Workspace

variable {σ : Type} [FileStore σ]

def generation (w : Workspace) (dryRun : Bool) : Generation := ⟨w.options, dryRun⟩

/-- A run over the directories of a workspace. -/
def run (w : Workspace) (dryRun : Bool) (clock : Clock) (store : σ) : Run σ :=
  (w.generation dryRun).run w.srcDirectory w.outDirectory clock store

/-- A run in a workspace fails in nothing that its settings decide. -/
structure Dependable (w : Workspace) (dryRun : Bool) (clock : Clock) (store : σ) : Prop where
  patternsRead : ∀ error,
    (w.run dryRun clock store).result ≠ .error (.failure (.invalidPattern error))
  named : ∀ b, (w.generation dryRun).batch w.srcDirectory store = .ok b →
    ∀ x ∈ b.results, ¬ FailsInName x.2
  /-- Nor is any icon said to fail in its name. -/
  told : ∀ file name,
    .failed file (NamingError.invalidIdentifier name).message ∉ (w.run dryRun clock store).events
  placed : ∀ outcome, (w.run dryRun clock store).result = .ok outcome →
    outcome.outputPath = w.outputPath ∧
      (∃ parent, outcome.outputPath.parent? = some parent ∧ parent.Same w.outDirectory) ∧
      outcome.outputPath.fileName? = some w.settings.outputFileName

end Workspace

namespace Settings

variable {s : Settings}

/-- Without a name of its own, the module has a plain name too. -/
theorem plainName_outputFileName (plain : s.generate.outputFileName.all isPlainFileName = true) :
    Path.PlainName s.outputFileName := by
  apply plainName_of_isPlainFileName
  unfold outputFileName
  cases given : s.generate.outputFileName with
  | none => cases s.generate.format <;> decide
  | some name => simpa [given] using plain

/-- Under sound settings a run fails in nothing that they decide. -/
theorem dependable_of_problems_eq_nil (sound : s.problems = []) {w : Workspace}
    (settings : w.settings = s) {σ : Type} [FileStore σ] (dryRun : Bool) (clock : Clock)
    (store : σ) : w.Dependable dryRun clock store := by
  obtain ⟨read, word, isPlain⟩ := relied_on_of_problems_eq_nil sound
  have plain := plainName_outputFileName isPlain
  subst settings
  refine ⟨Generation.result_ne_invalidPattern read, ?_, Generation.failed_not_mem_events word, ?_⟩
  · exact fun b batched => Generation.not_failsInName_of_batch word batched
  · intro outcome done
    -- a run that is not stopped has the outcome of its batch, whose path is the one joined here
    obtain ⟨b, -, -, rfl⟩ := Generation.result_eq_ok_iff.mp done
    exact ⟨rfl, Path.parent?_join w.outDirectory plain, Path.fileName?_join w.outDirectory plain⟩

/-- Settings without problems fail no run: no pattern stops it, no icon fails in its name, and its
module stands in its directory under the name that is set. And settings that could fail one have a
problem that names what is wrong: just the patterns that are refused, by their numbers, and the
suffix if and only if some icon could fail in its name. -/
theorem problems_decide_runs (s : Settings) :
    (s.problems = [] → ∀ (root : Path) {σ : Type} [FileStore σ] (dryRun : Bool) (clock : Clock)
      (store : σ), (Workspace.ofSettings s root).Dependable dryRun clock store) ∧
    ((compileExcludes s.generate.exclude).isOk = false ↔ ∃ index, s.Names (.exclude index)) ∧
    (∀ index, s.Names (.exclude index) ↔
      ∃ text, s.generate.exclude[index]? = some text ∧ (compileExcludes [text]).isOk = false) ∧
    (s.Names .identifierSuffix ↔
      ∃ r stem given done, processContent s.options r stem given = .ok done ∧
        FailsInName done.1) := by
  refine ⟨?_, exists_names_exclude_iff.symm, names_exclude_iff, ?_⟩
  · intro sound root σ _ dryRun clock store
    exact dependable_of_problems_eq_nil sound rfl dryRun clock store
  · have fails : (∃ r stem given done, processContent s.options r stem given = .ok done ∧
        FailsInName done.1) ↔ isWord s.generate.identifierSuffix = false := exists_failsInName_iff
    rw [names_identifierSuffix_iff, fails]

/-- Sound settings with a suffix, patterns and a name for the module, over one icon; and the same
settings with two bad patterns around a good one and a suffix with a dash. -/
theorem problems_decide_runs_over_icon :
    let sound : Settings := {
      project := { src := ⟨"in"⟩, out := ⟨"out//."⟩ }
      generate := {
        outputFileName := some "...", identifierSuffix := "Glyph2", exclude := ["**/x", "[!h]*"] } }
    let unsound : Settings :=
      { sound with generate := {
          sound.generate with identifierSuffix := "-x", exclude := ["a**", "*", "[z"] } }
    let w := Workspace.ofSettings sound ⟨"/work"⟩
    let store := FaultyStore.mk [] (MemoryStore.after [.addFile ⟨"/work/in/home.svg"⟩ "<svg/>"])
    let clock : Clock := fun n => 1000000 * n
    sound.problems = [] ∧ (w.run false clock store).result.toOption.isSome = true ∧
      w.Dependable false clock store ∧
      unsound.Names (.exclude 0) ∧ ¬ unsound.Names (.exclude 1) ∧ unsound.Names (.exclude 2) ∧
      unsound.Names .identifierSuffix := by
  intro sound unsound w store clock
  have noProblems : sound.problems = [] := by decide +kernel
  have runs : (w.run false clock store).result.toOption.isSome = true := by decide +kernel
  have dependable := (problems_decide_runs sound).1 noProblems ⟨"/work"⟩ false clock store
  obtain ⟨-, -, excludes, suffix⟩ := problems_decide_runs unsound
  refine ⟨noProblems, runs, dependable, ?_, ?_, ?_, ?_⟩
  · exact (excludes 0).mpr ⟨"a**", rfl, by decide +kernel⟩
  · intro named
    obtain ⟨text, here, refused⟩ := (excludes 1).mp named
    obtain rfl : "*" = text := Option.some.inj here
    exact absurd refused (by decide +kernel)
  · exact (excludes 2).mpr ⟨"[z", rfl, by decide +kernel⟩
  · obtain ⟨done, processed, fails⟩ :=
      failsInName_processContent unsound.options (by decide +kernel) "home"
    exact suffix.mpr ⟨_, _, _, done, processed, fails⟩

end Settings

end IconForge
