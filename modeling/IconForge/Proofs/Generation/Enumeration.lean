import IconForge.Proofs.Generation.Time
import IconForge.Proofs.Store.Disk.Listing

/-!
# The order in which a directory is enumerated

A run sees its store through the answers that it gets. So two stores that answer alike, and go on to
do so after each change, are run alike. Such are two disks with the same entries in another order:
the listing of a directory is the one answer that could show it, and that is put in order.

The order of the entries matters to all that follows: which name an icon gets depends on those that
stand before it.

## Main statements

- `Mirrors`, `run_mirrored`: stores that answer alike are run alike.
- `Enumerated`: a disk whose directories are enumerated in some way.
- `enumeration_order_is_immaterial`: runs over two orders of the entries of a directory.
-/

namespace IconForge

/-! ## Stores that answer alike -/

/-- Related stores give the same answers, a listing apart, and are related after each change. -/
structure Mirrors {σ τ : Type} [FileStore σ] [FileStore τ] (R : σ → τ → Prop) : Prop where
  pathExists : ∀ {s t}, R s t → ∀ path, FileStore.pathExists t path = FileStore.pathExists s path
  readText : ∀ {s t}, R s t → ∀ path, FileStore.readText t path = FileStore.readText s path
  makeDirectories : ∀ {s t}, R s t → ∀ dir,
    AnsweredAlike R (FileStore.makeDirectories s dir) (FileStore.makeDirectories t dir)
  writeText : ∀ {s t}, R s t → ∀ path text,
    AnsweredAlike R (FileStore.writeText s path text) (FileStore.writeText t path text)

/-- Two runs with one result and the same events, but for the time they take, that leave related
stores. -/
structure SameRun {σ τ : Type} (R : σ → τ → Prop) (r : Run σ) (r' : Run τ) : Prop where
  result : r'.result.map Outcome.untimed = r.result.map Outcome.untimed
  events : untimed r'.events = untimed r.events
  store : R r.store r'.store

namespace Generation

section

variable {σ τ : Type} [FileStore σ] [FileStore τ] {R : σ → τ → Prop} {s : σ} {t : τ}

theorem batch_mirrored (mirrors : Mirrors R) (related : R s t) (g : Generation) {input : Path}
    (listed : FileStore.listFiles t input = FileStore.listFiles s input) :
    g.batch input t = g.batch input s := by
  have contents : g.batchOf t = g.batchOf s := by
    funext discovery
    simp only [batchOf, mirrors.readText related]
  rw [batch, batch, mirrors.pathExists related, listed, contents]

/-- Writing a module is answered alike, whether its directory is there or has to be made. -/
theorem persist_mirrored (mirrors : Mirrors R) (related : R s t) (output path : Path)
    (artifact : String) :
    AnsweredAlike R (persist output path artifact s) (persist output path artifact t) := by
  have written {s : σ} {t : τ} (related : R s t) :=
    (mirrors.writeText related path artifact).mapError (GenerationError.unwritten path)
  unfold persist
  rw [mirrors.pathExists related]
  -- the directory is there in both stores or in neither of them
  cases FileStore.pathExists s output with
  | true => exact written related
  | false =>
    have made := mirrors.makeDirectories related output
    simp only [Bool.false_eq_true, if_false]
    -- nothing is asked of the making but that it is answered alike
    generalize FileStore.makeDirectories s output = done at made ⊢
    generalize FileStore.makeDirectories t output = done' at made ⊢
    obtain ⟨answer, s'⟩ := done
    obtain ⟨answer', t'⟩ := done'
    obtain ⟨rfl, related'⟩ := made
    cases answer' with
    | error e => exact .same _ related'
    | ok _ => exact written related'

omit [FileStore σ] [FileStore τ] in
theorem close_mirrored {done : Except GenerationError Unit × σ}
    {done' : Except GenerationError Unit × τ} (alike : AnsweredAlike R done done')
    (g : Generation) (output : Path) (clock : Clock) (b : Batch) :
    SameRun R (g.close output clock b done.1 done.2) (g.close output clock b done'.1 done'.2) := by
  obtain ⟨answer, s'⟩ := done
  obtain ⟨answer', t'⟩ := done'
  obtain ⟨rfl, related'⟩ := alike
  cases answer' with
  | error e => exact ⟨rfl, rfl, related'⟩
  | ok _ => exact ⟨rfl, rfl, related'⟩

/-- Stores that answer alike are run alike, if the directory is listed alike. -/
theorem run_mirrored (mirrors : Mirrors R) (related : R s t) (g : Generation) {input : Path}
    (listed : FileStore.listFiles t input = FileStore.listFiles s input) (output : Path)
    (clock clock' : Clock) :
    SameRun R (g.run input output clock s) (g.run input output clock' t) := by
  have alike : SameRun R (g.run input output clock s) (g.run input output clock t) := by
    rw [run_eq, run_eq]
    -- there is one batch for both stores, and only writing its module changes them
    rw [batch_mirrored mirrors related g listed]
    cases g.batch input s with
    | error e => exact ⟨rfl, rfl, related⟩
    | ok b =>
      dsimp only
      cases b.crash with
      | some broken => exact ⟨rfl, rfl, related⟩
      | none =>
        unfold delivered
        cases g.dryRun with
        | true => exact close_mirrored (.same (.ok ()) related) g output clock b
        | false => exact close_mirrored (persist_mirrored mirrors related ..) g output clock b
  have timed := g.run_untimed input output clock clock' t
  exact ⟨timed.result.trans alike.result, timed.events.trans alike.events,
    timed.store ▸ alike.store⟩

end

end Generation

/-! ## Disks -/

namespace Disk

theorem mirrors_rearranged : Mirrors Rearranged where
  pathExists same path := same.isThere path
  readText same path := congrArg (Except.mapError (FileError.ofFailure path)) (same.readText path)
  makeDirectories same dir := (same.makeDirectories dir).mapError (FileError.ofFailure dir)
  writeText {d d'} same path text := by
    have alike := same.replaceFile path text
    simp only [FileStore.writeText]
    generalize d.replaceFile path text = written at alike
    generalize d'.replaceFile path text = written' at alike
    cases alike with
    | refused failure => exact ⟨rfl, same⟩
    | done same' => exact ⟨rfl, same'⟩

/-- A way in which a system enumerates directories: the entries of a directory of a disk, in the
order in which it happens to give them. The names of some of them may be no texts. -/
abbrev Enumeration := Disk → Path → Except Failure (List Listed)

/-- A disk whose directories are enumerated in such a way. -/
structure Enumerated (enumerate : Enumeration) where
  disk : Disk

instance (enumerate : Enumeration) : FileStore (Enumerated enumerate) where
  pathExists s := FileStore.pathExists s.disk
  listFiles s dir := ((enumerate s.disk dir).map fileNames).mapError (.ofFailure dir)
  readText s := FileStore.readText s.disk
  makeDirectories s dir :=
    let made := FileStore.makeDirectories s.disk dir
    (made.1, ⟨made.2⟩)
  writeText s path text :=
    let written := FileStore.writeText s.disk path text
    (written.1, ⟨written.2⟩)

variable {enumerate enumerate' : Enumeration}

/-- The same disks, but for the order of the entries, each enumerated in its own way. -/
def Enumerated.Rearranged (s : Enumerated enumerate) (s' : Enumerated enumerate') : Prop :=
  s.disk.Rearranged s'.disk

/-- A disk is changed alike however it is enumerated. -/
theorem answeredAlike_enumerated {ε α : Type} {done done' : Except ε α × Disk}
    (alike : AnsweredAlike Disk.Rearranged done done') :
    AnsweredAlike (@Enumerated.Rearranged enumerate enumerate')
      (done.1, ⟨done.2⟩) (done'.1, ⟨done'.2⟩) :=
  ⟨alike.answer, alike.left⟩

theorem mirrors_enumerated :
    Mirrors (@Enumerated.Rearranged enumerate enumerate') where
  pathExists same := mirrors_rearranged.pathExists same
  readText same := mirrors_rearranged.readText same
  makeDirectories same dir :=
    answeredAlike_enumerated (mirrors_rearranged.makeDirectories same dir)
  writeText same path text :=
    answeredAlike_enumerated (mirrors_rearranged.writeText same path text)

theorem listFiles_enumerated (s : Enumerated enumerate) (dir : Path) :
    FileStore.listFiles s dir =
      ((enumerate s.disk dir).map fileNames).mapError (.ofFailure dir) := rfl

/-- The disk itself is enumerated by its own entries, in the order in which it has them. -/
theorem listFiles_listed (d : Disk) (dir : Path) :
    FileStore.listFiles d dir = ((d.listed dir).map fileNames).mapError (.ofFailure dir) := rfl

end Disk

/-! ## Runs over two orders -/

namespace Generation

open Disk IconForge.Text

/-- Disks with the same entries in another order are run alike. -/
theorem run_rearranged {d d' : Disk} (same : d.Rearranged d') (g : Generation)
    (input output : Path) (clock clock' : Clock) :
    SameRun Rearranged (g.run input output clock d) (g.run input output clock' d') := by
  apply run_mirrored mirrors_rearranged same
  rw [listFiles_listed, listFiles_listed, (same.listed input).map_fileNames]

/-- The order in which a directory is enumerated shows nowhere. Two orders of its entries, which
have distinct names, are listed alike: as the names of the files that are texts, strictly ascending
byte by byte. And where all else is the same on two disks, but for the order of their entries, every
run has the same result and the same events, but for the time it takes, and leaves two such disks. -/
theorem enumeration_order_is_immaterial {d d' : Disk} (same : d.Rearranged d')
    {enumerate enumerate' : Enumeration} {input : Path}
    (order : SameEntries (enumerate d input) (enumerate' d' input)) :
    let store : Enumerated enumerate := ⟨d⟩
    let store' : Enumerated enumerate' := ⟨d'⟩
    FileStore.listFiles store' input = FileStore.listFiles store input ∧
      (∀ entries, enumerate d input = .ok entries → ∃ names,
        FileStore.listFiles store input = .ok names ∧
          (∀ name, name ∈ names ↔ ∃ e ∈ entries, e.isFile = true ∧ e.name = name.toUTF8) ∧
          names.Pairwise fun a b => utf8Bytes a < utf8Bytes b) ∧
      (∀ g output clock clock', SameRun Enumerated.Rearranged
        (Generation.run g input output clock store) (Generation.run g input output clock' store')) ∧
      ∀ g output clock clock', SameRun Rearranged (Generation.run g input output clock d)
        (Generation.run g input output clock' d') := by
  intro store store'
  have listed : FileStore.listFiles store' input = FileStore.listFiles store input := by
    rw [listFiles_enumerated, listFiles_enumerated, order.map_fileNames]
  refine ⟨listed, ?_, ?_, ?_⟩
  · intro entries isGiven
    refine ⟨fileNames entries, ?_, fun name => mem_fileNames, ?_⟩
    · rw [listFiles_enumerated, isGiven]
      rfl
    · exact ascends_fileNames (order.distinct isGiven)
  · intro g output clock clock'
    exact run_mirrored mirrors_enumerated same g listed output clock clock'
  · intro g output clock clock'
    exact run_rearranged same g input output clock clock'

/-- A directory with files, a directory and a link in it, and with a file whose name is no text,
which is given first or last: the three files whose names are texts are listed, and all runs are
alike. -/
theorem enumeration_order_is_immaterial_of_reversed :
    let icons : List (String × DiskEntry) :=
      [("b.svg", .file "<svg/>".toUTF8), ("old.svg", .directory 2),
        ("é.svg", .file "<svg/>".toUTF8), ("link.svg", .link "b.svg"),
        ("a.svg", .file "<svg/>".toUTF8)]
    let holding (icons : List (String × DiskEntry)) : Disk :=
      { directories :=
          #[{ entries := [("icons", .directory 1)] }, { entries := icons }, { parent := 1 }] }
    let odd : Listed := ⟨⟨#[0xff]⟩, true⟩
    let enumerate : Enumeration := fun d dir => (d.listed dir).map fun entries => odd :: entries
    let enumerate' : Enumeration := fun d dir => (d.listed dir).map fun entries => entries ++ [odd]
    let store : Enumerated enumerate := ⟨holding icons⟩
    let store' : Enumerated enumerate' := ⟨holding icons.reverse⟩
    let input : Path := ⟨"icons"⟩
    store.disk.Rearranged store'.disk ∧
      SameEntries (enumerate store.disk input) (enumerate' store'.disk input) ∧
      FileStore.listFiles store input = .ok ["a.svg", "b.svg", "é.svg"] ∧
      FileStore.listFiles store' input = .ok ["a.svg", "b.svg", "é.svg"] ∧
      ∀ g output clock clock', SameRun Enumerated.Rearranged
        (Generation.run g input output clock store)
        (Generation.run g input output clock' store') := by
  intro icons holding odd enumerate enumerate' store store' input
  have same : store.disk.Rearranged store'.disk := by
    constructor
    case entries =>
      rintro (_ | _ | _ | here)
      · exact .refl _
      · exact (List.reverse_perm icons).symm
      · exact .refl _
      · exact .refl _
    case distinct =>
      rintro (_ | _ | _ | here)
      · exact List.nodup_singleton _
      · decide
      · exact List.nodup_nil
      · exact List.nodup_nil
    case parent => rintro (_ | _ | _ | here) <;> rfl
    case size => rfl
    case working => rfl
  have given : enumerate store.disk input = .ok (odd :: icons.map Listed.of) := by
    dsimp only [enumerate, store, holding, icons, input]
    rfl
  have given' : enumerate' store'.disk input = .ok (icons.reverse.map Listed.of ++ [odd]) := by
    dsimp only [enumerate', store', holding, icons, input]
    rfl
  have order : SameEntries (enumerate store.disk input) (enumerate' store'.disk input) := by
    rw [given, given']
    apply SameEntries.given
    · refine List.Perm.trans ?_ List.perm_append_comm
      exact ((List.reverse_perm icons).symm.map Listed.of).cons odd
    · decide
  have names : fileNames (odd :: icons.map Listed.of) = ["a.svg", "b.svg", "é.svg"] := by cbv
  have listed : FileStore.listFiles store input = .ok ["a.svg", "b.svg", "é.svg"] := by
    rw [listFiles_enumerated, given, ← names]
    rfl
  obtain ⟨alike, -, runs, -⟩ := enumeration_order_is_immaterial same order
  exact ⟨same, order, listed, alike.trans listed, runs⟩

end Generation

end IconForge
