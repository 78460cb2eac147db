import IconForge.Proofs.Store.Disk.Changes

/-!
# Entries in another order

A directory has its entries in some order, which only a listing shows. All else asks for an entry by
its name, and names are distinct. So two disks with the same directories and the same entries in
them, in whatever order, answer every other question alike, and what is done to both leaves two such
disks.

## Main statements

- `Rearranged.child?_eq`: the same is found under a name.
- `Rearranged.resolve`, `Rearranged.readText`: a path leads to the same, and the same is read.
- `Rearranged.makeDirectories`, `Rearranged.replaceFile`: what is done to both.
-/

namespace IconForge.Disk

variable {d d' : Disk}

/-! ## Entries by their names -/

/-- With distinct names the order of the entries does not matter for finding one. -/
theorem lookup_perm {entries entries' : List (String × DiskEntry)} (perm : entries.Perm entries')
    (distinct : (entries.map Prod.fst).Nodup) (name : String) :
    entries'.lookup name = entries.lookup name := by
  induction perm with
  | nil => rfl
  | cons entry _ ih =>
    rw [List.map_cons, List.nodup_cons] at distinct
    obtain ⟨key, e⟩ := entry
    rw [List.lookup_cons, List.lookup_cons, ih distinct.2]
  | swap first second entries =>
    -- the name is at most that of one of the two
    obtain ⟨key, e⟩ := first
    obtain ⟨key', e'⟩ := second
    have differ : key' ≠ key := by
      rw [List.map_cons, List.map_cons, List.nodup_cons] at distinct
      rintro rfl
      exact distinct.1 List.mem_cons_self
    by_cases isKey : name = key
    · subst isKey
      rw [List.lookup_cons_self, List.lookup_cons, beq_false_of_ne differ.symm,
        List.lookup_cons_self]
    · simp only [List.lookup_cons, beq_false_of_ne isKey]
  | trans perm _ ih ih' =>
    have distinct' := (perm.map Prod.fst).nodup_iff.mp distinct
    rw [ih' distinct', ih distinct]

/-- The same directories with the same entries in them, in whatever order. -/
structure Rearranged (d d' : Disk) : Prop where
  entries : ∀ here, (d.entries here).Perm (d'.entries here)
  distinct : ∀ here, ((d.entries here).map Prod.fst).Nodup
  parent : ∀ here, d'.parent here = d.parent here
  size : d'.directories.size = d.directories.size
  working : d'.workingDirectory = d.workingDirectory

/-- An operation is refused on both disks for the same reason, or it is done on both. -/
inductive DoneAlike : Except Failure Disk → Except Failure Disk → Prop
  | refused (failure : Failure) : DoneAlike (.error failure) (.error failure)
  | done {d d' : Disk} (same : Rearranged d d') : DoneAlike (.ok d) (.ok d')

/-- What comes first, and is answered alike, does not tell the disks apart. -/
theorem DoneAlike.bind {α : Type} (first : Except Failure α) {f f' : α → Except Failure Disk}
    (alike : ∀ a, DoneAlike (f a) (f' a)) : DoneAlike (first.bind f) (first.bind f') := by
  cases first with
  | error failure => exact .refused failure
  | ok a => exact alike a

namespace Rearranged

theorem child?_eq (same : Rearranged d d') (here : Nat) (name : String) :
    d'.child? here name = d.child? here name :=
  lookup_perm (same.entries here) (same.distinct here) name

/-! ## Ways -/

theorem walkWith (same : Rearranged d d') (errand : Errand)
    (follow : Nat → List String → Except Failure Target) (here : Nat) (pieces : List String) :
    d'.walkWith errand follow here pieces = d.walkWith errand follow here pieces := by
  induction pieces generalizing here with
  | nil => rfl
  | cons piece pieces ih =>
    simp only [Disk.walkWith, same.child?_eq, same.parent, ih]

theorem walk (same : Rearranged d d') (errand : Errand) (links : Nat) :
    d'.walk errand links = d.walk errand links := by
  -- what follows at a link is the way with one link less, which is the same by induction
  induction links with
  | zero =>
    funext here pieces
    exact same.walkWith errand _ here pieces
  | succ links ih =>
    funext here pieces
    rw [Disk.walk, Disk.walk, ih]
    exact same.walkWith errand _ here pieces

theorem start (same : Rearranged d d') (path : Path) : d'.start path = d.start path := by
  rw [Disk.start, same.working, Disk.start]

theorem resolve (same : Rearranged d d') (errand : Errand) (path : Path) :
    d'.resolve errand path = d.resolve errand path := by
  rw [resolve_eq, resolve_eq, same.walk, same.start]

theorem findDirectory (same : Rearranged d d') (path : Path) :
    d'.findDirectory path = d.findDirectory path := by
  rw [Disk.findDirectory, Disk.findDirectory, same.resolve]

theorem isDirectory (same : Rearranged d d') (path : Path) :
    d'.isDirectory path = d.isDirectory path := by
  rw [Disk.isDirectory, Disk.isDirectory, same.findDirectory]

theorem isThere (same : Rearranged d d') (path : Path) : d'.isThere path = d.isThere path := by
  rw [Disk.isThere, Disk.isThere, same.resolve]

theorem readText (same : Rearranged d d') (path : Path) : d'.readText path = d.readText path := by
  rw [Disk.readText, Disk.readText, same.resolve]

theorem lastName (same : Rearranged d d') (path : Path) : d'.lastName path = d.lastName path := by
  rw [lastName_eq, lastName_eq, around, around, same.walk, same.start]

/-! ## Changes -/

theorem put (same : Rearranged d d') (here : Nat) (name : String) (e : DiskEntry) :
    Rearranged (d.put here name e) (d'.put here name e) where
  entries there := by
    rw [entries_put, entries_put, same.size]
    split
    · exact ((same.entries here).filter _).cons _
    · exact same.entries there
  distinct there := by
    rw [entries_put]
    split
    · -- what had the name before has been taken out
      rw [List.map_cons, List.nodup_cons]
      constructor
      · simp
      · exact (same.distinct here).sublist (List.filter_sublist.map _)
    · exact same.distinct there
  parent there := by rw [parent_put, parent_put, same.parent]
  size := by rw [size_put, size_put, same.size]
  working := same.working

theorem push (same : Rearranged d d') (parent : Nat) :
    Rearranged (Disk.mk (d.directories.push { parent }) d.workingDirectory)
      (Disk.mk (d'.directories.push { parent }) d'.workingDirectory) where
  entries there := by
    rw [entries_push, entries_push]
    exact same.entries there
  distinct there := by
    rw [entries_push]
    exact same.distinct there
  parent there := by
    have others := same.parent there
    simp only [Disk.parent, Array.getElem?_push, same.size] at others ⊢
    split
    · rfl
    · exact others
  size := by simp [same.size]
  working := same.working

theorem putDirectory (same : Rearranged d d') (here : Nat) (name : String) :
    Rearranged (d.putDirectory here name) (d'.putDirectory here name) := by
  rw [Disk.putDirectory, Disk.putDirectory, same.size]
  exact (same.push here).put here name _

/-! ## What is done to both -/

theorem makeDirectory (same : Rearranged d d') (path : Path) :
    DoneAlike (d.makeDirectory path) (d'.makeDirectory path) := by
  rw [makeDirectory_eq, makeDirectory_eq, same.lastName]
  apply DoneAlike.bind
  intro last
  cases last.name with
  | none => exact .refused _
  | some name =>
    dsimp only
    rw [same.child?_eq]
    split
    · exact .refused _
    · exact .done (same.putDirectory ..)

theorem orThere (same : Rearranged d d') (path : Path) (failure : Failure) :
    AnsweredAlike Rearranged (d.orThere path failure) (d'.orThere path failure) := by
  rw [Disk.orThere, Disk.orThere, same.isDirectory]
  split
  · exact ⟨rfl, same⟩
  · exact ⟨rfl, same⟩

theorem makeOrThere (same : Rearranged d d') (path : Path) :
    AnsweredAlike Rearranged (d.makeOrThere path) (d'.makeOrThere path) := by
  have alike := same.makeDirectory path
  rw [Disk.makeOrThere, Disk.makeOrThere]
  generalize d.makeDirectory path = made at alike
  generalize d'.makeDirectory path = made' at alike
  cases alike with
  | refused failure => exact same.orThere path failure
  | done same' => exact ⟨rfl, same'⟩

theorem makeBelow {made made' : Except Failure Unit × Disk}
    (alike : AnsweredAlike Rearranged made made') (path : Path) :
    AnsweredAlike Rearranged (Disk.makeBelow path made) (Disk.makeBelow path made') := by
  obtain ⟨answer, d⟩ := made
  obtain ⟨answer', d'⟩ := made'
  obtain ⟨rfl, same⟩ := alike
  cases answer' with
  | error failure => exact ⟨rfl, same⟩
  | ok _ => exact same.makeOrThere path

theorem makeMissing (same : Rearranged d d') (paths : List Path) :
    AnsweredAlike Rearranged (d.makeMissing paths) (d'.makeMissing paths) := by
  induction paths with
  | nil => exact ⟨rfl, same⟩
  | cons path above ih =>
    rw [makeMissing_cons, makeMissing_cons]
    split
    · exact ⟨rfl, same⟩
    have alike := same.makeDirectory path
    generalize d.makeDirectory path = made at alike
    generalize d'.makeDirectory path = made' at alike
    cases alike with
    | done same' => exact ⟨rfl, same'⟩
    | refused failure =>
      dsimp only
      split
      · exact makeBelow ih path
      · exact same.orThere path failure

theorem makeDirectories (same : Rearranged d d') (path : Path) :
    AnsweredAlike Rearranged (d.makeDirectories path) (d'.makeDirectories path) :=
  same.makeMissing path.ancestors

theorem replaceFile (same : Rearranged d d') (path : Path) (text : String) :
    DoneAlike (d.replaceFile path text) (d'.replaceFile path text) := by
  rw [replaceFile_eq, replaceFile_eq, same.findDirectory, same.lastName]
  apply DoneAlike.bind
  intro _
  apply DoneAlike.bind
  intro _
  split
  · exact .refused _
  apply DoneAlike.bind
  intro last
  cases last.name with
  | none => exact .refused _
  | some name =>
    dsimp only
    rw [same.child?_eq]
    split
    · exact .refused _
    · -- only a directory is not replaced
      split
      · exact .refused _
      · exact .done (same.put ..)

end Rearranged

end IconForge.Disk
