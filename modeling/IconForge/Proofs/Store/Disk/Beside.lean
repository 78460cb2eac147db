import IconForge.Proofs.Store.Disk.Changes

/-!
# One more file

Two disks are beside each other if one of them has a file at a place where the other has nothing,
and all else is alike. Then a path leads to the same on both of them, unless it ends at that place or
was to go on from there: what is missing on the one disk is, on the other, no directory. So a
directory is made alike on both, unless the one disk gets it at the very place where the other has
its file.

## Main statements

- `walk_beside`: where ways lead on the two disks.
- `makeDirectories_beside`: what making directories does to them.
- `isOk_replaceFile_beside`: a file can be written on both or on none of them.
-/

namespace IconForge.Disk

variable {d d' : Disk} {here : Nat} {name : String} {bytes : ByteArray} {path : Path}

/-- The second disk has a file at a place where the first has nothing, and is the first otherwise. -/
structure Beside (here : Nat) (name : String) (bytes : ByteArray) (d d' : Disk) : Prop where
  vacant : d.child? here name = none
  file : d'.child? here name = some (.file bytes)
  others : ∀ around other, ¬ (around = here ∧ other = name) →
    d'.child? around other = d.child? around other
  parent : ∀ around, d'.parent around = d.parent around
  size : d'.directories.size = d.directories.size
  working : d'.workingDirectory = d.workingDirectory

/-- A file that is put where nothing is makes a disk beside the one before. -/
theorem beside_put (inside : here < d.directories.size) (vacant : d.child? here name = none)
    (bytes : ByteArray) : Beside here name bytes d (d.put here name (.file bytes)) where
  vacant := vacant
  file := by rw [child?_put inside, if_pos ⟨rfl, rfl⟩]
  others around other elsewhere := by rw [child?_put inside, if_neg elsewhere]
  parent := parent_put d here name _
  size := size_put d here name _
  working := rfl

/-- What is there on the first disk is there on the second. -/
theorem Beside.child?_of_some (beside : Beside here name bytes d d') {around : Nat} {other : String}
    {e : DiskEntry} (found : d.child? around other = some e) : d'.child? around other = some e := by
  rw [beside.others around other, found]
  rintro ⟨rfl, rfl⟩
  simp [beside.vacant] at found

/-! ## Ways -/

/-- What a way comes to on two disks beside each other. -/
inductive Alike (here : Nat) (name : String) (bytes : ByteArray) :
    Except Failure Target → Except Failure Target → Prop
  | same (result : Except Failure Target) : Alike here name bytes result result
  /-- It ends where one of them has its file. -/
  | ends : Alike here name bytes (.ok (.vacant here name)) (.ok (.file here name bytes))
  /-- It was to go on from there. -/
  | goesOn : Alike here name bytes (.error noSuchFile) (.error notADirectory)

theorem Way.beside (beside : Beside here name bytes d d') {errand : Errand} {links start : Nat}
    {pieces : List String} {result : Except Failure Target}
    (way : Way d errand links start pieces result) :
    Alike here name bytes result (d'.walk errand links start pieces) := by
  suffices ∃ result', Way d' errand links start pieces result' ∧
      Alike here name bytes result result' by
    obtain ⟨result', way', alike⟩ := this
    rwa [walk_eq_iff.mpr way']
  induction way with
  | done => exact ⟨_, .done, .same _⟩
  | stay stays _ ih =>
    obtain ⟨result', way, alike⟩ := ih
    exact ⟨result', .stay stays way, alike⟩
  | up _ ih =>
    obtain ⟨result', way, alike⟩ := ih
    rw [← beside.parent] at way
    exact ⟨result', .up way, alike⟩
  | refused named refused => exact ⟨_, .refused named refused, .same _⟩
  | @vacant _ around piece pieces named passes found =>
    by_cases isPlace : around = here ∧ piece = name
    · obtain ⟨rfl, rfl⟩ := isPlace
      refine ⟨_, .file named passes beside.file, ?_⟩
      cases pieces with
      | nil => exact .ends
      | cons _ _ => exact .goesOn
    · rw [← beside.others _ _ isPlace] at found
      exact ⟨_, .vacant named passes found, .same _⟩
  | directory named passes found _ ih =>
    obtain ⟨result', way, alike⟩ := ih
    exact ⟨result', .directory named passes (beside.child?_of_some found) way, alike⟩
  | link named passes found _ ih =>
    obtain ⟨result', way, alike⟩ := ih
    exact ⟨result', .link named passes (beside.child?_of_some found) way, alike⟩
  | lastLink named passes found =>
    exact ⟨_, .lastLink named passes (beside.child?_of_some found), .same _⟩
  | file named passes found =>
    exact ⟨_, .file named passes (beside.child?_of_some found), .same _⟩

theorem walk_beside (beside : Beside here name bytes d d') (errand : Errand) (links start : Nat)
    (pieces : List String) :
    Alike here name bytes (d.walk errand links start pieces) (d'.walk errand links start pieces) :=
  (way_walk d errand links start pieces).beside beside

theorem start_beside (beside : Beside here name bytes d d') (path : Path) :
    d'.start path = d.start path := by
  rw [Disk.start, beside.working, Disk.start]

/-- A check that comes first does not tell the disks apart. -/
theorem Alike.after {result result' : Except Failure Target}
    (alike : Alike here name bytes result result') (checked : Except Failure Unit) :
    Alike here name bytes (checked.bind fun _ => result) (checked.bind fun _ => result') := by
  cases checked with
  | error e => exact .same _
  | ok _ => exact alike

theorem resolve_beside (beside : Beside here name bytes d d') (errand : Errand) (path : Path) :
    Alike here name bytes (d.resolve errand path) (d'.resolve errand path) := by
  rw [resolve_eq, resolve_eq, start_beside beside]
  exact (walk_beside beside ..).after (checkPath path)

/-- Something is there on both disks or on none of them, unless it is the file of the second. -/
theorem isThere_beside (beside : Beside here name bytes d d') (path : Path) :
    d'.isThere path = d.isThere path ∨
      (d.isThere path = false ∧ d'.resolve .look path = .ok (.file here name bytes)) := by
  have alike := resolve_beside beside .look path
  unfold isThere
  generalize d.resolve .look path = result at alike
  generalize d'.resolve .look path = result' at alike
  cases alike with
  | same => exact Or.inl rfl
  | ends => exact Or.inr ⟨rfl, rfl⟩
  | goesOn => exact Or.inl rfl

/-! ## Directories -/

/-- The second disk answers as the first, or it says that something is no directory where the first
says that it is missing. -/
def Missed {α : Type} (answer answer' : Except Failure α) : Prop :=
  answer' = answer ∨ answer = .error noSuchFile ∧ answer' = .error notADirectory

theorem Missed.isOk {α : Type} {answer answer' : Except Failure α} (missed : Missed answer answer') :
    answer'.isOk = answer.isOk := by
  rcases missed with rfl | ⟨rfl, rfl⟩ <;> rfl

theorem Alike.directory? {result result' : Except Failure Target}
    (alike : Alike here name bytes result result') :
    Missed (result.bind Target.directory?) (result'.bind Target.directory?) := by
  cases alike with
  | same => exact Or.inl rfl
  | ends => exact Or.inr ⟨rfl, rfl⟩
  | goesOn => exact Or.inr ⟨rfl, rfl⟩

theorem findDirectory_beside (beside : Beside here name bytes d d') (path : Path) :
    Missed (d.findDirectory path) (d'.findDirectory path) :=
  (resolve_beside beside .look path).directory?

theorem isDirectory_beside (beside : Beside here name bytes d d') (path : Path) :
    d'.isDirectory path = d.isDirectory path :=
  (findDirectory_beside beside path).isOk

theorem around_beside (beside : Beside here name bytes d d') (path : Path) :
    Missed (d.around path) (d'.around path) := by
  rw [around, around, start_beside beside]
  exact (walk_beside beside ..).directory?

theorem lastName_of_around {failure : Failure} (checked : checkPath path = .ok ())
    (h : d.around path = .error failure) : d.lastName path = .error failure := by
  rw [lastName_eq, checked, h]
  rfl

/-- The last name of a path stands alike on both disks, unless what is around it is missing on the
first and no directory on the second. -/
theorem lastName_beside (beside : Beside here name bytes d d') (path : Path) :
    d'.lastName path = d.lastName path ∨
      (checkPath path = .ok () ∧ d.around path = .error noSuchFile ∧
        d'.around path = .error notADirectory) := by
  rcases around_beside beside path with same | missed
  · rw [lastName_eq, lastName_eq, same]
    exact Or.inl rfl
  · cases checked : checkPath path with
    | error e =>
      -- by the equation of `bind`, lest what comes after the check is compared
      rw [lastName_eq, lastName_eq, checked, Except.bind, Except.bind]
      exact Or.inl rfl
    | ok _ => exact Or.inr ⟨rfl, missed⟩

/-! ## Making directories -/

/-- The same new directory on both disks, at another place. -/
theorem Beside.putDirectory (beside : Beside here name bytes d d') {around : Nat} {other : String}
    (inside : around < d.directories.size) (elsewhere : ¬ (around = here ∧ other = name)) :
    Beside here name bytes (d.putDirectory around other) (d'.putDirectory around other) := by
  have inside' : around < d'.directories.size := beside.size ▸ inside
  have notNew : ¬ (here = around ∧ name = other) := fun ⟨eq, eq'⟩ => elsewhere ⟨eq.symm, eq'.symm⟩
  constructor
  case vacant => rw [child?_putDirectory inside, if_neg notNew, beside.vacant]
  case file => rw [child?_putDirectory inside', if_neg notNew, beside.file]
  case others =>
    intro there name' notPlace
    rw [child?_putDirectory inside, child?_putDirectory inside', beside.size,
      beside.others _ _ notPlace]
  case parent =>
    intro there
    rw [parent_putDirectory, parent_putDirectory, beside.size, beside.parent]
  case size => rw [size_putDirectory, size_putDirectory, beside.size]
  case working => exact beside.working

/-- A directory is made on both disks; or on none, for the same reason; or only on the first, where
the second has its file; or on none, because the directory around it is missing on the first and no
directory on the second. -/
theorem makeDirectory_beside (wf : d.WellFormed) (beside : Beside here name bytes d d')
    (path : Path) :
    (∃ e e', d.makeDirectory path = .ok e ∧ d'.makeDirectory path = .ok e' ∧
      Beside here name bytes e e') ∨
    (∃ failure, d.makeDirectory path = .error failure ∧ d'.makeDirectory path = .error failure) ∨
    (d.makeDirectory path = .ok (d.putDirectory here name) ∧ here < d.directories.size ∧
      d'.makeDirectory path = .error fileExists ∧ d'.isDirectory path = false) ∨
    (d.makeDirectory path = .error noSuchFile ∧ d'.makeDirectory path = .error notADirectory ∧
      checkPath path = .ok () ∧ d.around path = .error noSuchFile ∧
        d'.around path = .error notADirectory) := by
  rcases lastName_beside beside path with same | ⟨checked, missing, noDirectory⟩
  · rw [makeDirectory_eq, makeDirectory_eq, same]
    cases found : d.lastName path with
    | error failure => exact Or.inr (Or.inl ⟨failure, rfl, rfl⟩)
    | ok last =>
      have inside := wf.around (lastName_eq_ok_iff.mp found).2.1
      obtain ⟨around, lastName, slash⟩ := last
      cases lastName with
      | none => exact Or.inr (Or.inl ⟨fileExists, rfl, rfl⟩)
      | some other =>
        simp only [Except.bind]
        by_cases isPlace : around = here ∧ other = name
        · obtain ⟨rfl, rfl⟩ := isPlace
          have notThere := isDirectory_of_lastName (same.trans found) (by simp [beside.file])
          exact Or.inr (Or.inr (Or.inl
            ⟨by simp [beside.vacant], inside, by simp [beside.file], notThere⟩))
        · rw [beside.others _ _ isPlace]
          cases d.child? around other with
          | some e => exact Or.inr (Or.inl ⟨fileExists, rfl, rfl⟩)
          | none => exact Or.inl ⟨_, _, rfl, rfl, beside.putDirectory inside isPlace⟩
  · refine Or.inr (Or.inr (Or.inr ⟨?_, ?_, checked, missing, noDirectory⟩))
    · rw [makeDirectory_eq, lastName_of_around checked missing]
      rfl
    · rw [makeDirectory_eq, lastName_of_around checked noDirectory]
      rfl

/-- What making directories comes to on two disks beside each other: the same, and they still are;
or it fails on the second, and also on the first, unless the first has got a directory where the
second has its file. -/
def MadeAlike (here : Nat) (name : String) (bytes : ByteArray)
    (made made' : Except Failure Unit × Disk) : Prop :=
  (made'.1 = made.1 ∧ Beside here name bytes made.2 made'.2) ∨
    (made'.1.isOk = false ∧
      (made.1.isOk = false ∨ ∃ number, made.2.child? here name = some (.directory number)))

theorem isOk_orThere (d : Disk) (path : Path) (failure : Failure) :
    (d.orThere path failure).1.isOk = d.isDirectory path := by
  unfold orThere
  cases d.isDirectory path <;> rfl

theorem orThere_beside (beside : Beside here name bytes d d') (path : Path) (failure : Failure) :
    MadeAlike here name bytes (d.orThere path failure) (d'.orThere path failure) := by
  refine Or.inl ⟨?_, ?_⟩
  · unfold orThere
    rw [isDirectory_beside beside]
    split <;> rfl
  · rw [orThere_snd, orThere_snd]
    exact beside

/-- What has no last name is no directory. -/
theorem isDirectory_of_around {failure : Failure} (h : d.around path = .error failure) :
    d.isDirectory path = false := by
  unfold isDirectory
  cases found : d.findDirectory path with
  | error e => rfl
  | ok number =>
    obtain ⟨last, isLast⟩ := exists_lastName_of_findDirectory found
    have isAround := (lastName_eq_ok_iff.mp isLast).2.1
    simp [h] at isAround

/-- The new directory at the place of the file. -/
theorem child?_putDirectory_self (inside : here < d.directories.size) (name : String) :
    ∃ number, (d.putDirectory here name).child? here name = some (.directory number) :=
  ⟨_, by rw [child?_putDirectory inside, if_pos ⟨rfl, rfl⟩]⟩

theorem makeOrThere_beside (wf : d.WellFormed) (beside : Beside here name bytes d d')
    (path : Path) : MadeAlike here name bytes (d.makeOrThere path) (d'.makeOrThere path) := by
  unfold makeOrThere
  rcases makeDirectory_beside wf beside path with
    ⟨e, e', made, made', beside'⟩ | ⟨failure, failed, failed'⟩ |
      ⟨made, inside, failed', notThere⟩ | ⟨failed, failed', -, missing, noDirectory⟩
  · rw [made, made']
    exact Or.inl ⟨rfl, beside'⟩
  · rw [failed, failed']
    exact orThere_beside beside path failure
  · rw [made, failed']
    refine Or.inr ⟨?_, Or.inr (child?_putDirectory_self inside name)⟩
    exact (isOk_orThere d' path _).trans notThere
  · rw [failed, failed']
    refine Or.inr ⟨?_, Or.inl ?_⟩
    · exact (isOk_orThere d' path _).trans (isDirectory_of_around noDirectory)
    · exact (isOk_orThere d path _).trans (isDirectory_of_around missing)

theorem Beside.inside (beside : Beside here name bytes d d') : here < d.directories.size := by
  rw [← beside.size]
  by_contra outside
  have noEntries : d'.child? here name = none := by simp [child?, entries, outside]
  simp [beside.file] at noEntries

theorem Beside.wellFormed (beside : Beside here name bytes d d') (wf : d.WellFormed) :
    d'.WellFormed where
  working := by
    rw [beside.working, beside.size]
    exact wf.working
  parents around := by
    rw [beside.parent, beside.size]
    exact wf.parents around
  numbers around other number found := by
    rw [beside.size]
    rw [beside.others around other] at found
    · exact wf.numbers around other number found
    · rintro ⟨rfl, rfl⟩
      simp [beside.file] at found

/-- When directories have been added to the first disk, but none at the place of the file, the second
disk is kept by the first with that file added. -/
theorem Beside.keeps_put {e : Disk} (beside : Beside here name bytes d d') (same : SameFiles d e) :
    Keeps d' (e.put here name (.file bytes)) := by
  have inside : here < e.directories.size := lt_of_lt_of_le beside.inside same.size
  have kept {around : Nat} {other : String} {entry : DiskEntry}
      (found : d'.child? around other = some entry) (noFile : entry ≠ .file bytes) :
      (e.put here name (.file bytes)).child? around other = some entry := by
    have elsewhere : ¬ (around = here ∧ other = name) := by
      rintro ⟨rfl, rfl⟩
      rw [beside.file] at found
      exact noFile (Option.some.inj found).symm
    rw [beside.others _ _ elsewhere] at found
    rw [child?_put inside, if_neg elsewhere]
    exact same.kept _ _ _ found
  constructor
  case directory => exact fun _ _ _ found => kept found (by simp)
  case link => exact fun _ _ _ found => kept found (by simp)
  case file =>
    intro around other bytes' found
    by_cases isSame : bytes' = bytes
    · subst isSame
      by_cases isPlace : around = here ∧ other = name
      · exact ⟨_, by rw [child?_put inside, if_pos isPlace]⟩
      · rw [beside.others _ _ isPlace] at found
        exact ⟨bytes', by rw [child?_put inside, if_neg isPlace, same.kept _ _ _ found]⟩
    · exact ⟨bytes', kept found (by simpa using isSame)⟩
  case parent =>
    intro around isIn
    rw [parent_put, beside.parent]
    exact same.parent around (beside.size ▸ isIn)
  case working => exact same.working.trans beside.working.symm

/-- What is no directory stays none. -/
theorem Persists.notADirectory {result result' : Except Failure Target}
    (persists : Persists result result')
    (h : result.bind Target.directory? = .error notADirectory) :
    result'.bind Target.directory? = .error notADirectory := by
  cases result with
  | error failure =>
    obtain rfl := Except.error.inj h
    rcases persists with isMissing | rfl
    · exact absurd isMissing (by decide)
    · rfl
  | ok target =>
    cases target with
    | directory number => contradiction
    | file around name bytes =>
      obtain ⟨bytes', rfl⟩ := persists
      rfl
    | vacant around name => exact absurd (Except.error.inj h) (by decide)

/-- Where the second disk has no directory for a path, the first one gets none by adding directories,
unless it gets one at the place of the file. -/
theorem around_of_sameFiles (wf : d.WellFormed) (beside : Beside here name bytes d d') {e : Disk}
    (same : SameFiles d e) (noDirectory : d'.around path = .error notADirectory) :
    (∃ failure, e.around path = .error failure) ∨
      ∃ number, e.child? here name = some (.directory number) := by
  cases isThere : e.child? here name with
  | some entry =>
    -- what is new is a directory
    rcases same.new _ _ _ isThere with before | ⟨number, rfl⟩
    · simp [beside.vacant] at before
    · exact Or.inr ⟨number, rfl⟩
  | none =>
    left
    have inside : here < e.directories.size := lt_of_lt_of_le beside.inside same.size
    have keeps := beside.keeps_put same
    have persists := (way_walk d' .look maxLinks (d'.start path) (trimmed path).dropLast).kept keeps
      (beside.wellFormed wf) ((beside.wellFormed wf).start path)
    have failed : (e.put here name (.file bytes)).around path = .error notADirectory := by
      rw [Disk.around, keeps.start path]
      exact persists.notADirectory noDirectory
    rcases around_beside (beside_put inside isThere bytes) path with eq | ⟨missing, -⟩
    · exact ⟨_, eq.symm.trans failed⟩
    · exact ⟨_, missing⟩

theorem MadeAlike.makeBelow {made made' : Except Failure Unit × Disk}
    (alike : MadeAlike here name bytes made made') (wf : made.2.WellFormed) (path : Path) :
    MadeAlike here name bytes (makeBelow path made) (makeBelow path made') := by
  obtain ⟨answer, e⟩ := made
  obtain ⟨answer', e'⟩ := made'
  rcases alike with ⟨rfl, beside⟩ | ⟨failed', failed | ⟨number, isThere⟩⟩
  · cases answer' with
    | error failure => exact Or.inl ⟨rfl, beside⟩
    | ok _ => exact makeOrThere_beside wf beside path
  · -- both have failed already
    cases answer with
    | ok _ => contradiction
    | error failure =>
      cases answer' with
      | ok _ => contradiction
      | error failure' => exact Or.inr ⟨rfl, Or.inl rfl⟩
  · cases answer' with
    | ok _ => contradiction
    | error failure' =>
      refine Or.inr ⟨rfl, Or.inr ⟨number, ?_⟩⟩
      exact (makeBelow_spec wf path).1.kept _ _ _ isThere

/-- What has no directory on the second disk is not made on the first, unless that gets a directory
at the place of the file. -/
theorem makeBelow_of_around (wf : d.WellFormed) (beside : Beside here name bytes d d')
    {made : Except Failure Unit × Disk} (wf' : made.2.WellFormed) (same : SameFiles d made.2)
    (noDirectory : d'.around path = .error notADirectory) :
    (makeBelow path made).1.isOk = false ∨
      ∃ number, (makeBelow path made).2.child? here name = some (.directory number) := by
  obtain ⟨answer, e⟩ := made
  rcases around_of_sameFiles wf beside same noDirectory with
    ⟨failure, noAround⟩ | ⟨number, isThere⟩
  · left
    cases answer with
    | error failure => rfl
    | ok _ =>
      have noLastName : ∃ failure, e.makeDirectory path = .error failure := by
        rw [makeDirectory_eq, lastName_eq, noAround]
        cases checkPath path <;> exact ⟨_, rfl⟩
      obtain ⟨failure, failed⟩ := noLastName
      rw [Disk.makeBelow, makeOrThere, failed]
      exact (isOk_orThere e path failure).trans (isDirectory_of_around noAround)
  · exact Or.inr ⟨number, (makeBelow_spec wf' path).1.kept _ _ _ isThere⟩

/-- Directories are made alike on two disks beside each other, one after another. -/
theorem makeMissing_beside (wf : d.WellFormed) (beside : Beside here name bytes d d')
    (paths : List Path) :
    MadeAlike here name bytes (d.makeMissing paths) (d'.makeMissing paths) := by
  induction paths with
  | nil => exact Or.inl ⟨rfl, beside⟩
  | cons path above ih =>
    rw [makeMissing_cons, makeMissing_cons]
    by_cases empty : path.isEmpty = true
    · rw [if_pos empty, if_pos empty]
      exact Or.inl ⟨rfl, beside⟩
    rw [if_neg empty, if_neg empty]
    obtain ⟨sameAbove, wfAbove⟩ := makeMissing_spec wf above
    rcases makeDirectory_beside wf beside path with
      ⟨e, e', made, made', beside'⟩ | ⟨failure, failed, failed'⟩ |
        ⟨made, inside, failed', notThere⟩ | ⟨failed, failed', -, missing, noDirectory⟩
    · rw [made, made']
      exact Or.inl ⟨rfl, beside'⟩
    · rw [failed, failed']
      dsimp only
      by_cases isMissing : failure = noSuchFile
      · rw [if_pos isMissing, if_pos isMissing]
        exact ih.makeBelow wfAbove path
      · rw [if_neg isMissing, if_neg isMissing]
        exact orThere_beside beside path failure
    · -- the first disk gets a directory at the place of the file
      rw [made, failed']
      dsimp only
      rw [if_neg (by decide)]
      refine Or.inr ⟨?_, Or.inr (child?_putDirectory_self inside name)⟩
      exact (isOk_orThere d' path _).trans notThere
    · -- the first disk goes on with the directory above, and the second gives up
      rw [failed, failed']
      dsimp only
      rw [if_pos rfl, if_neg (by decide)]
      refine Or.inr ⟨?_, makeBelow_of_around wf beside wfAbove sameAbove noDirectory⟩
      exact (isOk_orThere d' path _).trans (isDirectory_of_around noDirectory)

theorem makeDirectories_beside (wf : d.WellFormed) (beside : Beside here name bytes d d')
    (path : Path) :
    MadeAlike here name bytes (d.makeDirectories path) (d'.makeDirectories path) :=
  makeMissing_beside wf beside path.ancestors

/-! ## Writing files -/

/-- A file can be written on both disks or on none of them. -/
theorem isOk_replaceFile_beside (beside : Beside here name bytes d d') (path : Path)
    (text : String) : (d'.replaceFile path text).isOk = (d.replaceFile path text).isOk := by
  rw [replaceFile_eq, replaceFile_eq]
  refine isOk_bind rfl fun _ _ _ _ => ?_
  refine isOk_bind (findDirectory_beside beside _).isOk fun _ _ _ _ => ?_
  split
  · rfl
  rcases lastName_beside beside path with same | ⟨checked, missing, noDirectory⟩
  · refine isOk_bind (congrArg _ same) fun last last' isLast isLast' => ?_
    obtain rfl : last = last' := Except.ok.inj (isLast.symm.trans (same.symm.trans isLast'))
    -- what stands at the last name is alike, but for the file, which the new one replaces
    cases last.name with
    | none => rfl
    | some other =>
      dsimp only
      split
      · rfl
      · by_cases isPlace : last.around = here ∧ other = name
        · obtain ⟨rfl, rfl⟩ := isPlace
          rw [beside.vacant, beside.file]
          rfl
        · rw [beside.others _ _ isPlace]
          cases d.child? last.around other with
          | none => rfl
          | some e => cases e <;> rfl
  · rw [lastName_of_around checked missing, lastName_of_around checked noDirectory]
    rfl

end IconForge.Disk
