import IconForge.Proofs.Answers
import IconForge.Proofs.Path
import IconForge.Proofs.Store.Disk.Way

/-!
# What is done to a disk

A disk is changed by putting something into a directory. So everything else stays, and a way that
does not pass the place that has changed leads where it led before. Making directories adds
directories and nothing else; writing a file puts it at the last name of its path.

## Main statements

- `child?_put`, `child?_putDirectory`: what a change does to the view of a disk.
- `Way.kept`: what has become of a way when nothing that it passes is gone.
- `makeDirectories_spec`: making directories changes no file.
- `replaceFile_ok`, `readText_put`: what writing a file does, and that it is read afterwards.
- `overwriteFile_ok`, `overwriteFile_of_file`: what giving a file other contents does.
- `makeDirectories_of_findDirectory`: directories that are there need no making.
-/

namespace IconForge.Disk

variable {d d' : Disk} {here : Nat} {name : String} {path : Path}

/-! ## Putting something into a directory -/

@[simp]
theorem size_put (d : Disk) (here : Nat) (name : String) (e : DiskEntry) :
    (d.put here name e).directories.size = d.directories.size := by
  simp [put]

@[simp]
theorem workingDirectory_put (d : Disk) (here : Nat) (name : String) (e : DiskEntry) :
    (d.put here name e).workingDirectory = d.workingDirectory := rfl

@[simp]
theorem parent_put (d : Disk) (here : Nat) (name : String) (e : DiskEntry) (there : Nat) :
    (d.put here name e).parent there = d.parent there := by
  simp only [parent, put, Array.getElem?_modify]
  split <;> simp [Directory.put, Function.comp_def]

/-- The entries of a directory after something has been put into one. -/
theorem entries_put (d : Disk) (here : Nat) (name : String) (e : DiskEntry) (there : Nat) :
    (d.put here name e).entries there =
      if there = here ∧ here < d.directories.size then
        (name, e) :: (d.entries here).filter fun (other, _) => other != name
      else d.entries there := by
  simp only [entries, put, Array.getElem?_modify]
  by_cases isHere : here = there
  · subst isHere
    by_cases inside : here < d.directories.size
    · simp [inside, Directory.put]
    · simp [inside]
  · simp [isHere, Ne.symm isHere]

theorem WellFormed.put (wf : d.WellFormed) (inside : here < d.directories.size) (name : String)
    {e : DiskEntry} (number : ∀ number, e = .directory number → number < d.directories.size) :
    (d.put here name e).WellFormed where
  working := by simpa using wf.working
  parents there := by simpa using wf.parents there
  numbers there other n found := by
    rw [child?_put inside] at found
    rw [size_put]
    split at found
    · exact number n (Option.some.inj found)
    · exact wf.numbers _ _ _ found

/-! ## Putting a directory into a directory -/

@[simp]
theorem size_putDirectory (d : Disk) (here : Nat) (name : String) :
    (d.putDirectory here name).directories.size = d.directories.size + 1 := by
  simp [putDirectory]

@[simp]
theorem workingDirectory_putDirectory (d : Disk) (here : Nat) (name : String) :
    (d.putDirectory here name).workingDirectory = d.workingDirectory := rfl

theorem parent_putDirectory (d : Disk) (here : Nat) (name : String) (there : Nat) :
    (d.putDirectory here name).parent there =
      if there = d.directories.size then here else d.parent there := by
  rw [putDirectory, parent_put, parent, parent, Array.getElem?_push]
  split <;> rfl

/-- A new directory has no entries, and before it was there it had none either. -/
theorem entries_push (d : Disk) (around there : Nat) :
    (Disk.mk (d.directories.push { parent := around }) d.workingDirectory).entries there =
      d.entries there := by
  simp only [entries, Array.getElem?_push]
  split
  · rename_i new
    simp [new]
  · rfl

/-- A new directory is empty, and all others stay as they were. -/
theorem child?_putDirectory (inside : here < d.directories.size) (name : String) (there : Nat)
    (other : String) :
    (d.putDirectory here name).child? there other =
      if there = here ∧ other = name then some (.directory d.directories.size)
      else d.child? there other := by
  rw [putDirectory, child?_put (by simp; omega), child?, entries_push, child?]

theorem WellFormed.putDirectory (wf : d.WellFormed) (inside : here < d.directories.size)
    (name : String) : (d.putDirectory here name).WellFormed where
  working := by
    have := wf.working
    simp
    omega
  parents there := by
    have := wf.parents there
    rw [parent_putDirectory, size_putDirectory]
    split <;> omega
  numbers there other number found := by
    rw [child?_putDirectory inside] at found
    rw [size_putDirectory]
    split at found
    · obtain rfl := DiskEntry.directory.inj (Option.some.inj found)
      omega
    · have := wf.numbers _ _ _ found
      omega

/-! ## What is kept -/

/-- Nothing is gone, except that files may have other contents. -/
structure Keeps (before after : Disk) : Prop where
  directory : ∀ here name number, before.child? here name = some (.directory number) →
    after.child? here name = some (.directory number)
  link : ∀ here name target, before.child? here name = some (.link target) →
    after.child? here name = some (.link target)
  file : ∀ here name bytes, before.child? here name = some (.file bytes) →
    ∃ bytes', after.child? here name = some (.file bytes')
  parent : ∀ here < before.directories.size, after.parent here = before.parent here
  working : after.workingDirectory = before.workingDirectory

/-- What has become of the end of a way: a directory is the same one, a file is still a file, and so
is the reason that there is neither, unless something was missing. -/
def Persists : Except Failure Target → Except Failure Target → Prop
  | .ok (.directory number), result => result = .ok (.directory number)
  | .ok (.file around name _), result => ∃ bytes, result = .ok (.file around name bytes)
  | .ok (.vacant ..), _ => True
  | .error e, result => e = noSuchFile ∨ result = .error e

/-- A way leads where it led, unless it came to where nothing was. -/
theorem Way.kept (keeps : d.Keeps d') (wf : d.WellFormed) {errand : Errand} {links here : Nat}
    {pieces : List String} {result : Except Failure Target}
    (way : Way d errand links here pieces result) (inside : here < d.directories.size) :
    Persists result (d'.walk errand links here pieces) := by
  suffices ∃ result', Way d' errand links here pieces result' ∧ Persists result result' by
    obtain ⟨result', way', persists⟩ := this
    rwa [walk_eq_iff.mpr way']
  induction way with
  | done => exact ⟨_, .done, rfl⟩
  | stay stays _ ih =>
    obtain ⟨result', way, persists⟩ := ih inside
    exact ⟨result', .stay stays way, persists⟩
  | @up _ here _ _ _ ih =>
    obtain ⟨result', way, persists⟩ := ih (wf.parents _)
    rw [← keeps.parent here inside] at way
    exact ⟨result', .up way, persists⟩
  | refused named refused => exact ⟨_, .refused named refused, Or.inr rfl⟩
  | vacant => exact ⟨_, way_walk .., by split <;> simp [Persists]⟩
  | directory named passes found _ ih =>
    obtain ⟨result', way, persists⟩ := ih (wf.numbers _ _ _ found)
    exact ⟨result', .directory named passes (keeps.directory _ _ _ found) way, persists⟩
  | link named passes found _ ih =>
    obtain ⟨result', way, persists⟩ := ih (wf.linkStart inside _)
    exact ⟨result', .link named passes (keeps.link _ _ _ found) way, persists⟩
  | lastLink named passes found =>
    exact ⟨_, .lastLink named passes (keeps.link _ _ _ found), Or.inr rfl⟩
  | file named passes found =>
    obtain ⟨bytes, found'⟩ := keeps.file _ _ _ found
    refine ⟨_, .file named passes found', ?_⟩
    split
    · exact ⟨bytes, rfl⟩
    · exact Or.inr rfl

/-- No file is changed, nothing is gone, and all that is new are directories. -/
structure SameFiles (before after : Disk) : Prop where
  kept : ∀ here name e, before.child? here name = some e → after.child? here name = some e
  new : ∀ here name e, after.child? here name = some e →
    before.child? here name = some e ∨ ∃ number, e = .directory number
  parent : ∀ here < before.directories.size, after.parent here = before.parent here
  size : before.directories.size ≤ after.directories.size
  working : after.workingDirectory = before.workingDirectory

namespace SameFiles

theorem refl (d : Disk) : SameFiles d d :=
  ⟨fun _ _ _ => id, fun _ _ _ => Or.inl, fun _ _ => rfl, le_rfl, rfl⟩

theorem trans {d'' : Disk} (first : SameFiles d d') (second : SameFiles d' d'') :
    SameFiles d d'' where
  kept here name e found := second.kept _ _ _ (first.kept _ _ _ found)
  new here name e found := (second.new _ _ _ found).elim (first.new _ _ _) Or.inr
  parent here inside := by
    rw [second.parent here (lt_of_lt_of_le inside first.size), first.parent here inside]
  size := first.size.trans second.size
  working := second.working.trans first.working

theorem keeps (same : SameFiles d d') : Keeps d d' where
  directory here name _ := same.kept here name _
  link here name _ := same.kept here name _
  file here name bytes found := ⟨bytes, same.kept here name _ found⟩
  parent := same.parent
  working := same.working

end SameFiles

theorem sameFiles_putDirectory (inside : here < d.directories.size)
    (free : d.child? here name = none) : SameFiles d (d.putDirectory here name) where
  kept there other e found := by
    rw [child?_putDirectory inside, if_neg]
    · exact found
    · rintro ⟨rfl, rfl⟩
      simp [free] at found
  new there other e found := by
    rw [child?_putDirectory inside] at found
    split at found
    · exact Or.inr ⟨_, (Option.some.inj found).symm⟩
    · exact Or.inl found
  parent there inside := by rw [parent_putDirectory, if_neg inside.ne]
  size := by simp
  working := rfl

/-! ## The last name of a path -/

/-- The pieces of a path without the slashes at its end. -/
def trimmed (path : Path) : List String :=
  ((piecesOf path.text).reverse.dropWhile fun piece => piece = "").reverse

/-- The last piece of a path, if it is a name. -/
def lastPiece? (path : Path) : Option String :=
  (trimmed path).getLast?.filter fun piece => piece ≠ "." ∧ piece ≠ ".."

/-- The directory in which the last name of a path stands. -/
def around (d : Disk) (path : Path) : Except Failure Nat :=
  (d.walk .look maxLinks (d.start path) (trimmed path).dropLast).bind Target.directory?

theorem lastName_eq (d : Disk) (path : Path) :
    d.lastName path =
      (checkPath path).bind fun _ => (d.around path).bind fun around =>
        if (lastPiece? path).any fun name => maxNameSize < name.utf8ByteSize then
          .error nameTooLong
        else
          .ok ⟨around, lastPiece? path, (trimmed path).length < (piecesOf path.text).length⟩ := by
  have unfolded : d.lastName path = do
      checkPath path
      let around ← (← d.walk .look maxLinks (d.start path) (trimmed path).dropLast).directory?
      if (lastPiece? path).any fun name => maxNameSize < name.utf8ByteSize then throw nameTooLong
      return ⟨around, lastPiece? path, (trimmed path).length < (piecesOf path.text).length⟩ := rfl
  rw [unfolded, Disk.around]
  simp only [bind, Except.bind]
  cases checkPath path with
  | error e => rfl
  | ok _ =>
    cases d.walk .look maxLinks (d.start path) (trimmed path).dropLast with
    | error e => rfl
    | ok target =>
      dsimp only
      cases target.directory? with
      | error e => rfl
      | ok around =>
        dsimp only
        by_cases long : ((lastPiece? path).any fun name => maxNameSize < name.utf8ByteSize) = true
        · rw [if_pos long, if_pos long]
          rfl
        · rw [if_neg long, if_neg long]
          rfl

theorem trimmed_append (path : Path) :
    ∃ slashes, piecesOf path.text = trimmed path ++ slashes ∧ ∀ piece ∈ slashes, piece = "" := by
  refine ⟨((piecesOf path.text).reverse.takeWhile fun piece => piece = "").reverse, ?_, ?_⟩
  · rw [trimmed, ← List.reverse_append, List.takeWhile_append_dropWhile, List.reverse_reverse]
  · intro piece mem
    simpa using List.mem_takeWhile_imp (List.mem_reverse.mp mem)

/-- A path leads to a directory under which its last name stands, if that is found. -/
theorem lastName_eq_ok_iff {last : LastName} :
    d.lastName path = .ok last ↔
      checkPath path = .ok () ∧ d.around path = .ok last.around ∧
        (∀ name, lastPiece? path = some name → name.utf8ByteSize ≤ maxNameSize) ∧
        last.name = lastPiece? path ∧
        last.slash = decide ((trimmed path).length < (piecesOf path.text).length) := by
  rw [lastName_eq]
  cases checkPath path with
  | error e => simp [Except.bind]
  | ok _ =>
    cases d.around path with
    | error e => simp [Except.bind]
    | ok around =>
      obtain ⟨around', name', slash'⟩ := last
      simp only [Except.bind, true_and, Except.ok.injEq]
      split
      · rename_i long
        obtain ⟨name, isLast, long⟩ := (Option.any_eq_true ..).mp long
        simp only [reduceCtorEq, false_iff, not_and]
        intro _ short
        exact absurd (short name isLast) (by simpa using long)
      · rename_i short
        have short : ∀ name, lastPiece? path = some name → name.utf8ByteSize ≤ maxNameSize := by
          simpa [Option.any_eq_true] using short
        rw [Except.ok.injEq, LastName.mk.injEq, eq_comm (a := lastPiece? path),
          eq_comm (b := slash')]
        exact and_congr_right fun _ => (and_iff_right short).symm

theorem around_eq_ok_iff {number : Nat} :
    d.around path = .ok number ↔
      Way d .look maxLinks (d.start path) (trimmed path).dropLast (.ok (.directory number)) := by
  rw [← walk_eq_iff, around]
  cases d.walk .look maxLinks (d.start path) (trimmed path).dropLast with
  | error e => simp [Except.bind]
  | ok target => cases target <;> simp [Except.bind, Target.directory?]

theorem WellFormed.around (wf : d.WellFormed) {number : Nat} (h : d.around path = .ok number) :
    number < d.directories.size :=
  (around_eq_ok_iff.mp h).stands wf (wf.start path) rfl

/-! ## Making directories -/

theorem makeDirectory_eq (d : Disk) (path : Path) :
    d.makeDirectory path = (d.lastName path).bind fun last =>
      match last.name with
      | none => .error fileExists
      | some name =>
        if (d.child? last.around name).isSome then .error fileExists
        else .ok (d.putDirectory last.around name) := by
  unfold makeDirectory
  simp only [bind]
  congr 1

/-- A directory that is made is a new one at a place that is free. -/
theorem makeDirectory_ok (wf : d.WellFormed) (h : d.makeDirectory path = .ok d') :
    ∃ around name, d.lastName path = .ok around ∧ around.name = some name ∧
      around.around < d.directories.size ∧ d.child? around.around name = none ∧
      d' = d.putDirectory around.around name := by
  rw [makeDirectory_eq] at h
  obtain ⟨last, found, h⟩ := bind_eq_ok.mp h
  have inside := wf.around (lastName_eq_ok_iff.mp found).2.1
  cases named : last.name with
  | none => simp [named] at h
  | some name =>
    simp only [named] at h
    split at h
    · contradiction
    · rename_i free
      exact ⟨last, name, found, named, inside, by simpa using free, (Except.ok.inj h).symm⟩

/-- What a failure to make a directory comes to, if the directory is there already. -/
def orThere (d : Disk) (path : Path) (failure : Failure) : Except Failure Unit × Disk :=
  if d.isDirectory path then (.ok (), d) else (.error failure, d)

/-- Makes a directory, if it is not there already. -/
def makeOrThere (d : Disk) (path : Path) : Except Failure Unit × Disk :=
  match d.makeDirectory path with
  | .ok d => (.ok (), d)
  | .error failure => d.orThere path failure

/-- Makes a directory after those above it, if these could be made. -/
def makeBelow (path : Path) : Except Failure Unit × Disk → Except Failure Unit × Disk
  | (.error failure, d) => (.error failure, d)
  | (.ok (), d) => d.makeOrThere path

theorem makeMissing_cons (d : Disk) (path : Path) (above : List Path) :
    d.makeMissing (path :: above) =
      if path.isEmpty then (.ok (), d)
      else
        match d.makeDirectory path with
        | .ok d => (.ok (), d)
        | .error failure =>
          if failure = noSuchFile then makeBelow path (d.makeMissing above)
          else d.orThere path failure := by
  rw [makeMissing]
  unfold makeBelow
  rfl

theorem orThere_snd (d : Disk) (path : Path) (failure : Failure) :
    (d.orThere path failure).2 = d := by
  unfold orThere
  split <;> rfl

theorem makeOrThere_spec (wf : d.WellFormed) (path : Path) :
    SameFiles d (d.makeOrThere path).2 ∧ (d.makeOrThere path).2.WellFormed := by
  unfold makeOrThere
  cases made : d.makeDirectory path with
  | ok d' =>
    obtain ⟨last, name, -, -, inside, free, rfl⟩ := makeDirectory_ok wf made
    exact ⟨sameFiles_putDirectory inside free, wf.putDirectory inside name⟩
  | error failure =>
    dsimp only
    rw [orThere_snd]
    exact ⟨.refl d, wf⟩

theorem makeBelow_spec {made : Except Failure Unit × Disk} (wf : made.2.WellFormed) (path : Path) :
    SameFiles made.2 (makeBelow path made).2 ∧ (makeBelow path made).2.WellFormed := by
  obtain ⟨answer, d⟩ := made
  cases answer with
  | error failure => exact ⟨.refl d, wf⟩
  | ok _ => exact makeOrThere_spec wf path

/-- Directories that are missing are made, and nothing else. -/
theorem makeMissing_spec (wf : d.WellFormed) (paths : List Path) :
    SameFiles d (d.makeMissing paths).2 ∧ (d.makeMissing paths).2.WellFormed := by
  induction paths with
  | nil => exact ⟨.refl d, wf⟩
  | cons path above ih =>
    rw [makeMissing_cons]
    by_cases empty : path.isEmpty = true
    · rw [if_pos empty]
      exact ⟨.refl d, wf⟩
    rw [if_neg empty]
    cases made : d.makeDirectory path with
    | ok d' =>
      have one := makeOrThere_spec wf path
      rwa [makeOrThere, made] at one
    | error failure =>
      dsimp only
      by_cases isMissing : failure = noSuchFile
      · rw [if_pos isMissing]
        obtain ⟨same, wf'⟩ := ih
        obtain ⟨same', wf''⟩ := makeBelow_spec wf' path
        exact ⟨same.trans same', wf''⟩
      · rw [if_neg isMissing, orThere_snd]
        exact ⟨.refl d, wf⟩

theorem makeDirectories_spec (wf : d.WellFormed) (path : Path) :
    SameFiles d (d.makeDirectories path).2 ∧ (d.makeDirectories path).2.WellFormed :=
  makeMissing_spec wf path.ancestors

/-! ## Writing files -/

theorem replaceFile_eq (d : Disk) (path : Path) (text : String) :
    d.replaceFile path text =
      (checkPath ((workplace path).join draftName)).bind fun _ =>
      (d.findDirectory (workplace path)).bind fun _ =>
      if path.text.toList.contains '\x00' then .error invalidArgument
      else (d.lastName path).bind fun last =>
        match last.name with
        | none => .error deviceBusy
        | some name =>
          if last.slash then .error notADirectory
          else
            match d.child? last.around name with
            | some (.directory _) => .error isADirectory
            | _ => .ok (d.put last.around name (.file text.toUTF8)) := by
  unfold replaceFile
  simp only [bind]
  cases checkPath ((workplace path).join draftName) with
  | error e => rfl
  | ok _ =>
    cases d.findDirectory (workplace path) with
    | error e => rfl
    | ok _ =>
      dsimp only [Except.bind]
      split
      · rfl
      · cases d.lastName path with
        | error e => rfl
        | ok last =>
          dsimp only
          cases last.name with
          | none => rfl
          | some name =>
            dsimp only
            cases last.slash with
            | true => rfl
            | false =>
              cases d.child? last.around name with
              | none => rfl
              | some e => cases e <;> rfl

/-- A file that is written takes the place of the last name of its path, where no directory is. -/
theorem replaceFile_ok (wf : d.WellFormed) {text : String} (h : d.replaceFile path text = .ok d') :
    ∃ around name, d.lastName path = .ok ⟨around, some name, false⟩ ∧
      around < d.directories.size ∧
      (∀ number, d.child? around name ≠ some (.directory number)) ∧
      d' = d.put around name (.file text.toUTF8) := by
  rw [replaceFile_eq] at h
  obtain ⟨-, -, h⟩ := bind_eq_ok.mp h
  obtain ⟨-, -, h⟩ := bind_eq_ok.mp h
  split at h
  · contradiction
  obtain ⟨⟨around, name, slash⟩, found, h⟩ := bind_eq_ok.mp h
  have inside := wf.around (lastName_eq_ok_iff.mp found).2.1
  -- there is a last name, and no slash follows it
  cases name with
  | none => simp at h
  | some name =>
    cases slash with
    | true => simp at h
    | false =>
      simp only [Bool.false_eq_true, if_false] at h
      refine ⟨around, name, found, inside, ?_, ?_⟩
      · intro number isDirectory
        simp [isDirectory] at h
      · split at h
        · simp at h
        · exact (Except.ok.inj h).symm

/-! ## Reading what has been written -/

theorem resolve_eq (d : Disk) (errand : Errand) (path : Path) :
    d.resolve errand path = (checkPath path).bind fun _ =>
      d.walk errand maxLinks (d.start path) (piecesOf path.text) := rfl

theorem Keeps.start (keeps : Keeps d d') (path : Path) : d'.start path = d.start path := by
  rw [Disk.start, keeps.working, Disk.start]

/-- The last name of a path stays where it is. -/
theorem Keeps.lastName (keeps : Keeps d d') (wf : d.WellFormed) {last : LastName}
    (h : d.lastName path = .ok last) : d'.lastName path = .ok last := by
  obtain ⟨checked, found, others⟩ := lastName_eq_ok_iff.mp h
  have led := (around_eq_ok_iff.mp found).kept keeps wf (wf.start path)
  rw [← keeps.start path] at led
  exact lastName_eq_ok_iff.mpr ⟨checked, around_eq_ok_iff.mpr (walk_eq_iff.mp led), others⟩

/-- A last name is a name, and the trimmed pieces end with it. -/
theorem lastPiece?_spec (h : lastPiece? path = some name) :
    IsName name ∧ ∃ front, trimmed path = front ++ [name] := by
  obtain ⟨isLast, noDots⟩ := Option.filter_eq_some_iff.mp h
  obtain ⟨front, trimmedEq⟩ := List.getLast?_eq_some_iff.mp isLast
  have filled : name ≠ "" := by
    rintro rfl
    have notSlash :=
      List.head?_dropWhile_not (fun piece : String => piece = "") (piecesOf path.text).reverse
    rw [trimmed, List.getLast?_reverse] at isLast
    simp [isLast] at notSlash
  exact ⟨⟨filled, by simpa using noDots⟩, front, trimmedEq⟩

/-- The way of a path goes on with its last name from the directory around that. -/
theorem resolve_of_lastName {around : Nat} {slash : Bool}
    (h : d.lastName path = .ok ⟨around, some name, slash⟩) :
    IsName name ∧ refusal? .look name [] = none ∧ ∃ left slashes,
      (∀ piece ∈ slashes, piece = "") ∧ (slash = false → slashes = []) ∧
      ∀ result, Way d .look left around (name :: slashes) result →
        d.resolve .look path = result := by
  obtain ⟨checked, found, short, isLast, isSlash⟩ := lastName_eq_ok_iff.mp h
  obtain ⟨named, front, trimmedEq⟩ := lastPiece?_spec isLast.symm
  obtain ⟨slashes, pieces, areSlashes⟩ := trimmed_append path
  have first := around_eq_ok_iff.mp found
  rw [trimmedEq, List.dropLast_concat] at first
  rcases first.append (List.cons_ne_nil name slashes) with ⟨e, failed, -⟩ | ⟨there, left, eq, leads⟩
  · simp [Except.bind, Target.directory?] at failed
  · obtain rfl : around = there := by simpa using eq
    refine ⟨named, ?_, left, slashes, areSlashes, ?_, ?_⟩
    · have := short name isLast.symm
      simpa [refusal?] using this
    · rintro rfl
      have := of_decide_eq_false isSlash.symm
      rw [pieces, List.length_append] at this
      exact List.eq_nil_of_length_eq_zero (by omega)
    · intro result way
      rw [resolve_eq, checked, pieces, trimmedEq, List.append_assoc]
      exact walk_eq_iff.mpr (leads result way)

/-- A file that takes the place of a file, or of nothing, keeps everything else. -/
theorem keeps_put (inside : here < d.directories.size)
    (free : ∀ e, d.child? here name = some e → ∃ bytes, e = .file bytes) (bytes : ByteArray) :
    Keeps d (d.put here name (.file bytes)) := by
  have other {there : Nat} {other : String} {e : DiskEntry} (found : d.child? there other = some e)
      (noFile : ∀ bytes, e ≠ .file bytes) :
      (d.put here name (.file bytes)).child? there other = some e := by
    rw [child?_put inside, if_neg, found]
    rintro ⟨rfl, rfl⟩
    obtain ⟨bytes', rfl⟩ := free e found
    exact noFile bytes' rfl
  refine ⟨fun _ _ _ found => other found (by simp), fun _ _ _ found => other found (by simp), ?_,
    fun _ _ => parent_put .., rfl⟩
  intro there other' bytes' found
  rw [child?_put inside]
  split
  · exact ⟨bytes, rfl⟩
  · exact ⟨bytes', found⟩

theorem fromUTF8?_toUTF8 (text : String) : String.fromUTF8? text.toUTF8 = some text := by
  rw [String.toUTF8_eq_toByteArray, String.fromUTF8?, dif_pos text.isValidUTF8]
  rfl

theorem readText_of_resolve {around : Nat} {text : String}
    (h : d.resolve .look path = .ok (.file around name text.toUTF8)) :
    d.readText path = .ok text := by
  simp only [readText, h, bind, Except.bind, fromUTF8?_toUTF8]
  rfl

/-- A file that is put where a path has its last name, and no link is there, is read at the path. -/
theorem readText_put (wf : d.WellFormed) {around : Nat}
    (h : d.lastName path = .ok ⟨around, some name, false⟩)
    (free : ∀ e, d.child? around name = some e → ∃ bytes, e = .file bytes) (text : String) :
    (d.put around name (.file text.toUTF8)).readText path = .ok text := by
  have inside : around < d.directories.size := wf.around (lastName_eq_ok_iff.mp h).2.1
  have keeps := keeps_put inside free text.toUTF8
  obtain ⟨named, passes, left, slashes, -, noSlash, leads⟩ :=
    resolve_of_lastName (keeps.lastName wf h)
  obtain rfl := noSlash rfl
  have found : (d.put around name (.file text.toUTF8)).child? around name =
      some (.file text.toUTF8) := by
    rw [child?_put inside, if_pos ⟨rfl, rfl⟩]
  exact readText_of_resolve (leads _ (.file named passes found))

/-! ## Where paths lead -/

theorem findDirectory_eq_ok_iff {number : Nat} :
    d.findDirectory path = .ok number ↔ d.resolve .look path = .ok (.directory number) := by
  have unfolded : d.findDirectory path = (d.resolve .look path).bind Target.directory? := rfl
  rw [unfolded]
  cases d.resolve .look path with
  | error e => simp [Except.bind]
  | ok target => cases target <;> simp [Except.bind, Target.directory?]

theorem resolve_eq_ok_iff {errand : Errand} {target : Target} :
    d.resolve errand path = .ok target ↔
      checkPath path = .ok () ∧
        Way d errand maxLinks (d.start path) (piecesOf path.text) (.ok target) := by
  rw [resolve_eq, ← walk_eq_iff]
  cases checkPath path with
  | error e => simp [Except.bind]
  | ok _ => simp [Except.bind]

/-- A path leads to what is there, or to a place that is free. -/
theorem WellFormed.resolve (wf : d.WellFormed) {errand : Errand} {target : Target}
    (h : d.resolve errand path = .ok target) : target.Stands d :=
  (resolve_eq_ok_iff.mp h).2.stands wf (wf.start path) rfl

/-- A file stays where it is found, whatever it holds then. -/
theorem Keeps.resolve_file (keeps : Keeps d d') (wf : d.WellFormed) {errand : Errand}
    {around : Nat} {bytes : ByteArray}
    (h : d.resolve errand path = .ok (.file around name bytes)) :
    ∃ bytes', d'.resolve errand path = .ok (.file around name bytes') := by
  obtain ⟨checked, way⟩ := resolve_eq_ok_iff.mp h
  obtain ⟨bytes', isThere⟩ := way.kept keeps wf (wf.start path)
  refine ⟨bytes', resolve_eq_ok_iff.mpr ⟨checked, ?_⟩⟩
  rw [keeps.start path]
  exact walk_eq_iff.mp isThere

/-! ## Overwriting files -/

theorem overwriteFile_eq (d : Disk) (path : Path) (bytes : ByteArray) :
    d.overwriteFile path bytes = (d.resolve .create path).bind fun target =>
      match target with
      | .file around name _ | .vacant around name => .ok (d.put around name (.file bytes))
      | .directory _ => .error isADirectory := rfl

/-- What is overwritten is the file where the path leads, or it is made there where nothing is. -/
theorem overwriteFile_ok {bytes : ByteArray} (h : d.overwriteFile path bytes = .ok d') :
    ∃ around name, d' = d.put around name (.file bytes) ∧
      (d.resolve .look path = .ok (.vacant around name) ∨
        ∃ old, d.resolve .look path = .ok (.file around name old)) := by
  rw [overwriteFile_eq] at h
  obtain ⟨target, found, h⟩ := bind_eq_ok.mp h
  obtain ⟨checked, way⟩ := resolve_eq_ok_iff.mp found
  -- where something can be made, the same is seen
  have leads := resolve_eq_ok_iff.mpr ⟨checked, way.look_of_create rfl⟩
  cases target with
  | directory number => contradiction
  | file around name old => exact ⟨around, name, (Except.ok.inj h).symm, Or.inr ⟨old, leads⟩⟩
  | vacant around name => exact ⟨around, name, (Except.ok.inj h).symm, Or.inl leads⟩

/-- A file that is there can be overwritten. -/
theorem overwriteFile_of_file {around : Nat} {old : ByteArray}
    (h : d.resolve .look path = .ok (.file around name old)) (bytes : ByteArray) :
    d.overwriteFile path bytes = .ok (d.put around name (.file bytes)) := by
  obtain ⟨checked, way⟩ := resolve_eq_ok_iff.mp h
  have found := resolve_eq_ok_iff.mpr ⟨checked, way.create_of_look rfl⟩
  rw [overwriteFile_eq, found]
  rfl

/-- A file that is overwritten is read with its new text, also where links lead to it. -/
theorem readText_put_of_resolve (wf : d.WellFormed) {around : Nat} {old : ByteArray}
    (h : d.resolve .look path = .ok (.file around name old)) (text : String) :
    (d.put around name (.file text.toUTF8)).readText path = .ok text := by
  obtain ⟨inside, -, isThere⟩ := wf.resolve h
  have keeps : Keeps d (d.put around name (.file text.toUTF8)) := by
    apply keeps_put inside
    intro e found
    exact ⟨old, Option.some.inj (found.symm.trans isThere)⟩
  obtain ⟨bytes, leads⟩ := keeps.resolve_file wf h
  have wf' : (d.put around name (.file text.toUTF8)).WellFormed := wf.put inside name (by simp)
  -- what is found there is what has been put there
  obtain ⟨-, -, found⟩ := wf'.resolve leads
  rw [child?_put inside, if_pos ⟨rfl, rfl⟩] at found
  obtain rfl := DiskEntry.file.inj (Option.some.inj found)
  exact readText_of_resolve leads

/-! ## Directories that are there -/

/-- The path of a directory has a last name, or none because it is that of the root or ends in
dots. -/
theorem exists_lastName_of_findDirectory {number : Nat} (h : d.findDirectory path = .ok number) :
    ∃ last, d.lastName path = .ok last := by
  obtain ⟨checked, way⟩ := resolve_eq_ok_iff.mp (findDirectory_eq_ok_iff.mp h)
  obtain ⟨slashes, pieces, -⟩ := trimmed_append path
  suffices ∃ around, d.around path = .ok around ∧
      ∀ name, lastPiece? path = some name → name.utf8ByteSize ≤ maxNameSize by
    obtain ⟨around, found, short⟩ := this
    exact ⟨⟨around, _, _⟩, lastName_eq_ok_iff.mpr ⟨checked, found, short, rfl, rfl⟩⟩
  rcases List.eq_nil_or_concat (trimmed path) with empty | ⟨front, last, trimmedEq⟩
  · refine ⟨d.start path, ?_, ?_⟩
    · rw [around_eq_ok_iff, empty]
      exact .done
    · intro name isLast
      obtain ⟨-, front, trimmedEq⟩ := lastPiece?_spec isLast
      simp [empty] at trimmedEq
  · rw [List.concat_eq_append] at trimmedEq
    rw [pieces, trimmedEq, List.append_assoc] at way
    obtain ⟨around, left, first, second⟩ := way.of_append (by simp)
    refine ⟨around, ?_, ?_⟩
    · rw [around_eq_ok_iff, trimmedEq, List.dropLast_concat]
      exact first
    · intro name isLast
      obtain ⟨named, front', eq⟩ := lastPiece?_spec isLast
      obtain ⟨-, same⟩ := List.append_inj' (trimmedEq.symm.trans eq) rfl
      obtain rfl := (List.cons.inj same).1
      have passes := second.passes named rfl
      simpa [refusal?] using passes

/-- What ends with the name of a file, or of nothing, is no directory. -/
theorem isDirectory_of_lastName {around : Nat} {slash : Bool}
    (h : d.lastName path = .ok ⟨around, some name, slash⟩)
    (free : ∀ e, d.child? around name = some e → ∃ bytes, e = .file bytes) :
    d.isDirectory path = false := by
  obtain ⟨named, passes, left, slashes, -, -, leads⟩ := resolve_of_lastName h
  rw [refusal?_look _ _ slashes] at passes
  have notFound (number : Nat) : d.findDirectory path ≠ .ok number := by
    intro found
    rw [findDirectory_eq_ok_iff] at found
    cases isThere : d.child? around name with
    | none =>
      rw [leads _ (.vacant named passes isThere)] at found
      split at found <;> simp at found
    | some e =>
      obtain ⟨bytes, rfl⟩ := free e isThere
      rw [leads _ (.file named passes isThere)] at found
      split at found <;> simp at found
  unfold isDirectory
  cases found : d.findDirectory path with
  | error e => rfl
  | ok number => exact absurd found (notFound number)

/-- A directory that is there is not made again. -/
theorem makeDirectory_of_findDirectory {number : Nat} (h : d.findDirectory path = .ok number) :
    d.makeDirectory path = .error fileExists := by
  obtain ⟨last, found⟩ := exists_lastName_of_findDirectory h
  obtain ⟨around, lastName, slash⟩ := last
  rw [makeDirectory_eq, found]
  cases lastName with
  | none => rfl
  | some name =>
    have isThere : (d.child? around name).isSome = true := by
      by_contra free
      have free : d.child? around name = none := by simpa using free
      have notThere := isDirectory_of_lastName found (by simp [free])
      rw [isDirectory, h] at notThere
      contradiction
    simp [Except.bind, isThere]

/-- Directories that are there need no making. -/
theorem makeDirectories_of_findDirectory {number : Nat} (h : d.findDirectory path = .ok number) :
    d.makeDirectories path = (.ok (), d) := by
  have isThere : d.isDirectory path = true := by rw [isDirectory, h]; rfl
  obtain ⟨above, ancestors⟩ := path.exists_ancestors
  rw [makeDirectories, ancestors, makeMissing_cons]
  split
  · rfl
  · rw [makeDirectory_of_findDirectory h]
    simp [orThere, isThere, fileExists, noSuchFile]

end IconForge.Disk
