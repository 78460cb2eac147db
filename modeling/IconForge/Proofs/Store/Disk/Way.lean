import IconForge.Store.Disk
import Mathlib

/-!
# Ways on a disk

The way of a path goes from piece to piece: it stays, goes up, enters a directory, follows a link,
or ends. `Way` is the relation of a way to where it leads or why it does not get there, with one
constructor for each thing that can happen at a piece; `walk_eq_iff` says that it is the function
that finds the way. What is known of ways is proved by induction over it.

## Main statements

- `walk_eq_iff`: the relation and the function.
- `Way.stands`: where a way leads on a disk that is well-formed.
- `Way.ends_with_name`: a way to a file ends with a name.
- `Way.append`, `Way.of_append`: a way in two parts.
- `Way.look_of_create`, `Way.create_of_look`: the errand does not change where a file is.
-/

namespace IconForge.Disk

/-! ## What can happen at a piece -/

/-- A piece that is the name of something in a directory. -/
def IsName (piece : String) : Prop := piece ≠ "" ∧ piece ≠ "." ∧ piece ≠ ".."

/-- Why a name is refused before it is looked up, if it is. -/
def refusal? (errand : Errand) (piece : String) (pieces : List String) : Option Failure :=
  if errand = .create ∧ !pieces.isEmpty ∧ pieces.all String.isEmpty then some isADirectory
  else if maxNameSize < piece.utf8ByteSize then some nameTooLong
  else none

/-- Where a link that is found in the directory `here` starts. -/
def linkStart (here : Nat) (target : String) : Nat :=
  if target.toList.head? = some '/' then root else here

/-- The way by these pieces, from the directory `here` and with so many links to follow, and what it
comes to. -/
inductive Way (d : Disk) (errand : Errand) :
    (links here : Nat) → List String → Except Failure Target → Prop
  | done {links here : Nat} : Way d errand links here [] (.ok (.directory here))
  | stay {links here : Nat} {piece : String} {pieces : List String}
      {result : Except Failure Target} (stays : piece = "" ∨ piece = ".") :
      Way d errand links here pieces result → Way d errand links here (piece :: pieces) result
  | up {links here : Nat} {pieces : List String} {result : Except Failure Target} :
      Way d errand links (d.parent here) pieces result →
        Way d errand links here (".." :: pieces) result
  | refused {links here : Nat} {piece : String} {pieces : List String} {failure : Failure}
      (named : IsName piece) (refused : refusal? errand piece pieces = some failure) :
      Way d errand links here (piece :: pieces) (.error failure)
  | vacant {links here : Nat} {piece : String} {pieces : List String}
      (named : IsName piece) (passes : refusal? errand piece pieces = none)
      (found : d.child? here piece = none) :
      Way d errand links here (piece :: pieces)
        (if pieces.isEmpty then .ok (.vacant here piece) else .error noSuchFile)
  | directory {links here number : Nat} {piece : String} {pieces : List String}
      {result : Except Failure Target}
      (named : IsName piece) (passes : refusal? errand piece pieces = none)
      (found : d.child? here piece = some (.directory number)) :
      Way d errand links number pieces result → Way d errand links here (piece :: pieces) result
  | link {links here : Nat} {piece target : String} {pieces : List String}
      {result : Except Failure Target}
      (named : IsName piece) (passes : refusal? errand piece pieces = none)
      (found : d.child? here piece = some (.link target)) :
      Way d errand links (linkStart here target) (piecesOf target ++ pieces) result →
        Way d errand (links + 1) here (piece :: pieces) result
  | lastLink {here : Nat} {piece target : String} {pieces : List String}
      (named : IsName piece) (passes : refusal? errand piece pieces = none)
      (found : d.child? here piece = some (.link target)) :
      Way d errand 0 here (piece :: pieces) (.error tooManyLinks)
  | file {links here : Nat} {piece : String} {pieces : List String} {bytes : ByteArray}
      (named : IsName piece) (passes : refusal? errand piece pieces = none)
      (found : d.child? here piece = some (.file bytes)) :
      Way d errand links here (piece :: pieces)
        (if pieces.isEmpty then .ok (.file here piece bytes) else .error notADirectory)

variable {d : Disk} {errand : Errand} {links here : Nat} {pieces : List String}
  {result : Except Failure Target}

/-! ## The function and the relation -/

/-- What the function does at a name. -/
theorem walkWith_name {follow : Nat → List String → Except Failure Target} {piece : String}
    (named : IsName piece) :
    d.walkWith errand follow here (piece :: pieces) =
      match refusal? errand piece pieces with
      | some failure => .error failure
      | none =>
        match d.child? here piece with
        | none => if pieces.isEmpty then .ok (.vacant here piece) else .error noSuchFile
        | some (.directory number) => d.walkWith errand follow number pieces
        | some (.link target) => follow (linkStart here target) (piecesOf target ++ pieces)
        | some (.file bytes) =>
          if pieces.isEmpty then .ok (.file here piece bytes) else .error notADirectory := by
  obtain ⟨notEmpty, notDot, notDots⟩ := named
  rw [walkWith, refusal?]
  simp only [notEmpty, notDot, notDots, or_self, if_false]
  by_cases slashes : errand = .create ∧ !pieces.isEmpty ∧ pieces.all String.isEmpty
  · simp only [if_pos slashes]
  · by_cases long : maxNameSize < piece.utf8ByteSize
    · simp only [if_neg slashes, if_pos long]
    · simp only [if_neg slashes, if_neg long]
      rfl

/-- The function follows the way, if it does so at links. -/
theorem way_walkWith {follow : Nat → List String → Except Failure Target}
    (follows : ∀ here piece pieces target, IsName piece → refusal? errand piece pieces = none →
      d.child? here piece = some (.link target) →
      Way d errand links here (piece :: pieces)
        (follow (linkStart here target) (piecesOf target ++ pieces)))
    (here : Nat) (pieces : List String) :
    Way d errand links here pieces (d.walkWith errand follow here pieces) := by
  induction pieces generalizing here with
  | nil => exact .done
  | cons piece pieces ih =>
    by_cases stays : piece = "" ∨ piece = "."
    · rw [walkWith, if_pos stays]
      exact .stay stays (ih here)
    by_cases goesUp : piece = ".."
    · subst goesUp
      rw [walkWith, if_neg stays, if_pos rfl]
      exact .up (ih (d.parent here))
    have named : IsName piece := ⟨fun e => stays (.inl e), fun e => stays (.inr e), goesUp⟩
    rw [walkWith_name named]
    cases passes : refusal? errand piece pieces with
    | some failure => exact .refused named passes
    | none =>
      cases found : d.child? here piece with
      | none => exact .vacant named passes found
      | some entry =>
        cases entry with
        | directory number => exact .directory named passes found (ih number)
        | link target => exact follows here piece pieces target named passes found
        | file bytes => exact .file named passes found

theorem way_walk (d : Disk) (errand : Errand) (links here : Nat) (pieces : List String) :
    Way d errand links here pieces (d.walk errand links here pieces) := by
  induction links generalizing here pieces with
  | zero => exact way_walkWith (fun _ _ _ _ named passes found => .lastLink named passes found) ..
  | succ links ih =>
    exact way_walkWith (fun _ _ _ _ named passes found => .link named passes found (ih ..)) ..

/-- A way comes to what the function finds, and to nothing else. -/
theorem walk_eq_iff :
    d.walk errand links here pieces = result ↔ Way d errand links here pieces result := by
  constructor
  · rintro rfl
    exact way_walk ..
  · intro way
    -- with each number of links the function is the one that stops at, or follows, links
    have isWalkWith (links : Nat) : ∃ follow, d.walk errand links = d.walkWith errand follow := by
      cases links <;> exact ⟨_, rfl⟩
    induction way with
    | @done links here =>
      obtain ⟨follow, eq⟩ := isWalkWith links
      rw [eq, walkWith]
    | @stay links here piece pieces result stays _ ih =>
      obtain ⟨follow, eq⟩ := isWalkWith links
      rw [eq] at ih ⊢
      rw [walkWith, if_pos stays, ih]
    | @up links here pieces result _ ih =>
      obtain ⟨follow, eq⟩ := isWalkWith links
      rw [eq] at ih ⊢
      rw [walkWith, if_neg (by decide), if_pos rfl, ih]
    | @refused links here piece pieces failure named refused =>
      obtain ⟨follow, eq⟩ := isWalkWith links
      rw [eq, walkWith_name named, refused]
    | @vacant links here piece pieces named passes found =>
      obtain ⟨follow, eq⟩ := isWalkWith links
      rw [eq, walkWith_name named, passes, found]
    | @directory links here number piece pieces result named passes found _ ih =>
      obtain ⟨follow, eq⟩ := isWalkWith links
      rw [eq] at ih ⊢
      rw [walkWith_name named, passes, found]
      exact ih
    | @link links here piece target pieces result named passes found _ ih =>
      rw [walk, walkWith_name named, passes, found]
      exact ih
    | @lastLink here piece target pieces named passes found =>
      rw [walk, walkWith_name named, passes, found]
    | @file links here piece pieces bytes named passes found =>
      obtain ⟨follow, eq⟩ := isWalkWith links
      rw [eq, walkWith_name named, passes, found]

theorem Way.unique {other : Except Failure Target} (way : Way d errand links here pieces result)
    (way' : Way d errand links here pieces other) : result = other :=
  (walk_eq_iff.mpr way).symm.trans (walk_eq_iff.mpr way')

/-- A way that leads somewhere is not refused at a name. -/
theorem Way.passes {errand : Errand} {links : Nat} {piece : String} {pieces : List String}
    {result : Except Failure Target} (way : Way d errand links here (piece :: pieces) result)
    (named : IsName piece) {target : Target} (leads : result = .ok target) :
    refusal? errand piece pieces = none := by
  cases way with
  | stay stays => exact (stays.elim named.1 named.2.1).elim
  | up => exact absurd rfl named.2.2
  | refused | lastLink => contradiction
  | vacant _ passes | directory _ passes | link _ passes | file _ passes => exact passes

/-! ## Where ways lead -/

/-- Every number on a disk is that of a directory that is there. -/
structure WellFormed (d : Disk) : Prop where
  working : d.workingDirectory < d.directories.size
  parents : ∀ here, d.parent here < d.directories.size
  numbers : ∀ here name number, d.child? here name = some (.directory number) →
    number < d.directories.size

/-- A disk on which nothing is but the root. -/
theorem wellFormed_empty : ({} : Disk).WellFormed where
  working := by decide
  parents here := by cases here <;> simp [parent, Disk.root]
  numbers here name number found := by
    cases here <;> simp [child?, entries] at found

theorem WellFormed.root (wf : d.WellFormed) : root < d.directories.size :=
  Nat.zero_lt_of_lt wf.working

theorem WellFormed.start (wf : d.WellFormed) (path : Path) : d.start path < d.directories.size := by
  unfold Disk.start
  split
  · exact wf.root
  · exact wf.working

theorem WellFormed.linkStart (wf : d.WellFormed) (inside : here < d.directories.size)
    (target : String) : linkStart here target < d.directories.size := by
  unfold Disk.linkStart
  split
  · exact wf.root
  · exact inside

/-- What is said to be somewhere is there, and what is said to be missing is not. -/
def Target.Stands (d : Disk) : Target → Prop
  | .directory number => number < d.directories.size
  | .file around name bytes =>
    around < d.directories.size ∧ IsName name ∧ d.child? around name = some (.file bytes)
  | .vacant around name =>
    around < d.directories.size ∧ IsName name ∧ d.child? around name = none

/-- On a well-formed disk a way leads to what is there, or to a place that is free. -/
theorem Way.stands (wf : d.WellFormed) (way : Way d errand links here pieces result)
    (inside : here < d.directories.size) {target : Target} (leads : result = .ok target) :
    target.Stands d := by
  induction way with
  | done =>
    obtain rfl := Except.ok.inj leads
    exact inside
  | stay _ _ ih => exact ih inside leads
  | up _ ih => exact ih (wf.parents _) leads
  | refused | lastLink => contradiction
  | vacant named _ found =>
    split at leads
    · obtain rfl := Except.ok.inj leads
      exact ⟨inside, named, found⟩
    · contradiction
  | directory _ _ found _ ih => exact ih (wf.numbers _ _ _ found) leads
  | link _ _ _ _ ih => exact ih (wf.linkStart inside _) leads
  | file named _ found =>
    split at leads
    · obtain rfl := Except.ok.inj leads
      exact ⟨inside, named, found⟩
    · contradiction

/-- A way that leads to a file ends with a name, whatever links there are on it. -/
theorem Way.ends_with_name (way : Way d errand links here pieces result) {around : Nat}
    {name : String} {bytes : ByteArray} (leads : result = .ok (.file around name bytes)) :
    ∃ front last, pieces = front ++ [last] ∧ IsName last := by
  induction way with
  | done => simp at leads
  | refused | lastLink => contradiction
  | vacant => split at leads <;> simp at leads
  | @stay _ _ piece _ _ _ _ ih | @directory _ _ _ piece _ _ _ _ _ _ ih =>
    obtain ⟨front, last, rfl, named⟩ := ih leads
    exact ⟨piece :: front, last, rfl, named⟩
  | up _ ih =>
    obtain ⟨front, last, rfl, named⟩ := ih leads
    exact ⟨".." :: front, last, rfl, named⟩
  | @link _ _ piece _ pieces _ named _ _ _ ih =>
    -- either the link is the last piece, or the way goes on after it
    rcases pieces.eq_nil_or_concat with rfl | ⟨front, last, rfl⟩
    · exact ⟨[], piece, rfl, named⟩
    · obtain ⟨_, last', eq, named'⟩ := ih leads
      rw [List.concat_eq_append, ← List.append_assoc] at eq
      obtain rfl : last = last' := by simpa using (List.append_inj' eq rfl).2
      exact ⟨piece :: front, last, by simp, named'⟩
  | @file _ _ piece pieces _ named =>
    cases pieces with
    | nil => exact ⟨[], piece, rfl, named⟩
    | cons => simp at leads

/-! ## Ways in two parts -/

/-- Only a way to make something is refused for what comes after a name. -/
theorem refusal?_look (piece : String) (pieces pieces' : List String) :
    refusal? .look piece pieces = refusal? .look piece pieces' := by
  simp [refusal?]

/-- A way that goes on leads on from the directory that its first part leads to, with the links that
are left; or there is no such directory, and then it ends for the reason that there is none. -/
theorem Way.append (way : Way d .look links here pieces result) {rest : List String}
    (more : rest ≠ []) :
    (∃ e, result.bind Target.directory? = .error e ∧
      Way d .look links here (pieces ++ rest) (.error e)) ∨
    ∃ there left, result = .ok (.directory there) ∧
      ∀ result', Way d .look left there rest result' →
        Way d .look links here (pieces ++ rest) result' := by
  have goesOn (pieces : List String) : (pieces ++ rest).isEmpty = false := by simp [more]
  induction way with
  | @done links here => exact Or.inr ⟨here, links, rfl, fun _ way => way⟩
  | stay stays _ ih =>
    rcases ih with ⟨e, failed, way⟩ | ⟨there, left, rfl, leads⟩
    · exact Or.inl ⟨e, failed, .stay stays way⟩
    · exact Or.inr ⟨there, left, rfl, fun _ way => .stay stays (leads _ way)⟩
  | up _ ih =>
    rcases ih with ⟨e, failed, way⟩ | ⟨there, left, rfl, leads⟩
    · exact Or.inl ⟨e, failed, .up way⟩
    · exact Or.inr ⟨there, left, rfl, fun _ way => .up (leads _ way)⟩
  | refused named refused =>
    rw [refusal?_look] at refused
    exact Or.inl ⟨_, rfl, .refused named refused⟩
  | @vacant links here piece pieces named passes found =>
    rw [refusal?_look _ _ (pieces ++ rest)] at passes
    have way : Way d .look links here (piece :: (pieces ++ rest)) _ := .vacant named passes found
    rw [goesOn] at way
    exact Or.inl ⟨noSuchFile, by split <;> rfl, way⟩
  | @directory _ _ _ _ pieces _ named passes found _ ih =>
    rw [refusal?_look _ _ (pieces ++ rest)] at passes
    rcases ih with ⟨e, failed, way⟩ | ⟨there, left, rfl, leads⟩
    · exact Or.inl ⟨e, failed, .directory named passes found way⟩
    · exact Or.inr ⟨there, left, rfl, fun _ way => .directory named passes found (leads _ way)⟩
  | @link _ _ _ _ pieces _ named passes found _ ih =>
    rw [refusal?_look _ _ (pieces ++ rest)] at passes
    rw [List.append_assoc] at ih
    rcases ih with ⟨e, failed, way⟩ | ⟨there, left, rfl, leads⟩
    · exact Or.inl ⟨e, failed, .link named passes found way⟩
    · exact Or.inr ⟨there, left, rfl, fun _ way => .link named passes found (leads _ way)⟩
  | lastLink named passes found =>
    rw [refusal?_look] at passes
    exact Or.inl ⟨_, rfl, .lastLink named passes found⟩
  | @file links here piece pieces bytes named passes found =>
    rw [refusal?_look _ _ (pieces ++ rest)] at passes
    have way : Way d .look links here (piece :: (pieces ++ rest)) _ := .file named passes found
    rw [goesOn] at way
    exact Or.inl ⟨notADirectory, by split <;> rfl, way⟩

/-- A way that leads somewhere leads through a directory at every piece. -/
theorem Way.of_append {rest : List String} (more : rest ≠ []) {target : Target}
    (way : Way d .look links here (pieces ++ rest) (.ok target)) :
    ∃ there left, Way d .look links here pieces (.ok (.directory there)) ∧
      Way d .look left there rest (.ok target) := by
  have first := way_walk d .look links here pieces
  rcases first.append more with ⟨e, -, failed⟩ | ⟨there, left, eq, leads⟩
  · exact absurd (way.unique failed) (by simp)
  · refine ⟨there, left, eq ▸ first, ?_⟩
    have second := way_walk d .look left there rest
    rw [way.unique (leads _ second)]
    exact second

/-- Slashes lead nowhere else. -/
theorem way_slashes (d : Disk) (errand : Errand) (links here : Nat) {pieces : List String}
    (slashes : ∀ piece ∈ pieces, piece = "") :
    Way d errand links here pieces (.ok (.directory here)) := by
  induction pieces with
  | nil => exact .done
  | cons piece pieces ih =>
    obtain ⟨first, others⟩ := List.forall_mem_cons.mp slashes
    exact .stay (.inl first) (ih others)

/-! ## Errands -/

theorem refusal?_look_of_create {piece : String} (passes : refusal? .create piece pieces = none) :
    refusal? .look piece pieces = none := by
  unfold refusal? at passes ⊢
  split at passes
  · contradiction
  · simpa using passes

/-- Where something can be made, the way there also leads to see it. -/
theorem Way.look_of_create (way : Way d .create links here pieces result) {target : Target}
    (leads : result = .ok target) : Way d .look links here pieces result := by
  induction way with
  | done => exact .done
  | stay stays _ ih => exact .stay stays (ih leads)
  | up _ ih => exact .up (ih leads)
  | refused | lastLink => contradiction
  | vacant named passes found => exact .vacant named (refusal?_look_of_create passes) found
  | directory named passes found _ ih =>
    exact .directory named (refusal?_look_of_create passes) found (ih leads)
  | link named passes found _ ih =>
    exact .link named (refusal?_look_of_create passes) found (ih leads)
  | file named passes found => exact .file named (refusal?_look_of_create passes) found

/-- No slashes follow the name of a file. -/
theorem Way.refusal?_create {piece : String} {around : Nat} {name : String} {bytes : ByteArray}
    (way : Way d .look links here (piece :: pieces) result)
    (leads : result = .ok (.file around name bytes))
    (passes : refusal? .look piece pieces = none) : refusal? .create piece pieces = none := by
  subst leads
  unfold refusal? at passes ⊢
  simp only [reduceCtorEq, false_and, if_false] at passes
  rw [if_neg, passes]
  rintro ⟨-, more, slashes⟩
  -- the slashes would lead to a directory
  obtain ⟨there, left, -, rest⟩ : ∃ there left, _ ∧ Way d .look left there pieces _ :=
    Way.of_append (by simpa using more) (show Way d .look links here ([piece] ++ pieces) _ from way)
  have slashes : ∀ piece ∈ pieces, piece = "" := by simpa using slashes
  simpa using rest.unique (way_slashes d .look left there slashes)

/-- A file is also found where one is to be made. -/
theorem Way.create_of_look (way : Way d .look links here pieces result) {around : Nat}
    {name : String} {bytes : ByteArray} (leads : result = .ok (.file around name bytes)) :
    Way d .create links here pieces result := by
  induction way with
  | done => exact .done
  | stay stays _ ih => exact .stay stays (ih leads)
  | up _ ih => exact .up (ih leads)
  | refused | lastLink => contradiction
  | vacant => split at leads <;> simp at leads
  | directory named passes found way ih =>
    have whole := Way.directory named passes found way
    exact .directory named (whole.refusal?_create leads passes) found (ih leads)
  | link named passes found way ih =>
    have whole := Way.link named passes found way
    exact .link named (whole.refusal?_create leads passes) found (ih leads)
  | @file links here piece pieces bytes' named passes found =>
    have whole : Way d .look links here (piece :: pieces) _ := .file named passes found
    exact .file named (whole.refusal?_create leads passes) found

end IconForge.Disk
