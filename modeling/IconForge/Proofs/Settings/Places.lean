import IconForge.Proofs.Interaction
import IconForge.Proofs.Path.Parent

/-!
# The nearest settings file

The settings file for a directory is looked for in the directory itself, then in the one above, and
so on up to the top. `Search` is this way up, one look after another: it comes to an end, for with
each step up a component goes, and it ends with the file in the nearest directory that has one. Only
a search that has come past the top looks for the settings file of the user.

## Main statements

- `findFrom?_eq_some_iff`, `findFrom?_eq_none_iff`: the nearest directory that has the file.
- `Search.iterate_step_inDirectory`: the search ends with what is found.
- `Search.iterate_step_eq_beyond_iff`: when it looks for the file of the user.
- `nearest_file_is_found`: the settings file for a directory.
-/

namespace IconForge

namespace Settings

variable {isThere : Path → Bool} {start : Path}

/-! ## The nearest directory -/

theorem candidates_of_top (top : start.parent? = none) : candidates start = [fileIn start] := by
  rw [candidates, Path.ancestors_of_top top, List.map_singleton]

theorem candidates_of_parent? {above : Path} (parent : start.parent? = some above) :
    candidates start = fileIn start :: candidates above := by
  rw [candidates, Path.ancestors_of_parent? parent, List.map_cons, ← candidates]

theorem getElem?_candidates (start : Path) (n : Nat) :
    (candidates start)[n]? = (start.above? n).map fileIn := by
  rw [candidates, List.getElem?_map, Path.getElem?_ancestors]

theorem findFrom?_eq_some_iff {file : Path} :
    findFrom? isThere start = some file ↔
      ∃ n dir, start.above? n = some dir ∧ fileIn dir = file ∧ isThere file = true ∧
        ∀ m < n, ∀ nearer, start.above? m = some nearer → isThere (fileIn nearer) = false := by
  rw [findFrom?, List.find?_eq_some_iff_getElem]
  constructor
  · rintro ⟨isFile, n, inside, here, nearer⟩
    have place := getElem?_candidates start n
    rw [List.getElem?_eq_getElem inside, here] at place
    obtain ⟨dir, above, eq⟩ := Option.map_eq_some_iff.mp place.symm
    refine ⟨n, dir, above, eq, isFile, fun m less dir' above' => ?_⟩
    have notThere := nearer m less
    have place' := getElem?_candidates start m
    rw [above', List.getElem?_eq_getElem (less.trans inside)] at place'
    rw [Option.some.inj place'] at notThere
    simpa using notThere
  · rintro ⟨n, dir, above, rfl, isFile, nearer⟩
    have place := getElem?_candidates start n
    rw [above] at place
    obtain ⟨inside, here⟩ := List.getElem?_eq_some_iff.mp place
    refine ⟨isFile, n, inside, here, fun m less => ?_⟩
    have place' := getElem?_candidates start m
    rw [List.getElem?_eq_getElem (less.trans inside)] at place'
    obtain ⟨dir', above', eq⟩ := Option.map_eq_some_iff.mp place'.symm
    rw [← eq, nearer m less dir' above']
    rfl

theorem findFrom?_eq_none_iff :
    findFrom? isThere start = none ↔
      ∀ n dir, start.above? n = some dir → isThere (fileIn dir) = false := by
  rw [findFrom?, List.find?_eq_none]
  constructor
  · intro none n dir above
    have place := getElem?_candidates start n
    rw [above] at place
    simpa using none _ (List.mem_of_getElem? place)
  · intro none file isPlace
    obtain ⟨n, place⟩ := List.mem_iff_getElem?.mp isPlace
    rw [getElem?_candidates] at place
    obtain ⟨dir, above, rfl⟩ := Option.map_eq_some_iff.mp place
    simp [none n dir above]

/-! ## The search -/

/-- A search for the settings file at work. -/
inductive Search where
  /-- It looks into a directory on the way up. -/
  | inDirectory (dir : Path)
  /-- It has come past the top and looks for the file of the user. -/
  | beyond (file : Path)
  | ended (answer : Option Path)

namespace Search

/-- One step of a search: it ends with the file that it looks for, if that is there, or else it goes
on to the directory above, and from the top to the file of the user, if there can be one. -/
def step (isThere : Path → Bool) (userFile : Option Path) : Search → Search
  | inDirectory dir =>
    if isThere (fileIn dir) then ended (some (fileIn dir))
    else
      match dir.parent? with
      | some above => inDirectory above
      | none =>
        match userFile with
        | some file => beyond file
        | none => ended none
  | beyond file => ended (if isThere file then some file else none)
  | ended answer => ended answer

variable {userFile : Option Path}

theorem iterate_step_ended (n : Nat) (answer : Option Path) :
    (step isThere userFile)^[n] (ended answer) = ended answer :=
  Function.iterate_fixed rfl n

/-- The steps after a directory that has no file. -/
theorem step_inDirectory_of_parent? {above : Path} (missing : isThere (fileIn start) = false)
    (parent : start.parent? = some above) :
    step isThere userFile (inDirectory start) = inDirectory above := by
  simp [step, missing, parent]

/-- A search ends with the first place where the file is. It takes one step for each component of
the directory that it starts from, one for the top, and one for the file of the user. -/
theorem iterate_step_inDirectory {n : Nat} (enough : start.components.length + 2 ≤ n) :
    (step isThere userFile)^[n] (inDirectory start) =
      ended ((candidates start ++ userFile.toList).find? isThere) := by
  induction start using Path.parent_induction generalizing n with
  | top start top =>
    obtain ⟨n, rfl⟩ : ∃ k, n = k + 2 := ⟨n - 2, by omega⟩
    rw [candidates_of_top top, Function.iterate_succ_apply, Function.iterate_succ_apply]
    cases found : isThere (fileIn start) with
    | true => simp [step, found, iterate_step_ended]
    | false =>
      cases userFile with
      | none => simp [step, found, top, iterate_step_ended]
      | some file => cases there : isThere file <;> simp [step, found, top, there, iterate_step_ended]
  | below start above parent ih =>
    obtain ⟨last, -, components⟩ := Path.components_of_parent? parent
    rw [components, List.length_append, List.length_singleton] at enough
    obtain ⟨n, rfl⟩ : ∃ k, n = k + 1 := ⟨n - 1, by omega⟩
    rw [candidates_of_parent? parent, Function.iterate_succ_apply]
    cases found : isThere (fileIn start) with
    | true => simp [step, found, iterate_step_ended]
    | false =>
      rw [step_inDirectory_of_parent? found parent, ih (by omega)]
      simp [found]

/-- One more step does not matter to whether a search gets anywhere else. -/
theorem exists_iterate_step_iff {search other : Search} (notYet : search ≠ other) :
    (∃ n, (step isThere userFile)^[n] search = other) ↔
      ∃ n, (step isThere userFile)^[n] (step isThere userFile search) = other := by
  constructor
  · rintro ⟨n | n, eq⟩
    · exact absurd eq notYet
    · exact ⟨n, eq⟩
  · rintro ⟨n, eq⟩
    exact ⟨n + 1, eq⟩

/-- A search that has ended looks for nothing more. -/
theorem not_exists_iterate_step_ended (answer : Option Path) (file : Path) :
    ¬ ∃ n, (step isThere userFile)^[n] (ended answer) = beyond file := by
  rintro ⟨n, eq⟩
  rw [iterate_step_ended] at eq
  exact Search.noConfusion eq

/-- A search looks for the file of the user if and only if there can be one, and neither the
directory that it starts from nor one above has the file. -/
theorem iterate_step_eq_beyond_iff {file : Path} :
    (∃ n, (step isThere userFile)^[n] (inDirectory start) = beyond file) ↔
      userFile = some file ∧ findFrom? isThere start = none := by
  induction start using Path.parent_induction with
  | top start top =>
    rw [exists_iterate_step_iff (by simp), findFrom?, candidates_of_top top]
    cases found : isThere (fileIn start) with
    | true => simp [step, found, not_exists_iterate_step_ended]
    | false =>
      cases userFile with
      | none => simp [step, found, top, not_exists_iterate_step_ended]
      | some other =>
        have next : step isThere (some other) (inDirectory start) = beyond other := by
          simp [step, found, top]
        rw [next]
        by_cases same : other = file
        · subst same
          exact iff_of_true ⟨0, rfl⟩ ⟨rfl, by simp [found]⟩
        · rw [exists_iterate_step_iff (by simpa using same)]
          exact iff_of_false (not_exists_iterate_step_ended _ file) (by simp [same])
  | below start above parent ih =>
    rw [exists_iterate_step_iff (by simp), findFrom?, candidates_of_parent? parent]
    cases found : isThere (fileIn start) with
    | true => simp [step, found, not_exists_iterate_step_ended]
    | false =>
      rw [step_inDirectory_of_parent? found parent, ih, findFrom?]
      simp [found]

end Search

/-! ## The settings file for a directory -/

/-- The place of the user comes after all directories. -/
theorem find?_places (isThere : Path → Bool) (env : Environment) :
    (places env).find? isThere =
      (findFrom? isThere env.workingDirectory).or (findUser? isThere env.configHome env.home) := by
  have last (userFile : Option Path) :
      userFile.toList.find? isThere = userFile.filter isThere := by
    cases userFile with
    | none => rfl
    | some file => cases there : isThere file <;> simp [there, Option.filter]
  rw [places, List.find?_append, last]
  rfl

/-- From whatever directory a search starts, and whatever files there are, it comes to an end. It
ends with the settings file in the directory itself, in its parent, in the parent of that, and so on:
in the first of these that has one, and with none if and only if none of them has. A search where a
program runs ends with the settings file of the user if none of them has one, and looks for it only
then. -/
theorem nearest_file_is_found (isThere : Path → Bool) (start : Path) :
    (∀ n, start.ancestors[n]? = start.above? n) ∧
    (∀ n, start.components.length + 2 ≤ n →
      (Search.step isThere none)^[n] (.inDirectory start) = .ended (findFrom? isThere start)) ∧
    (∀ file, findFrom? isThere start = some file ↔
      ∃ n dir, start.above? n = some dir ∧ fileIn dir = file ∧ isThere file = true ∧
        ∀ m < n, ∀ nearer, start.above? m = some nearer → isThere (fileIn nearer) = false) ∧
    (findFrom? isThere start = none ↔
      ∀ n dir, start.above? n = some dir → isThere (fileIn dir) = false) ∧
    ∀ (configHome home : Option Path) (terminal : Bool),
      let env : Environment := ⟨start, configHome, home, terminal⟩
      let step := Search.step isThere (userFile? configHome home)
      (∀ n, start.components.length + 2 ≤ n →
        step^[n] (.inDirectory start) = .ended ((places env).find? isThere)) ∧
      (places env).find? isThere =
        (findFrom? isThere start).or (findUser? isThere configHome home) ∧
      (∀ file, (∃ n, step^[n] (.inDirectory start) = .beyond file) ↔
        userFile? configHome home = some file ∧ findFrom? isThere start = none) ∧
      ∀ d : Disk, locate? d env = (places env).find? d.isThere := by
  refine ⟨Path.getElem?_ancestors start, fun n enough => ?_, fun file => findFrom?_eq_some_iff,
    findFrom?_eq_none_iff, fun configHome home terminal => ?_⟩
  · rw [Search.iterate_step_inDirectory enough, Option.toList_none, List.append_nil]
    rfl
  · exact ⟨fun n enough => Search.iterate_step_inDirectory enough, find?_places isThere _,
      fun file => Search.iterate_step_eq_beyond_iff, fun d => locate?_eq d _⟩

/-- Slashes and dots do not count on the way up, which ends with the empty path. -/
example : findFrom? (fun file => file.text == "icons.toml") ⟨"a//b/./c/"⟩ = some ⟨"icons.toml"⟩ := by
  decide

end Settings

end IconForge
