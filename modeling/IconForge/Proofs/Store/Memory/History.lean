import IconForge.Proofs.Occurrences
import IconForge.Proofs.Path.Parent
import IconForge.Proofs.Store.Memory

/-!
# A store in memory remembers what was done

Of all that is asked of a store, some is refused, and that changes nothing. The rest is its history:
the content of a file is the one that was stored last, the writes are those in the history, and a
directory lists its files in the order in which they were first stored. All of this is told of
paths, which are compared by their components.

## Main definitions

- `granted`: what was done of a row of operations, which is all that was not refused.
- `Faithful`: what a store has to say after a history.

## Main statements

- `after_eq_carriedOut`: a store is what the operations that were granted make of an empty one.
- `contents?_carriedOut`, `writes_carriedOut`, `files_carriedOut`, `isDirectory_carriedOut`: what each
  of the answers of a store is after a history.
- `faithful_after`: stores are faithful.
-/

namespace IconForge

/-- The location above that of a path is that of its parent. -/
theorem Location.parent?_components (p : Path) :
    Location.parent? p.components = p.parent?.map Path.components := by
  rcases p.parent?_cases with ⟨none, components⟩ | ⟨q, last, parent, noRoot, components⟩
  · rw [none, Location.parent?, if_pos components]
    rfl
  · have something : ¬ (p.components = [] ∨ p.components = [.root]) := by
      rw [components]
      simp [List.append_eq_singleton_iff, noRoot]
    rw [parent, Location.parent?, if_neg something, components, List.dropLast_concat]
    rfl

namespace MemoryStore

/-! ## What is granted -/

/-- What a store answers to an operation. What sets it up is never refused. -/
def answer (s : MemoryStore) : Operation → Except FileError Unit
  | .makeDirectories dir => (s.makeDirectories dir).1
  | .writeText path content => (s.writeText path content).1
  | .addFile .. | .addDirectory _ | .setReadOnly _ => .ok ()

/-- What a store does of a row of operations, one after the other: those it does not refuse. -/
def grantedFrom (s : MemoryStore) : List Operation → List Operation
  | [] => []
  | operation :: operations =>
    if (s.answer operation).isOk then
      operation :: grantedFrom (s.apply operation) operations
    else grantedFrom (s.apply operation) operations

/-- What is done of a row of operations on an empty store. -/
def granted (operations : List Operation) : List Operation := empty.grantedFrom operations

/-- The store after an operation that is granted. -/
def carryOut (s : MemoryStore) : Operation → MemoryStore
  | .addFile path content => s.addFile path.components content
  | .addDirectory path | .makeDirectories path => s.addDirectory path.components
  | .setReadOnly path => s.setReadOnly path.components
  | .writeText path content => s.wrote path.components content

/-- The store after a history. -/
def carriedOut (done : List Operation) : MemoryStore := done.foldl carryOut empty

/-- An operation is refused and changes nothing, or it is carried out. -/
theorem apply_cases (s : MemoryStore) (operation : Operation) :
    (∃ e, s.answer operation = .error e ∧ s.apply operation = s) ∨
      s.answer operation = .ok () ∧ s.apply operation = s.carryOut operation := by
  cases operation with
  | addFile path content => exact Or.inr ⟨rfl, rfl⟩
  | addDirectory path => exact Or.inr ⟨rfl, rfl⟩
  | setReadOnly path => exact Or.inr ⟨rfl, rfl⟩
  | makeDirectories dir =>
    rcases s.makeDirectories_cases dir with ⟨e, eq⟩ | ⟨-, eq⟩
    · exact Or.inl ⟨e, congrArg Prod.fst eq, congrArg Prod.snd eq⟩
    · exact Or.inr ⟨congrArg Prod.fst eq, congrArg Prod.snd eq⟩
  | writeText path content =>
    rcases s.writeText_cases path content with ⟨e, eq⟩ | ⟨-, -, eq⟩
    · exact Or.inl ⟨e, congrArg Prod.fst eq, congrArg Prod.snd eq⟩
    · exact Or.inr ⟨congrArg Prod.fst eq, congrArg Prod.snd eq⟩

theorem foldl_apply_eq (s : MemoryStore) (operations : List Operation) :
    operations.foldl apply s = (s.grantedFrom operations).foldl carryOut s := by
  induction operations generalizing s with
  | nil => rfl
  | cons operation operations ih =>
    rw [List.foldl_cons, ih, grantedFrom]
    rcases s.apply_cases operation with ⟨e, refused, same⟩ | ⟨done, eq⟩
    · rw [refused, same]
      rfl
    · rw [done, eq]
      rfl

/-- A store is what its history makes of an empty one. -/
theorem after_eq_carriedOut (operations : List Operation) :
    after operations = carriedOut (granted operations) :=
  foldl_apply_eq empty operations

/-- One operation more is granted or not, by the store that the others have left. -/
theorem granted_concat (operations : List Operation) (operation : Operation) :
    granted (operations ++ [operation]) =
      granted operations ++
        if ((after operations).answer operation).isOk then [operation] else [] := by
  have onward (s : MemoryStore) : s.grantedFrom (operations ++ [operation]) =
      s.grantedFrom operations ++
        if ((operations.foldl apply s).answer operation).isOk then [operation] else [] := by
    induction operations generalizing s with
    | nil => rfl
    | cons first operations ih =>
      rw [List.cons_append, grantedFrom, grantedFrom, ih, List.foldl_cons]
      split <;> rfl
  exact onward empty

theorem carriedOut_concat (done : List Operation) (operation : Operation) :
    carriedOut (done ++ [operation]) = (carriedOut done).carryOut operation := by
  rw [carriedOut, List.foldl_append]
  rfl

/-! ## Histories -/

namespace Operation

/-- The path that an operation is about. -/
def path : Operation → Path
  | addFile path _ | addDirectory path | setReadOnly path | makeDirectories path
  | writeText path _ => path

/-- The file and the content that an operation stores. -/
def filed? : Operation → Option (Path × String)
  | addFile path content | writeText path content => some (path, content)
  | _ => none

/-- The directory that an operation makes. For a file it is what the file is in. -/
def made? : Operation → Option Path
  | addFile path _ | writeText path _ => path.parent?
  | addDirectory dir | makeDirectories dir => some dir
  | setReadOnly _ => none

/-- An operation writes a file, rather than setting it up. -/
def writes (path : Path) : Operation → Bool
  | writeText other _ => other.Same path
  | _ => false

end Operation

/-- The files of a history, with their contents, each time that one was stored. -/
def filed (done : List Operation) : List (Path × String) := done.filterMap Operation.filed?

/-- The content that was stored last for a path. -/
def lastContent? (done : List Operation) (path : Path) : Option String :=
  ((filed done).reverse.find? fun (file, _) => file.Same path).map Prod.snd

/-- The name of a file in a directory, if it has one and the directory is its parent. -/
def nameIn? (dir file : Path) : Option String :=
  if file.parent?.any fun parent => parent.Same dir then file.fileName? else none

/-- The names of the files in a directory, in the order in which they were first stored. -/
def namesFiled (done : List Operation) (dir : Path) : List String :=
  ((filed done).filterMap fun (file, _) => nameIn? dir file).eraseDups

/-- There is a directory at a path: one was made there or below it. -/
def WasMade (done : List Operation) (path : Path) : Prop :=
  path.text ≠ "" ∧ ∃ operation ∈ done, ∃ dir, operation.made? = some dir ∧
    ∃ above ∈ dir.ancestors, above.Same path

theorem filed_concat (done : List Operation) (operation : Operation) :
    filed (done ++ [operation]) = filed done ++ operation.filed?.toList := by
  rw [filed, List.filterMap_append]
  cases stored : operation.filed? <;> simp [filed, stored]

/-! ## What is carried out -/

theorem isSome_contents?_iff (s : MemoryStore) (l : Location) :
    (s.contents? l).isSome = true ↔ l ∈ s.files.map Prod.fst := by
  simp [contents?]

/-- What an operation stores is put into the row of files, and nothing else is. -/
theorem files_carryOut (s : MemoryStore) (operation : Operation) :
    (s.carryOut operation).files =
      match operation.filed? with
      | some (path, content) => put s.files path.components content
      | none => s.files := by
  cases operation with
  | addFile path content => exact files_addFile s path.components content
  | writeText path content => exact files_addFile s path.components content
  | addDirectory path => exact files_addDirectory s path.components
  | makeDirectories path => exact files_addDirectory s path.components
  | setReadOnly path => rfl

theorem contents?_carryOut (s : MemoryStore) (operation : Operation) (l : Location) :
    (s.carryOut operation).contents? l =
      match operation.filed? with
      | some (path, content) => if l = path.components then some content else s.contents? l
      | none => s.contents? l := by
  rw [contents?, files_carryOut]
  cases operation.filed? with
  | none => rfl
  | some stored => exact lookup_put s.files stored.1.components l stored.2

theorem writes_carryOut (s : MemoryStore) (operation : Operation) (path : Path) :
    (s.carryOut operation).writes path.components =
      s.writes path.components + if operation.writes path then 1 else 0 := by
  cases operation with
  | writeText other content =>
    have counted : Operation.writes path (.writeText other content) = true ↔
        path.components = other.components := by
      simp [Operation.writes, Path.Same, eq_comm]
    rw [carryOut, writes_wrote, if_congr counted rfl rfl]
  | addFile other content => simp [carryOut, writes, addFile, Operation.writes]
  | addDirectory other => simp [carryOut, writes, Operation.writes]
  | makeDirectories other => simp [carryOut, writes, Operation.writes]
  | setReadOnly other => simp [carryOut, writes, setReadOnly, Operation.writes]

/-- What an operation makes becomes a directory, with those above it, and nothing else does. -/
theorem isDirectory_carryOut (s : MemoryStore) (operation : Operation) {l : Location}
    (given : l ≠ []) :
    (s.carryOut operation).isDirectory l = true ↔
      s.isDirectory l = true ∨ ∃ dir, operation.made? = some dir ∧ l <+: dir.components := by
  -- a file makes what it is in
  have ofFile (path : Path) : (s.addDirectory ((Location.parent? path.components).getD
      [])).isDirectory l = true ↔
        s.isDirectory l = true ∨ ∃ dir, path.parent? = some dir ∧ l <+: dir.components := by
    rw [isDirectory_addDirectory, Location.parent?_components]
    cases path.parent? with
    | none => simp [given]
    | some dir => simp [given]
  cases operation with
  | addFile path content => exact ofFile path
  | writeText path content => exact ofFile path
  | addDirectory path => simp [carryOut, isDirectory_addDirectory, Operation.made?, given]
  | makeDirectories path => simp [carryOut, isDirectory_addDirectory, Operation.made?, given]
  | setReadOnly path => simp [carryOut, isDirectory, setReadOnly, Operation.made?]

/-- An operation changes neither the content nor the writes at another path. -/
theorem carryOut_of_not_same {s : MemoryStore} {operation : Operation} {path : Path}
    (other : ¬ operation.path.Same path) :
    (s.carryOut operation).contents? path.components = s.contents? path.components ∧
      (s.carryOut operation).writes path.components = s.writes path.components := by
  rw [contents?_carryOut, writes_carryOut]
  cases operation with
  | addFile p content => exact ⟨if_neg (Ne.symm other), rfl⟩
  | writeText p content =>
    have other : ¬ p.Same path := other
    exact ⟨if_neg (Ne.symm other), by simp [Operation.writes, other]⟩
  | _ => exact ⟨rfl, rfl⟩

/-! ## After a history -/

/-- What was stored last for a path is its content. -/
theorem contents?_carriedOut (done : List Operation) (path : Path) :
    (carriedOut done).contents? path.components = lastContent? done path := by
  induction done using List.reverseRecOn with
  | nil => rfl
  | append_singleton done operation ih =>
    rw [carriedOut_concat, contents?_carryOut, ih, lastContent?, lastContent?, filed_concat]
    cases operation.filed? with
    | none => simp
    | some stored =>
      by_cases same : stored.1.Same path
      · simp [same, same.symm]
      · have same' : ¬ path.components = stored.1.components := Ne.symm same
        simp [same, same']

theorem writes_carriedOut (done : List Operation) (path : Path) :
    (carriedOut done).writes path.components = done.countP (Operation.writes path) := by
  induction done using List.reverseRecOn with
  | nil => rfl
  | append_singleton done operation ih =>
    rw [carriedOut_concat, writes_carryOut, ih, List.countP_append, List.countP_singleton]

/-- The files of a store are those of its history, each where it was stored first. -/
theorem files_carriedOut (done : List Operation) :
    (carriedOut done).files.map Prod.fst =
      ((filed done).map fun (file, _) => file.components).eraseDups := by
  induction done using List.reverseRecOn with
  | nil => rfl
  | append_singleton done operation ih =>
    rw [carriedOut_concat, files_carryOut, filed_concat, List.map_append]
    cases operation.filed? with
    | none => simpa using ih
    | some stored =>
      obtain ⟨file, content⟩ := stored
      -- a file that is there keeps its place
      have known : ((carriedOut done).files.lookup file.components).isSome = true ↔
          file.components ∈ (filed done).map fun (file, _) => file.components := by
        rw [← List.mem_eraseDups, ← ih]
        exact isSome_contents?_iff _ _
      rw [map_fst_put, ih, Option.toList_some, List.map_singleton, eraseDups_concat,
        if_congr known rfl rfl]
      split
      · rw [List.append_nil]
      · rfl

theorem isDirectory_carriedOut_iff (done : List Operation) {l : Location} (given : l ≠ []) :
    (carriedOut done).isDirectory l = true ↔
      ∃ operation ∈ done, ∃ dir, operation.made? = some dir ∧ l <+: dir.components := by
  induction done using List.reverseRecOn with
  | nil => simp [carriedOut, isDirectory_iff, MemoryStore.empty]
  | append_singleton done operation ih =>
    rw [carriedOut_concat, isDirectory_carryOut _ _ given, ih]
    simp [or_and_right, exists_or]

/-- A store has the directories that were made, and those above them. -/
theorem isDirectory_carriedOut (done : List Operation) (path : Path) :
    (carriedOut done).isDirectory path.components = true ↔ WasMade done path := by
  by_cases empty : path.text = ""
  · have none : path.components = [] := (Path.components_eq_nil_iff path).mpr empty
    simp [WasMade, empty, isDirectory_iff, none]
  · have given : path.components ≠ [] := mt (Path.components_eq_nil_iff path).mp empty
    rw [isDirectory_carriedOut_iff done given, WasMade, and_iff_right empty]
    simp only [Path.Same, Path.exists_mem_ancestors_iff _ given]

/-! ## Listings -/

/-- The name of a file in a directory can be told from its location. -/
theorem nameIn?_eq (dir file : Path) :
    nameIn? dir file =
      if Location.parent? file.components = some dir.components then nameOf? file.components
      else none := by
  have inside : (file.parent?.any fun parent => parent.Same dir) = true ↔
      Location.parent? file.components = some dir.components := by
    rw [Location.parent?_components]
    cases file.parent? with
    | none => simp
    | some parent =>
      simp only [Option.any_some, Option.map_some, Option.some.injEq, decide_eq_true_eq]
      exact Iff.rfl
  rw [nameIn?, if_congr inside rfl rfl]
  rfl

/-- A location with a name that is directly inside a directory is told by the name. -/
theorem namesIn_eraseDups (locations : List Location) (dir : Location) :
    namesIn locations.eraseDups dir = (namesIn locations dir).eraseDups := by
  let name? (l : Location) := if Location.parent? l = some dir then nameOf? l else none
  have read (row : List Location) : namesIn row dir = row.filterMap name? := by
    rw [namesIn, List.filterMap_filter]
    simp only [decide_eq_true_eq, name?]
  rw [read, read]
  apply filterMap_eraseDups
  -- both are the name after the directory
  intro l l' name named named'
  have concat {k : Location} (named : name? k = some name) : k = dir ++ [.name name] := by
    have mem : name ∈ namesIn [k] dir := by
      rw [read]
      simpa using named
    exact (List.mem_singleton.mp (mem_namesIn mem)).symm
  rw [concat named, concat named']

theorem listFiles_carriedOut (done : List Operation) (dir : Path) :
    (carriedOut done).listFiles dir =
      if (carriedOut done).isDirectory dir.components then .ok (namesFiled done dir)
      else .error (.notFound dir) := by
  have names : namesIn ((carriedOut done).files.map Prod.fst) dir.components =
      namesFiled done dir := by
    rw [files_carriedOut, namesIn_eraseDups, namesIn, namesFiled, List.filterMap_filter,
      List.filterMap_map]
    simp only [nameIn?_eq, Function.comp_def, decide_eq_true_eq]
  rw [listFiles_eq, names]

/-! ## Faithful stores -/

/-- A store says of every path what its history says. -/
structure Faithful (done : List Operation) (s : MemoryStore) : Prop where
  contents : ∀ path : Path, s.contents? path.components = lastContent? done path
  writes : ∀ path : Path, s.writes path.components = done.countP (Operation.writes path)
  /-- No two files are stored for the same path. -/
  distinct : (s.files.map Prod.fst).Nodup
  directories : ∀ path : Path, s.isDirectory path.components = true ↔ WasMade done path
  /-- What is above a directory is a directory, up to the empty path. -/
  closed : ∀ dir : Path, s.isDirectory dir.components = true → ∀ above ∈ dir.ancestors,
    above.text ≠ "" → s.isDirectory above.components = true
  /-- What a file is in is a directory, if that is written out. -/
  housed : ∀ file : Path, (s.contents? file.components).isSome = true → ∀ parent,
    file.parent? = some parent → parent.text ≠ "" → s.isDirectory parent.components = true
  /-- Directories can be listed and nothing else. The names are those of the files in them. -/
  listings : ∀ dir : Path, s.listFiles dir =
    if s.isDirectory dir.components then .ok (namesFiled done dir) else .error (.notFound dir)
  once : ∀ dir : Path, (namesFiled done dir).Nodup
  /-- What is listed can be read. -/
  readable : ∀ (dir : Path) (names : List String), s.listFiles dir = .ok names →
    ∀ name ∈ names, ∃ content, s.readText (dir.join ⟨name⟩) = .ok content

/-- What a directory is below is a directory, up to the empty location. -/
theorem isDirectory_of_isPrefix {s : MemoryStore} {l low : Location}
    (isThere : s.isDirectory low = true) (given : l ≠ []) (above : l <+: low) :
    s.isDirectory l = true := by
  obtain ⟨-, lowest, isLowest, below⟩ := (s.isDirectory_iff low).mp isThere
  exact (s.isDirectory_iff l).mpr ⟨given, lowest, isLowest, above.trans below⟩

/-- A file that is listed in a directory is stored for its name there, and names are plain. -/
theorem WellFormed.readText_of_listed {s : MemoryStore} (wf : s.WellFormed) {dir : Path}
    {names : List String} (listed : s.listFiles dir = .ok names) {name : String}
    (mem : name ∈ names) : ∃ content, s.readText (dir.join ⟨name⟩) = .ok content := by
  rw [listFiles_eq] at listed
  split at listed
  · obtain rfl := Except.ok.inj listed
    have isFile := mem_namesIn mem
    obtain ⟨path, components⟩ := wf.located _ isFile
    have plain : Path.PlainName name :=
      Path.plainName_of_mem_components (p := path) (by simp [components])
    obtain ⟨content, found⟩ := Option.isSome_iff_exists.mp ((isSome_contents?_iff s _).mpr isFile)
    exact ⟨content, by rw [readText, Path.components_join_name dir plain, found]⟩
  · simp at listed

theorem faithful_carriedOut (done : List Operation) (wf : (carriedOut done).WellFormed) :
    Faithful done (carriedOut done) where
  contents := contents?_carriedOut done
  writes := writes_carriedOut done
  distinct := by
    rw [files_carriedOut]
    exact nodup_eraseDups _
  directories := isDirectory_carriedOut done
  closed := by
    intro dir isThere above mem given
    have named : above.components ≠ [] := mt (Path.components_eq_nil_iff above).mp given
    have begins : above.components <+: dir.components :=
      (Path.exists_mem_ancestors_iff dir named).mp ⟨above, mem, rfl⟩
    exact isDirectory_of_isPrefix isThere named begins
  housed := by
    intro file isFile parent above given
    have located := (isSome_contents?_iff _ _).mp isFile
    have inside : Location.parent? file.components = some parent.components := by
      rw [Location.parent?_components, above]
      rfl
    exact wf.housed _ located _ inside (mt (Path.components_eq_nil_iff parent).mp given)
  listings := listFiles_carriedOut done
  once _ := nodup_eraseDups _
  readable _ _ listed _ mem := wf.readText_of_listed listed mem

/-- Whatever is done to a store, it says of every path what its history says. An operation that is
refused changes nothing, and none changes the file at another path. -/
theorem faithful_after (operations : List Operation) (operation : Operation) :
    let s := after operations
    let next := after (operations ++ [operation])
    Faithful (granted operations) s ∧
      (match s.answer operation with
        | .ok () => granted (operations ++ [operation]) = granted operations ++ [operation]
        | .error _ => granted (operations ++ [operation]) = granted operations ∧ next = s) ∧
      ∀ path, ¬ operation.path.Same path →
        next.contents? path.components = s.contents? path.components ∧
          next.writes path.components = s.writes path.components := by
  intro s next
  have step : next = s.apply operation := by
    show after (operations ++ [operation]) = _
    rw [after, List.foldl_append]
    rfl
  refine ⟨?faithful, ?last, ?others⟩
  case faithful =>
    have wf : s.WellFormed := wellFormed_after operations
    have history : s = carriedOut (granted operations) := after_eq_carriedOut operations
    rw [history] at wf ⊢
    exact faithful_carriedOut (granted operations) wf
  case last =>
    rw [granted_concat]
    rcases s.apply_cases operation with ⟨e, refused, same⟩ | ⟨done, -⟩
    · rw [refused, step, same]
      exact ⟨List.append_nil _, rfl⟩
    · rw [done]
      rfl
  case others =>
    intro path other
    rcases s.apply_cases operation with ⟨e, -, same⟩ | ⟨-, done⟩
    · rw [step, same]
      exact ⟨rfl, rfl⟩
    · rw [step, done]
      exact carryOut_of_not_same other

end MemoryStore

end IconForge
