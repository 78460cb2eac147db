import IconForge.Proofs.Path
import IconForge.Store.Memory

/-!
# What a store in memory keeps

A store in memory is known by what it says of each location: the content of the file there, how
often that was written, and whether there is a directory. The lemmas here say what each change does
to these answers, and what no change spoils: `WellFormed` is the invariant, and it holds of every
store that can be reached.

## Main statements

- `contents?_addFile`, `isDirectory_addDirectory`: what a change does to the answers.
- `makeDirectories_cases`, `writeText_cases`: an operation that fails changes nothing.
- `kept_wrote`, `Kept.writeText`: a file that has been written can be written again, and that changes
  nothing but the count.
- `wellFormed_after`: whatever has been done to a store, its files are at the locations of paths,
  and what a file is in is a directory.
-/

namespace IconForge

/-- The location above one that ends with a name. -/
@[simp]
theorem Location.parent?_concat_name (dir : Location) (name : String) :
    Location.parent? (dir ++ [.name name]) = some dir := by
  have notRoot : dir ++ [.name name] ≠ [.root] := by
    intro eq
    have := congrArg List.getLast? eq
    simp at this
  simp [Location.parent?, notRoot]

/-- A location is above another one in just one way: by its last component. -/
theorem Location.eq_concat_of_parent? {l dir : Location} (h : Location.parent? l = some dir) :
    ∃ last, l = dir ++ [last] := by
  unfold Location.parent? at h
  split at h
  · simp at h
  · rename_i something
    obtain ⟨ne_nil, -⟩ := not_or.mp something
    obtain rfl := Option.some.inj h
    exact ⟨l.getLast ne_nil, (List.dropLast_append_getLast ne_nil).symm⟩

namespace MemoryStore

/-! ## Rows of files -/

/-- A look-up in a row passes over the files at other locations. -/
theorem lookup_cons_of_ne {key k : Location} (h : k ≠ key) (content : String)
    (files : List (Location × String)) :
    ((key, content) :: files).lookup k = files.lookup k := by
  have other : (k == key) = false := by simpa using h
  rw [List.lookup_cons, other]

theorem lookup_put (files : List (Location × String)) (l k : Location) (content : String) :
    (put files l content).lookup k = if k = l then some content else files.lookup k := by
  induction files with
  | nil =>
    by_cases same : k = l
    · simp [put, same]
    · rw [put, lookup_cons_of_ne same, if_neg same]
  | cons head files ih =>
    obtain ⟨key, old⟩ := head
    rw [put]
    by_cases found : key = l
    · subst found
      by_cases same : k = key
      · simp [same]
      · rw [if_pos rfl, lookup_cons_of_ne same, lookup_cons_of_ne same, if_neg same]
    · rw [if_neg found]
      by_cases here : k = key
      · simp [here, found]
      · rw [lookup_cons_of_ne here, lookup_cons_of_ne here, ih]

/-- A row keeps its files and gets at most the one that is put into it. -/
theorem mem_put {files : List (Location × String)} {l : Location} {content : String}
    {entry : Location × String} (mem : entry ∈ put files l content) :
    entry = (l, content) ∨ entry ∈ files := by
  induction files with
  | nil => simpa [put] using mem
  | cons head files ih =>
    obtain ⟨key, old⟩ := head
    rw [put] at mem
    split at mem
    · exact (List.mem_cons.mp mem).imp_right (List.mem_cons_of_mem _)
    · rcases List.mem_cons.mp mem with rfl | mem
      · exact Or.inr List.mem_cons_self
      · exact (ih mem).imp_right (List.mem_cons_of_mem _)

/-- The locations of a row stay in order; a new one comes last. -/
theorem map_fst_put (files : List (Location × String)) (l : Location) (content : String) :
    (put files l content).map Prod.fst =
      if (files.lookup l).isSome then files.map Prod.fst else files.map Prod.fst ++ [l] := by
  induction files with
  | nil => simp [put, List.lookup]
  | cons head files ih =>
    obtain ⟨key, old⟩ := head
    rw [put]
    by_cases found : key = l
    · simp [found]
    · rw [if_neg found, List.map_cons, ih, lookup_cons_of_ne (Ne.symm found)]
      split <;> simp

/-- Putting what is there already changes nothing. -/
theorem put_of_lookup {files : List (Location × String)} {l : Location} {content : String}
    (h : files.lookup l = some content) : put files l content = files := by
  induction files with
  | nil => simp at h
  | cons head files ih =>
    obtain ⟨key, old⟩ := head
    rw [put]
    by_cases found : key = l
    · subst found
      simpa using h.symm
    · rw [lookup_cons_of_ne (Ne.symm found)] at h
      rw [if_neg found, ih h]

/-- The names of the files that are directly inside a directory. -/
def namesIn (files : List Location) (dir : Location) : List String :=
  (files.filter fun l => Location.parent? l = some dir).filterMap nameOf?

theorem listFiles_eq (s : MemoryStore) (dir : Path) :
    s.listFiles dir =
      if s.isDirectory dir.components then .ok (namesIn (s.files.map Prod.fst) dir.components)
      else .error (.notFound dir) := by
  unfold listFiles namesIn
  simp only [List.filter_map, List.filterMap_map]
  rfl

theorem mem_namesIn {files : List Location} {dir : Location} {name : String}
    (mem : name ∈ namesIn files dir) : dir ++ [.name name] ∈ files := by
  obtain ⟨l, isFile, named⟩ := List.mem_filterMap.mp mem
  obtain ⟨isFile, inside⟩ := List.mem_filter.mp isFile
  obtain ⟨last, rfl⟩ := Location.eq_concat_of_parent? (by simpa using inside)
  -- the last component is the name
  obtain rfl : last = .name name := by
    rw [nameOf?, List.getLast?_concat] at named
    cases last <;> simp_all
  exact isFile

theorem namesIn_append (files more : List Location) (dir : Location) :
    namesIn (files ++ more) dir = namesIn files dir ++ namesIn more dir := by
  simp [namesIn]

theorem namesIn_singleton (dir : Location) (name : String) :
    namesIn [dir ++ [.name name]] dir = [name] := by
  simp [namesIn, nameOf?]

/-- A new file adds at most its own name to those in a directory, at the end. -/
theorem namesIn_put (files : List (Location × String)) (l dir : Location) (content : String) :
    namesIn ((put files l content).map Prod.fst) dir = namesIn (files.map Prod.fst) dir ∨
      ∃ name, l = dir ++ [.name name] ∧
        namesIn ((put files l content).map Prod.fst) dir =
          namesIn (files.map Prod.fst) dir ++ [name] := by
  rw [map_fst_put]
  split
  · exact Or.inl rfl
  · rw [namesIn_append]
    cases names : namesIn [l] dir with
    | nil => exact Or.inl (by simp)
    | cons name more =>
      have mem : name ∈ namesIn [l] dir := by simp [names]
      obtain rfl : dir ++ [.name name] = l := by simpa using mem_namesIn mem
      obtain rfl : more = [] := by simpa [namesIn_singleton] using names.symm
      exact Or.inr ⟨name, rfl, rfl⟩

/-! ## Directories -/

variable (s : MemoryStore) (l : Location)

@[simp]
theorem files_addDirectory : (s.addDirectory l).files = s.files := by
  unfold addDirectory
  split <;> rfl

@[simp]
theorem written_addDirectory : (s.addDirectory l).written = s.written := by
  unfold addDirectory
  split <;> rfl

@[simp]
theorem readOnly_addDirectory : (s.addDirectory l).readOnly = s.readOnly := by
  unfold addDirectory
  split <;> rfl

variable {s l}

/-- A directory that is there needs no adding, nor does the empty location. -/
theorem addDirectory_eq_self (h : l = [] ∨ s.isDirectory l = true) : s.addDirectory l = s := by
  rcases h with empty | isThere <;> simp [addDirectory, *]

theorem isDirectory_addDirectory_self (given : l ≠ []) : (s.addDirectory l).isDirectory l = true :=
  (isDirectory_addDirectory s l l).mpr (Or.inr ⟨given, List.prefix_refl l⟩)

/-- Adding a directory takes none away. -/
theorem isDirectory_addDirectory_of {a : Location} (h : s.isDirectory a = true) :
    (s.addDirectory l).isDirectory a = true :=
  (isDirectory_addDirectory s l a).mpr (Or.inl h)

/-! ## Files -/

theorem files_addFile (s : MemoryStore) (l : Location) (content : String) :
    (s.addFile l content).files = put s.files l content := by
  simp [addFile]

@[simp]
theorem readOnly_addFile (s : MemoryStore) (l : Location) (content : String) :
    (s.addFile l content).readOnly = s.readOnly := by
  simp [addFile]

theorem isDirectory_addFile (s : MemoryStore) (l a : Location) (content : String) :
    (s.addFile l content).isDirectory a = (s.addDirectory (l.parent?.getD [])).isDirectory a := rfl

/-- Adding a file gives its location the content, and no other. -/
theorem contents?_addFile (s : MemoryStore) (l k : Location) (content : String) :
    (s.addFile l content).contents? k = if k = l then some content else s.contents? k := by
  rw [contents?, files_addFile, lookup_put]
  rfl

/-- The store after a write: the file is there, and the write is counted. -/
def wrote (s : MemoryStore) (l : Location) (content : String) : MemoryStore :=
  { s.addFile l content with written := l :: s.written }

theorem contents?_wrote (s : MemoryStore) (l k : Location) (content : String) :
    (s.wrote l content).contents? k = if k = l then some content else s.contents? k :=
  contents?_addFile s l k content

theorem writes_wrote (s : MemoryStore) (l k : Location) (content : String) :
    (s.wrote l content).writes k = s.writes k + if k = l then 1 else 0 := by
  by_cases same : l = k <;> simp [writes, wrote, same, eq_comm]

/-! ## Operations -/

/-- Making a directory is denied without any change, or adds it. -/
theorem makeDirectories_cases (s : MemoryStore) (dir : Path) :
    (∃ e, s.makeDirectories dir = (.error e, s)) ∨
      (s.isReadOnly dir.components && !s.holds dir.components) = false ∧
        s.makeDirectories dir = (.ok (), s.addDirectory dir.components) := by
  unfold makeDirectories
  split
  · exact Or.inl ⟨_, rfl⟩
  · rename_i allowed
    exact Or.inr ⟨by simpa only [Bool.not_eq_true] using allowed, rfl⟩

/-- Nothing that a path asks for is missing: what it is in is there. -/
def HasParent (s : MemoryStore) (path : Path) : Prop :=
  ∀ parent, path.parent? = some parent → parent.isEmpty = false → s.holds parent.components = true

/-- Writing a file fails without any change, or gives it the content where that is allowed and what
the file is in is there. -/
theorem writeText_cases (s : MemoryStore) (path : Path) (content : String) :
    (∃ e, s.writeText path content = (.error e, s)) ∨
      s.isReadOnly path.components = false ∧ s.HasParent path ∧
        s.writeText path content = (.ok (), s.wrote path.components content) := by
  unfold writeText
  cases denied : s.isReadOnly path.components with
  | true => exact Or.inl ⟨_, rfl⟩
  | false =>
    cases missing : path.parent?.filter fun parent =>
        !parent.isEmpty && !s.holds parent.components with
    | some parent => exact Or.inl ⟨.notFound parent, by simp⟩
    | none =>
      refine Or.inr ⟨rfl, ?_, by simp [wrote, addFile]⟩
      intro parent above given
      simpa [above, given] using missing

/-- Where writing is allowed and what the file is in is there, writing succeeds. -/
theorem writeText_of_hasParent {s : MemoryStore} {path : Path}
    (allowed : s.isReadOnly path.components = false) (parent : s.HasParent path)
    (content : String) : s.writeText path content = (.ok (), s.wrote path.components content) := by
  have found : (path.parent?.filter fun parent =>
      !parent.isEmpty && !s.holds parent.components) = none := by
    cases above : path.parent? with
    | none => rfl
    | some p =>
      cases given : p.isEmpty with
      | true => simp [given]
      | false => simp [given, parent p above given]
  simp [writeText, allowed, found, wrote, addFile]

/-! ## What is there stays there -/

/-- Adding a directory takes nothing away. -/
theorem holds_addDirectory_of {s : MemoryStore} {l a : Location} (h : s.holds a = true) :
    (s.addDirectory l).holds a = true := by
  rw [holds, Bool.or_eq_true] at h ⊢
  refine h.imp isDirectory_addDirectory_of fun isFile => ?_
  rwa [files_addDirectory]

/-- Writing takes nothing away. -/
theorem holds_wrote_of {s : MemoryStore} {l a : Location} {content : String}
    (h : s.holds a = true) : (s.wrote l content).holds a = true := by
  have h := holds_addDirectory_of (l := l.parent?.getD []) h
  rw [holds, Bool.or_eq_true] at h ⊢
  refine h.imp id fun isFile => ?_
  have isFile : (s.contents? a).isSome = true := by rwa [files_addDirectory] at isFile
  have : ((s.wrote l content).contents? a).isSome = true := by
    rw [contents?_wrote]
    split
    · rfl
    · exact isFile
  exact this

theorem HasParent.mono {s t : MemoryStore} {path : Path} (parent : s.HasParent path)
    (more : ∀ a, s.holds a = true → t.holds a = true) : t.HasParent path :=
  fun p above given => more _ (parent p above given)

/-! ## Files that can be written again -/

/-- A store in which a directory is there, or has been made. -/
def prepared (s : MemoryStore) (l : Location) : MemoryStore :=
  if s.holds l then s else s.addDirectory l

@[simp]
theorem files_prepared (s : MemoryStore) (l : Location) : (s.prepared l).files = s.files := by
  unfold prepared
  split <;> simp

@[simp]
theorem written_prepared (s : MemoryStore) (l : Location) : (s.prepared l).written = s.written := by
  unfold prepared
  split <;> simp

theorem isDirectory_prepared_of {s : MemoryStore} {l a : Location} (h : s.isDirectory a = true) :
    (s.prepared l).isDirectory a = true := by
  unfold prepared
  split
  · exact h
  · exact isDirectory_addDirectory_of h

theorem holds_prepared_of {s : MemoryStore} {l a : Location} (h : s.holds a = true) :
    (s.prepared l).holds a = true := by
  unfold prepared
  split
  · exact h
  · exact holds_addDirectory_of h

/-- Only the empty location is not there after it has been prepared. -/
theorem holds_prepared_self (s : MemoryStore) {l : Location} (given : l ≠ []) :
    (s.prepared l).holds l = true := by
  unfold prepared
  split
  · assumption
  · simp [holds, isDirectory_addDirectory_self given]

/-- A file has been written into a directory, and nothing that was asked for then is missing. -/
structure Kept (s : MemoryStore) (dir path : Path) (content : String) : Prop where
  prepared : dir.components = [] ∨ s.holds dir.components = true
  allowed : s.isReadOnly path.components = false
  parent : s.HasParent path
  housed : (Location.parent? path.components).getD [] = [] ∨
    s.isDirectory ((Location.parent? path.components).getD []) = true
  content : s.contents? path.components = some content

/-- A file that is written into a prepared directory is kept. -/
theorem kept_wrote {s : MemoryStore} {dir path : Path} (content : String)
    (allowed : (s.prepared dir.components).isReadOnly path.components = false)
    (parent : (s.prepared dir.components).HasParent path) :
    ((s.prepared dir.components).wrote path.components content).Kept dir path content where
  prepared := by
    by_cases empty : dir.components = []
    · exact Or.inl empty
    · exact Or.inr (holds_wrote_of (s.holds_prepared_self empty))
  allowed := by rwa [isReadOnly, wrote, readOnly_addFile]
  parent := parent.mono fun _ => holds_wrote_of
  housed := by
    by_cases empty : (Location.parent? path.components).getD [] = []
    · exact Or.inl empty
    · exact Or.inr (isDirectory_addDirectory_self empty)
  content := by rw [contents?_wrote, if_pos rfl]

/-- Where a file is kept in a directory that is not there, which is the empty one, making that is
allowed and changes nothing. -/
theorem Kept.makeDirectories {s : MemoryStore} {dir path : Path} {content : String}
    (kept : s.Kept dir path content) (missing : s.holds dir.components = false) :
    s.makeDirectories dir = (.ok (), s) := by
  have empty : dir.components = [] := by simpa [missing] using kept.prepared
  -- if the empty location were read-only, the file would be
  have allowed : s.isReadOnly dir.components = false := by
    have := kept.allowed
    rw [isReadOnly, List.any_eq_false] at this ⊢
    intro base mem below
    refine this base mem ?_
    obtain rfl : base = [] := by simpa [empty] using below
    rfl
  simp [MemoryStore.makeDirectories, allowed, addDirectory_eq_self (Or.inl empty)]

/-- A file that is kept can be written again with its content, and only the write is new. -/
theorem Kept.writeText {s : MemoryStore} {dir path : Path} {content : String}
    (kept : s.Kept dir path content) :
    s.writeText path content = (.ok (), { s with written := path.components :: s.written }) := by
  have files : put s.files path.components content = s.files := put_of_lookup kept.content
  rw [writeText_of_hasParent kept.allowed kept.parent, wrote, addFile,
    addDirectory_eq_self kept.housed]
  simp only [files]

/-! ## Stores that can be reached -/

/-- What can be done to a store. -/
inductive Operation where
  | addFile (path : Path) (content : String)
  | addDirectory (path : Path)
  | setReadOnly (path : Path)
  | makeDirectories (dir : Path)
  | writeText (path : Path) (content : String)

/-- The store after an operation, whether it succeeds or not. -/
def apply (s : MemoryStore) : Operation → MemoryStore
  | .addFile path content => s.addFile path.components content
  | .addDirectory path => s.addDirectory path.components
  | .setReadOnly path => s.setReadOnly path.components
  | .makeDirectories dir => (s.makeDirectories dir).2
  | .writeText path content => (s.writeText path content).2

/-- The store after a row of operations on an empty one. -/
def after (operations : List Operation) : MemoryStore := operations.foldl apply empty

/-- Files are at the locations of paths, and what a file is in is a directory. -/
structure WellFormed (s : MemoryStore) : Prop where
  located : ∀ l ∈ s.files.map Prod.fst, ∃ path : Path, path.components = l
  housed : ∀ l ∈ s.files.map Prod.fst, ∀ dir, Location.parent? l = some dir → dir ≠ [] →
    s.isDirectory dir = true

theorem wellFormed_empty : WellFormed empty where
  located := by simp [empty]
  housed := by simp [empty]

theorem WellFormed.addDirectory {s : MemoryStore} (wf : s.WellFormed) (l : Location) :
    (s.addDirectory l).WellFormed where
  located := by simpa using wf.located
  housed := by
    intro k isFile dir above given
    rw [files_addDirectory] at isFile
    exact isDirectory_addDirectory_of (wf.housed k isFile dir above given)

/-- Adding a file makes what it is in a directory. -/
theorem WellFormed.addFile {s : MemoryStore} (wf : s.WellFormed) (path : Path) (content : String) :
    (s.addFile path.components content).WellFormed where
  located := by
    intro k isFile
    rw [files_addFile] at isFile
    obtain ⟨entry, mem, rfl⟩ := List.mem_map.mp isFile
    rcases mem_put mem with rfl | mem
    · exact ⟨path, rfl⟩
    · exact wf.located _ (List.mem_map_of_mem mem)
  housed := by
    intro k isFile dir above given
    rw [files_addFile] at isFile
    obtain ⟨entry, mem, rfl⟩ := List.mem_map.mp isFile
    rw [isDirectory_addFile]
    rcases mem_put mem with rfl | mem
    · rw [above]
      exact isDirectory_addDirectory_self given
    · exact isDirectory_addDirectory_of
        (wf.housed _ (List.mem_map_of_mem mem) dir above given)

/-- The invariant speaks of files and directories only. -/
theorem WellFormed.congr {s t : MemoryStore} (wf : s.WellFormed) (files : t.files = s.files)
    (directories : t.directories = s.directories) : t.WellFormed where
  located := by
    rw [files]
    exact wf.located
  housed := by
    intro l isFile dir above given
    rw [files] at isFile
    rw [isDirectory, directories]
    exact wf.housed l isFile dir above given

theorem WellFormed.wrote {s : MemoryStore} (wf : s.WellFormed) (path : Path) (content : String) :
    (s.wrote path.components content).WellFormed :=
  (wf.addFile path content).congr rfl rfl

/-- No operation spoils a store. -/
theorem WellFormed.apply {s : MemoryStore} (wf : s.WellFormed) (operation : Operation) :
    (s.apply operation).WellFormed := by
  cases operation with
  | addFile path content => exact wf.addFile path content
  | addDirectory path => exact wf.addDirectory path.components
  | setReadOnly path => exact wf.congr rfl rfl
  | makeDirectories dir =>
    show (s.makeDirectories dir).2.WellFormed
    rcases makeDirectories_cases s dir with ⟨e, eq⟩ | ⟨-, eq⟩
    · rwa [eq]
    · rw [eq]
      exact wf.addDirectory dir.components
  | writeText path content =>
    show (s.writeText path content).2.WellFormed
    rcases writeText_cases s path content with ⟨e, eq⟩ | ⟨-, -, eq⟩
    · rwa [eq]
    · rw [eq]
      exact wf.wrote path content

/-- Stores that can be reached are well formed. -/
theorem wellFormed_after (operations : List Operation) : (after operations).WellFormed := by
  -- the last operation is the one that is added
  induction operations using List.reverseRecOn with
  | nil => exact wellFormed_empty
  | append_singleton operations operation ih =>
    rw [after, List.foldl_append]
    exact ih.apply operation

/-- What is not there has no files in it. -/
theorem WellFormed.namesIn_of_fresh {s : MemoryStore} (wf : s.WellFormed) {dir : Location}
    (given : dir ≠ []) (fresh : s.holds dir = false) : namesIn (s.files.map Prod.fst) dir = [] := by
  rw [List.eq_nil_iff_forall_not_mem]
  intro name mem
  have isThere : s.isDirectory dir = true :=
    wf.housed _ (mem_namesIn mem) dir (Location.parent?_concat_name dir name) given
  simp [holds, isThere] at fresh

/-- A directory that is made for a file holds nothing else. -/
theorem WellFormed.listFiles_of_fresh {s : MemoryStore} (wf : s.WellFormed) {dir : Path}
    {name : String} (given : dir.components ≠ []) (fresh : s.holds dir.components = false)
    (content : String) :
    ((s.addDirectory dir.components).wrote (dir.components ++ [.name name]) content).listFiles dir =
      .ok [name] := by
  have isThere : ((s.addDirectory dir.components).wrote (dir.components ++ [.name name])
      content).isDirectory dir.components = true :=
    isDirectory_addDirectory_of (isDirectory_addDirectory_self given)
  -- the file is new, so it comes last
  have new : (s.files.lookup (dir.components ++ [.name name])).isSome = false := by
    by_contra found
    obtain ⟨old, mem⟩ : ∃ old, (dir.components ++ [.name name], old) ∈ s.files := by
      simpa using found
    have isFile : dir.components ++ [.name name] ∈ s.files.map Prod.fst :=
      List.mem_map_of_mem mem
    have isThere : s.isDirectory dir.components = true :=
      wf.housed _ isFile _ (Location.parent?_concat_name _ name) given
    simp [holds, isThere] at fresh
  have files : ((s.addDirectory dir.components).wrote (dir.components ++ [.name name])
      content).files.map Prod.fst = s.files.map Prod.fst ++ [dir.components ++ [.name name]] := by
    rw [MemoryStore.wrote, files_addFile, files_addDirectory, map_fst_put, new]
    simp
  rw [listFiles_eq, isThere, files, namesIn_append, namesIn_singleton,
    wf.namesIn_of_fresh given fresh]
  rfl

end MemoryStore

end IconForge
