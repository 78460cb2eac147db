import IconForge.Proofs.Store.Memory.History

/-!
# What is read-only stays as it is

Where changes are denied, making directories and writing files leave what is there as it is: what
there is, what it holds and what is listed. There is one exception. A directory can be made where
there is something already, and that may be a file: then it becomes a directory as well, and what
could not be listed before is listed as empty.

## Main definitions

- `MadeOver`: a directory is made where a file is.

## Main statements

- `WellFormed.stays_apply`: what one operation leaves as it is.
- `WellFormed.stays_foldl`: what any number of them leave as it is.
- `answers_below_readOnly`: the answers of a store where changes are denied.
-/

namespace IconForge.MemoryStore

/-! ## What is asked of a store in use -/

/-- An operation of a store in use, rather than one that sets it up. -/
def Operation.isRequest : Operation → Bool
  | .makeDirectories _ | .writeText .. => true
  | .addFile .. | .addDirectory _ | .setReadOnly _ => false

/-- An operation is to make a directory at a location. -/
def Operation.Makes (l : Location) : Operation → Prop
  | .makeDirectories dir => dir.components = l
  | _ => False

theorem Operation.exists_makes_iff (requests : List Operation) (path : Path) :
    (∃ operation ∈ requests, operation.Makes path.components) ↔
      ∃ dir, .makeDirectories dir ∈ requests ∧ dir.Same path := by
  constructor
  · rintro ⟨operation, mem, makes⟩
    cases operation with
    | makeDirectories dir => exact ⟨dir, mem, makes⟩
    | addFile | addDirectory | setReadOnly | writeText => exact makes.elim
  · rintro ⟨dir, mem, same⟩
    exact ⟨.makeDirectories dir, mem, same⟩

/-- What is denied is not changed by what is asked of a store. -/
theorem readOnly_apply {s : MemoryStore} {operation : Operation}
    (request : operation.isRequest = true) : (s.apply operation).readOnly = s.readOnly := by
  rcases s.apply_cases operation with ⟨e, -, same⟩ | ⟨-, done⟩
  · rw [same]
  · rw [done]
    cases operation with
    | makeDirectories dir => exact readOnly_addDirectory s dir.components
    | writeText path content => exact readOnly_addFile s path.components content
    | addFile | addDirectory | setReadOnly => simp [Operation.isRequest] at request

/-- What is below a location where changes are denied is read-only. -/
theorem isReadOnly_of_isPrefix {s : MemoryStore} {base l : Location} (denied : base ∈ s.readOnly)
    (below : base <+: l) : s.isReadOnly l = true := by
  rw [isReadOnly, List.any_eq_true]
  exact ⟨base, denied, List.isPrefixOf_iff_prefix.mpr below⟩

/-- What a file is in is a directory, and so is all above that. -/
theorem WellFormed.isDirectory_above_file {s : MemoryStore} (wf : s.WellFormed) {l file : Location}
    (isFile : (s.contents? file).isSome = true) (given : l ≠ []) (above : l <+: file)
    (other : l ≠ file) : s.isDirectory l = true := by
  -- something follows `l` in `file`, so `l` begins what `file` is in
  obtain ⟨more, rfl⟩ := above
  have something : more ≠ [] := by
    rintro rfl
    exact other (List.append_nil l).symm
  obtain ⟨front, last, rfl⟩ := (List.eq_nil_or_concat' more).resolve_left something
  have inside : Location.parent? (l ++ (front ++ [last])) = some (l ++ front) := by
    rw [Location.parent?, if_neg (by simp [List.append_eq_singleton_iff, given]),
      ← List.append_assoc, List.dropLast_concat]
  have around : l ++ front ≠ [] := List.append_ne_nil_of_left_ne_nil given front
  exact isDirectory_of_isPrefix
    (wf.housed _ ((isSome_contents?_iff s _).mp isFile) _ inside around) given
    (List.prefix_append l front)

/-! ## What stays -/

/-- The answers about a location are the same in two stores, but that it is also a directory in the
second if it is a file and a directory is made there. -/
structure Stays (s t : MemoryStore) (l : Location) (made : Prop) : Prop where
  contents : t.contents? l = s.contents? l
  names : namesIn (t.files.map Prod.fst) l = namesIn (s.files.map Prod.fst) l
  directory : t.isDirectory l = true ↔
    s.isDirectory l = true ∨ l ≠ [] ∧ (s.contents? l).isSome = true ∧ made

variable {s t u : MemoryStore} {l base : Location} {made made' : Prop}

theorem Stays.holds (stays : Stays s t l made) : t.holds l = s.holds l := by
  have contents : (t.contents? l).isSome = (s.contents? l).isSome := by rw [stays.contents]
  rw [Bool.eq_iff_iff, MemoryStore.holds, MemoryStore.holds, Bool.or_eq_true, Bool.or_eq_true,
    stays.directory]
  unfold contents? at contents
  rw [contents]
  tauto

theorem Stays.refl (s : MemoryStore) (l : Location) : Stays s s l False where
  contents := rfl
  names := rfl
  directory := by simp

theorem Stays.trans (first : Stays s t l made) (second : Stays t u l made') :
    Stays s u l (made ∨ made') where
  contents := second.contents.trans first.contents
  names := second.names.trans first.names
  directory := by
    rw [second.directory, first.directory, first.contents]
    tauto

/-- Making a directory where changes are denied makes a directory of a file at most. -/
theorem WellFormed.stays_makeDirectories (wf : s.WellFormed) (denied : base ∈ s.readOnly)
    (below : base <+: l) (dir : Path) :
    Stays s (s.apply (.makeDirectories dir)) l (dir.components = l) := by
  have made : s.apply (.makeDirectories dir) =
      if s.isReadOnly dir.components && !s.holds dir.components then s
      else s.addDirectory dir.components := by
    show (s.makeDirectories dir).2 = _
    unfold makeDirectories
    split <;> rfl
  rw [made]
  split
  case isTrue refused =>
    -- what is refused is not there, so no file is at its location
    have absent : (s.contents? dir.components).isSome = false := by
      have noneThere : s.holds dir.components = false := by
        simpa using (Bool.and_eq_true_iff.mp refused).2
      exact (Bool.or_eq_false_iff.mp noneThere).2
    refine ⟨rfl, rfl, iff_self_or.mpr ?_⟩
    rintro ⟨-, isFile, rfl⟩
    rw [absent] at isFile
    simp at isFile
  case isFalse allowed =>
    refine ⟨by rw [contents?, files_addDirectory]; rfl, by rw [files_addDirectory], ?_⟩
    rw [isDirectory_addDirectory]
    constructor
    · rintro (isThere | ⟨given, above⟩)
      · exact Or.inl isThere
      · -- changes are denied to the new directory too, so it is there already
        have denied : s.isReadOnly dir.components = true :=
          isReadOnly_of_isPrefix denied (below.trans above)
        have there : s.holds dir.components = true := by simpa [denied] using allowed
        rcases Bool.or_eq_true_iff.mp there with isDir | isFile
        · exact Or.inl (isDirectory_of_isPrefix isDir given above)
        · by_cases same : l = dir.components
          · subst same
            exact Or.inr ⟨given, isFile, rfl⟩
          · exact Or.inl (wf.isDirectory_above_file isFile given above same)
    · rintro (isThere | ⟨given, -, rfl⟩)
      · exact Or.inl isThere
      · exact Or.inr ⟨given, List.prefix_refl _⟩

/-- Writing a file changes nothing where changes are denied. -/
theorem stays_writeText (denied : base ∈ s.readOnly) (below : base <+: l) (path : Path)
    (content : String) : Stays s (s.apply (.writeText path content)) l False := by
  rcases s.writeText_cases path content with ⟨e, eq⟩ | ⟨allowed, -, eq⟩
  · have same : s.apply (.writeText path content) = s := congrArg Prod.snd eq
    rw [same]
    exact Stays.refl s l
  · -- the file is not below, and neither is what it is in
    have apart : ¬ l <+: path.components := by
      intro above
      have := isReadOnly_of_isPrefix denied (below.trans above)
      simp [allowed] at this
    have done : s.apply (.writeText path content) = s.carryOut (.writeText path content) :=
      congrArg Prod.snd eq
    rw [done]
    constructor
    case contents =>
      have other : l ≠ path.components := fun same => apart (same ▸ List.prefix_refl _)
      rw [contents?_carryOut]
      exact if_neg other
    case names =>
      rw [files_carryOut]
      rcases namesIn_put s.files path.components l content with same | ⟨name, inside, -⟩
      · exact same
      · exact absurd (inside ▸ List.prefix_append l [.name name]) apart
    case directory =>
      by_cases given : l = []
      · exact absurd (given ▸ List.nil_prefix) apart
      · rw [isDirectory_carryOut _ _ given]
        simp only [and_false, or_false, or_iff_left_iff_imp]
        rintro ⟨dir, parent, above⟩
        have inside : Location.parent? path.components = some dir.components := by
          rw [Location.parent?_components]
          exact congrArg (Option.map Path.components) parent
        obtain ⟨last, eq⟩ := Location.eq_concat_of_parent? inside
        exact absurd (eq ▸ above.trans (List.prefix_append dir.components [last])) apart

/-- What is asked of a store leaves things as they are where changes are denied. -/
theorem WellFormed.stays_apply (wf : s.WellFormed) (denied : base ∈ s.readOnly) (below : base <+: l)
    {operation : Operation} (request : operation.isRequest = true) :
    Stays s (s.apply operation) l (operation.Makes l) := by
  cases operation with
  | makeDirectories dir => exact wf.stays_makeDirectories denied below dir
  | writeText path content => exact stays_writeText denied below path content
  | addFile | addDirectory | setReadOnly => simp [Operation.isRequest] at request

/-- However often a store is asked. -/
theorem WellFormed.stays_foldl {requests : List Operation} (wf : s.WellFormed)
    (denied : base ∈ s.readOnly) (below : base <+: l)
    (only : ∀ operation ∈ requests, operation.isRequest = true) :
    Stays s (requests.foldl MemoryStore.apply s) l (∃ operation ∈ requests, operation.Makes l) := by
  induction requests generalizing s with
  | nil => simpa using Stays.refl s l
  | cons operation requests ih =>
    obtain ⟨first, others⟩ := List.forall_mem_cons.mp only
    -- the invariant and what is denied are kept, so what follows finds them as they were
    have denied' : base ∈ (s.apply operation).readOnly := by rwa [readOnly_apply first]
    rw [List.foldl_cons, List.exists_mem_cons_iff]
    exact (wf.stays_apply denied below first).trans (ih (wf.apply operation) denied' others)

/-! ## Answers -/

/-- A directory is made where a file is and no directory. The empty path is none that could be made
one. -/
structure MadeOver (s : MemoryStore) (requests : List Operation) (path : Path) : Prop where
  given : path.text ≠ ""
  isFile : (s.contents? path.components).isSome = true
  noDirectory : s.isDirectory path.components = false
  made : ∃ dir, .makeDirectories dir ∈ requests ∧ dir.Same path

/-- A file that is no directory has nothing in it. -/
theorem WellFormed.namesIn_of_noDirectory (wf : s.WellFormed) (given : l ≠ [])
    (noDirectory : s.isDirectory l = false) : namesIn (s.files.map Prod.fst) l = [] := by
  rw [List.eq_nil_iff_forall_not_mem]
  intro name mem
  have isThere : s.isDirectory l = true :=
    wf.housed _ (mem_namesIn mem) l (Location.parent?_concat_name l name) given
  simp [noDirectory] at isThere

/-- Where changes are denied, at a location or above it, a store in use keeps all of its answers: what
is there, what it holds, and what is listed. Only where a directory is made over a file can it be
listed afterwards, as empty. -/
theorem answers_below_readOnly (operations requests : List Operation) (base path : Path)
    (denied : base.components ∈ (after operations).readOnly)
    (below : base.components <+: path.components)
    (only : ∀ operation ∈ requests, operation.isRequest = true) :
    let s := after operations
    let t := after (operations ++ requests)
    t.holds path.components = s.holds path.components ∧
      t.contents? path.components = s.contents? path.components ∧
      (MadeOver s requests path → s.listFiles path = .error (.notFound path) ∧
        t.listFiles path = .ok []) ∧
      (¬ MadeOver s requests path → t.listFiles path = s.listFiles path) := by
  intro s t
  have wf : s.WellFormed := wellFormed_after operations
  have stays : Stays s t path.components (∃ operation ∈ requests,
      operation.Makes path.components) := by
    have run : t = requests.foldl apply s := List.foldl_append
    rw [run]
    exact wf.stays_foldl denied below only
  have directory := stays.directory
  rw [Operation.exists_makes_iff] at directory
  have given : path.components ≠ [] ↔ path.text ≠ "" := (Path.components_eq_nil_iff path).not
  refine ⟨stays.holds, stays.contents, ?madeOver, ?otherwise⟩
  case madeOver =>
    intro madeOver
    have noNames := wf.namesIn_of_noDirectory (given.mpr madeOver.given) madeOver.noDirectory
    have isDirectory : t.isDirectory path.components = true :=
      directory.mpr (Or.inr ⟨given.mpr madeOver.given, madeOver.isFile, madeOver.made⟩)
    constructor
    · rw [listFiles_eq, madeOver.noDirectory]
      rfl
    · rw [listFiles_eq, isDirectory, stays.names, noNames]
      rfl
  case otherwise =>
    intro notOver
    have same : t.isDirectory path.components = s.isDirectory path.components := by
      rw [Bool.eq_iff_iff, directory, or_iff_left_iff_imp]
      rintro ⟨named, isFile, made⟩
      by_contra noDirectory
      exact notOver ⟨given.mp named, isFile, by simpa using noDirectory, made⟩
    rw [listFiles_eq, listFiles_eq, same, stays.names]

/-- A file below a directory where changes are denied. It is not written, but a directory is made
over it, and what refused to be listed is listed. -/
theorem answers_below_readOnly_over_file :
    let operations := [.addFile ⟨"/out/x"⟩ "a", .setReadOnly ⟨"/out"⟩]
    let requests := [.writeText ⟨"/out/x"⟩ "b", .makeDirectories ⟨"/out/x/"⟩]
    let s := after operations
    let t := after (operations ++ requests)
    ((Path.mk "/out").components ∈ s.readOnly ∧
      (Path.mk "/out").components <+: (Path.mk "/out/x").components ∧
      ∀ operation ∈ requests, operation.isRequest = true) ∧
    MadeOver s requests ⟨"/out/x"⟩ ∧
    t.contents? (Path.mk "/out/x").components = some "a" ∧
    s.listFiles ⟨"/out/x"⟩ = .error (.notFound ⟨"/out/x"⟩) ∧ t.listFiles ⟨"/out/x"⟩ = .ok [] := by
  intro operations requests s t
  have denied : (Path.mk "/out").components ∈ s.readOnly := by decide
  have below : (Path.mk "/out").components <+: (Path.mk "/out/x").components := by decide
  have only : ∀ operation ∈ requests, operation.isRequest = true := by decide
  have madeOver : MadeOver s requests ⟨"/out/x"⟩ :=
    ⟨by decide, by decide, by decide, ⟨"/out/x/"⟩, by simp [requests], by decide⟩
  obtain ⟨-, contents, lists, -⟩ := answers_below_readOnly operations requests _ _ denied below only
  refine ⟨⟨denied, below, only⟩, madeOver, ?_, lists madeOver⟩
  rw [contents]
  decide

end IconForge.MemoryStore
