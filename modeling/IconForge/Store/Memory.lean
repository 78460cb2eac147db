import IconForge.Store.Basic

/-!
# Files in memory

A store that lists files in the order in which they were first added. Parts of it can be made
read-only, and it counts how often each file was written. Files and directories are known by the
components of their paths.

What is above a directory is a directory, so it is enough to remember the lowest ones:
`isDirectory` is the view in which the others appear, and `isDirectory_addDirectory` says how it
changes.
-/

namespace IconForge

/-- The components of a path, by which a store in memory knows it. -/
abbrev Location := List Path.Component

/-- The location above; the root and the empty location have none. -/
def Location.parent? (l : Location) : Option Location :=
  if l = [] ∨ l = [.root] then none else some l.dropLast

structure MemoryStore where
  /-- Files with their contents, in the order of their first addition. -/
  files : List (Location × String) := []
  /-- Every directory is one of these or above one of them. -/
  directories : List Location := []
  readOnly : List Location := []
  /-- A location for every write. -/
  written : List Location := []
  deriving DecidableEq, Repr

namespace MemoryStore

def empty : MemoryStore := {}

/-! ## Setting up -/

/-- There is a directory at a location. The empty location is none. -/
def isDirectory (s : MemoryStore) (l : Location) : Bool :=
  !l.isEmpty && s.directories.any fun low => l.isPrefixOf low

theorem isDirectory_iff (s : MemoryStore) (l : Location) :
    s.isDirectory l ↔ l ≠ [] ∧ ∃ low ∈ s.directories, l <+: low := by
  simp [isDirectory]

/-- Adds a directory and those above it. -/
def addDirectory (s : MemoryStore) (l : Location) : MemoryStore :=
  if l.isEmpty || s.isDirectory l then s else { s with directories := l :: s.directories }

/-- A location and those above it are added, the empty one apart, and nothing else. -/
theorem isDirectory_addDirectory (s : MemoryStore) (l a : Location) :
    (s.addDirectory l).isDirectory a ↔ s.isDirectory a ∨ a ≠ [] ∧ a <+: l := by
  by_cases empty : l = []
  · simp +contextual [addDirectory, empty]
  by_cases there : s.isDirectory l
  · obtain ⟨_, low, mem, below⟩ := (isDirectory_iff ..).1 there
    simp only [addDirectory, there, Bool.or_true, if_true, iff_self_or]
    exact fun ⟨named, above⟩ => (isDirectory_iff ..).2 ⟨named, low, mem, above.trans below⟩
  · simp [addDirectory, empty, there, isDirectory_iff, and_or_left, or_comm]

/-- Gives a location in a row a content, at the end if it is not there. -/
def put (files : List (Location × String)) (l : Location) (content : String) :
    List (Location × String) :=
  match files with
  | [] => [(l, content)]
  | (key, old) :: files =>
    if key = l then (l, content) :: files else (key, old) :: put files l content

/-- Adds a file and the directories above it, or replaces its content. -/
def addFile (s : MemoryStore) (l : Location) (content : String) : MemoryStore :=
  let s := s.addDirectory (l.parent?.getD [])
  { s with files := put s.files l content }

/-- Denies changes at and below a location. -/
def setReadOnly (s : MemoryStore) (l : Location) : MemoryStore :=
  { s with readOnly := l :: s.readOnly }

/-! ## Asking -/

def contents? (s : MemoryStore) (l : Location) : Option String := s.files.lookup l

def writes (s : MemoryStore) (l : Location) : Nat := s.written.count l

def isReadOnly (s : MemoryStore) (l : Location) : Bool :=
  s.readOnly.any fun base => base.isPrefixOf l

/-- There is a file or directory at a location. -/
def holds (s : MemoryStore) (l : Location) : Bool :=
  s.isDirectory l || (s.files.lookup l).isSome

/-- The name that a location ends with, if it is one. -/
def nameOf? (l : Location) : Option String :=
  match l.getLast? with
  | some (.name name) => some name
  | _ => none

/-! ## The store -/

def listFiles (s : MemoryStore) (dir : Path) : Except FileError (List String) :=
  if s.isDirectory dir.components then
    .ok ((s.files.filter fun (l, _) => l.parent? = some dir.components).filterMap fun (l, _) =>
      nameOf? l)
  else .error (.notFound dir)

def readText (s : MemoryStore) (path : Path) : Except FileError String :=
  match s.contents? path.components with
  | some content => .ok content
  | none => .error (.notFound path)

/-- Makes directories. Where changes are denied, only what is there already can be made. -/
def makeDirectories (s : MemoryStore) (dir : Path) : Except FileError Unit × MemoryStore :=
  if s.isReadOnly dir.components && !s.holds dir.components then
    (.error (.permissionDenied dir), s)
  else (.ok (), s.addDirectory dir.components)

/-- Writes a file. The directory it is in has to be there. -/
def writeText (s : MemoryStore) (path : Path) (content : String) :
    Except FileError Unit × MemoryStore :=
  if s.isReadOnly path.components then (.error (.permissionDenied path), s)
  else
    match path.parent?.filter fun parent => !parent.isEmpty && !s.holds parent.components with
    | some parent => (.error (.notFound parent), s)
    | none =>
      let s := s.addFile path.components content
      (.ok (), { s with written := path.components :: s.written })

instance : FileStore MemoryStore where
  pathExists s path := s.holds path.components
  listFiles := listFiles
  readText := readText
  makeDirectories := makeDirectories
  writeText := writeText

end MemoryStore

end IconForge
