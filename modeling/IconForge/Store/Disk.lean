import IconForge.Store.Basic
import IconForge.Text.Search

/-!
# Files on a disk

Directories with files, symbolic links and further directories in them, with a working directory,
and the operations of an operating system on it: which of them are refused, for what reason, and
what they leave. Links are followed, but not forever; a name may not be too long; and a path that
ends in a slash means a directory.

Directories are numbered, and the root, which is always there, has the number 0. `child?` is the
view in which everything but the listing of a directory is stated: what a directory holds under a
name. `child?_put` says how it changes.
-/

namespace IconForge

open IconForge.Text

/-- What a directory can hold under a name. -/
inductive DiskEntry where
  | file (bytes : ByteArray)
  /-- The directory with a number. -/
  | directory (number : Nat)
  | link (target : String)

structure Directory where
  /-- The number of the directory around it; the root is around itself. -/
  parent : Nat := 0
  entries : List (String × DiskEntry) := []

namespace Directory

/-- Puts something under a name, instead of what is there. -/
def put (dir : Directory) (name : String) (e : DiskEntry) : Directory :=
  { dir with entries := (name, e) :: dir.entries.filter fun (other, _) => other != name }

theorem lookup_put (dir : Directory) (name : String) (e : DiskEntry) (other : String) :
    (dir.put name e).entries.lookup other =
      if other = name then some e else dir.entries.lookup other := by
  by_cases h : other = name
  · subst h; simp [put]
  · simp only [put, List.lookup_cons, beq_eq_false_iff_ne.2 h, h, if_false]
    induction dir.entries with
    | nil => rfl
    | cons kept rest ih =>
      obtain ⟨key, _⟩ := kept
      by_cases same : key = name <;>
        simp [same, ih, List.lookup_cons, beq_eq_false_iff_ne.2 h]

end Directory

structure Disk where
  /-- The directories by their numbers. -/
  directories : Array Directory := #[{}]
  workingDirectory : Nat := 0

namespace Disk

/-! ## Refusals -/

def noSuchFile : Failure := ⟨.notFound, "No such file or directory (os error 2)"⟩

def deviceBusy : Failure := ⟨.other, "Device or resource busy (os error 16)"⟩

def fileExists : Failure := ⟨.other, "File exists (os error 17)"⟩

def notADirectory : Failure := ⟨.other, "Not a directory (os error 20)"⟩

def isADirectory : Failure := ⟨.other, "Is a directory (os error 21)"⟩

def invalidArgument : Failure := ⟨.other, "Invalid argument (os error 22)"⟩

def nameTooLong : Failure := ⟨.other, "File name too long (os error 36)"⟩

def tooManyLinks : Failure := ⟨.other, "Too many levels of symbolic links (os error 40)"⟩

def zeroByteInName : Failure := ⟨.other, "file name contained an unexpected NUL byte"⟩

def notUtf8 : Failure := ⟨.other, "stream did not contain valid UTF-8"⟩

def noWholeTree : Failure := ⟨.other, "failed to create whole tree"⟩

/-! ## Directories -/

def root : Nat := 0

def entries (d : Disk) (here : Nat) : List (String × DiskEntry) :=
  ((d.directories[here]?).map Directory.entries).getD []

/-- What a directory holds under a name. -/
def child? (d : Disk) (here : Nat) (name : String) : Option DiskEntry :=
  (d.entries here).lookup name

def parent (d : Disk) (here : Nat) : Nat := ((d.directories[here]?).map Directory.parent).getD root

/-- Puts something into a directory under a name, instead of what is there. -/
def put (d : Disk) (here : Nat) (name : String) (e : DiskEntry) : Disk :=
  { d with directories := d.directories.modify here fun dir => dir.put name e }

/-- Puts a new directory into a directory under a name. -/
def putDirectory (d : Disk) (here : Nat) (name : String) : Disk :=
  let number := d.directories.size
  { d with directories := d.directories.push { parent := here } }.put here name (.directory number)

/-- A directory that is there holds what was put into it, and all else stays. -/
theorem child?_put {d : Disk} {here : Nat} (h : here < d.directories.size) (name : String)
    (e : DiskEntry) (there : Nat) (other : String) :
    (d.put here name e).child? there other =
      if there = here ∧ other = name then some e else d.child? there other := by
  simp only [child?, entries, put, Array.getElem?_modify]
  by_cases same : here = there
  · subst same
    simp [h, Directory.lookup_put]
  · simp [same, Ne.symm same]

/-! ## Finding the way -/

inductive Target where
  | directory (number : Nat)
  | file (around : Nat) (name : String) (bytes : ByteArray)
  /-- Nothing is there, but the directory around it is. -/
  | vacant (around : Nat) (name : String)

def maxNameSize : Nat := 255

/-- What a path of too many bytes begins with. -/
def pathSizeLimit : Nat := 4096

/-- How many links are followed on the way. -/
def maxLinks : Nat := 40

/-- The pieces of a path between its slashes. -/
def piecesOf (text : String) : List String :=
  (splitWhere (fun c => c == '/') text.toList).map String.ofList

inductive Errand where
  /-- To see what is there. -/
  | look
  /-- To make a file there if there is nothing. Slashes after the last name ask for a directory, and
  no file can be made of that. -/
  | create
  deriving DecidableEq, Repr

/-- Where the way leads that starts in the directory `here` and goes by these pieces; `follow` goes
on at a link. -/
def walkWith (d : Disk) (errand : Errand) (follow : Nat → List String → Except Failure Target)
    (here : Nat) : List String → Except Failure Target
  | [] => .ok (.directory here)
  | piece :: pieces =>
    if piece = "" ∨ piece = "." then walkWith d errand follow here pieces
    else if piece = ".." then walkWith d errand follow (d.parent here) pieces
    else if errand = .create ∧ !pieces.isEmpty ∧ pieces.all String.isEmpty then .error isADirectory
    else if maxNameSize < piece.utf8ByteSize then .error nameTooLong
    else
      match d.child? here piece with
      | none => if pieces.isEmpty then .ok (.vacant here piece) else .error noSuchFile
      | some (.directory number) => walkWith d errand follow number pieces
      | some (.link target) =>
        follow (if target.toList.head? = some '/' then root else here) (piecesOf target ++ pieces)
      | some (.file bytes) =>
        if pieces.isEmpty then .ok (.file here piece bytes) else .error notADirectory

/-- Where a way leads on which so many links may be followed. -/
def walk (d : Disk) (errand : Errand) :
    (links : Nat) → Nat → List String → Except Failure Target
  | 0 => d.walkWith errand fun _ _ => .error tooManyLinks
  | links + 1 => d.walkWith errand (walk d errand links)

/-- Where the way of a path starts. -/
def start (d : Disk) (path : Path) : Nat := if path.isAbsolute then root else d.workingDirectory

def checkPath (path : Path) : Except Failure Unit :=
  if path.text.toList.contains '\x00' then .error zeroByteInName
  else if path.isEmpty then .error noSuchFile
  else if pathSizeLimit ≤ path.text.utf8ByteSize then .error nameTooLong
  else .ok ()

def resolve (d : Disk) (errand : Errand) (path : Path) : Except Failure Target := do
  checkPath path
  d.walk errand maxLinks (d.start path) (piecesOf path.text)

/-- The directory that is at the end of a way. -/
def Target.directory? : Target → Except Failure Nat
  | .directory number => .ok number
  | .file .. => .error notADirectory
  | .vacant .. => .error noSuchFile

def findDirectory (d : Disk) (path : Path) : Except Failure Nat := do
  (← d.resolve .look path).directory?

/-- The directory that holds the last name of a path, and that name, if it is one. Slashes at the
end do not count; `slash` tells of them. -/
structure LastName where
  around : Nat
  name : Option String
  slash : Bool

/-- The last name of a path, without following it. -/
def lastName (d : Disk) (path : Path) : Except Failure LastName := do
  checkPath path
  let pieces := piecesOf path.text
  let whole := (pieces.reverse.dropWhile fun piece => piece = "").reverse
  let around ← (← d.walk .look maxLinks (d.start path) whole.dropLast).directory?
  let name := whole.getLast?.filter fun piece => piece ≠ "." ∧ piece ≠ ".."
  if name.any fun name => maxNameSize < name.utf8ByteSize then throw nameTooLong
  return ⟨around, name, whole.length < pieces.length⟩

/-! ## Asking -/

/-- There is something where a path leads. -/
def isThere (d : Disk) (path : Path) : Bool :=
  match d.resolve .look path with
  | .ok (.directory _) | .ok (.file ..) => true
  | _ => false

def isDirectory (d : Disk) (path : Path) : Bool := (d.findDirectory path).isOk

def readText (d : Disk) (path : Path) : Except Failure String := do
  match ← d.resolve .look path with
  | .file _ _ bytes =>
    match String.fromUTF8? bytes with
    | some text => return text
    | none => throw notUtf8
  | .directory _ => throw isADirectory
  | .vacant .. => throw noSuchFile

/-- An entry of a directory as the system gives it. -/
structure Listed where
  name : ByteArray
  isFile : Bool

/-- The entries of a directory in the order in which the system happens to give them. -/
def listed (d : Disk) (path : Path) : Except Failure (List Listed) := do
  let number ← d.findDirectory path
  return (d.entries number).map fun (name, e) => ⟨name.toUTF8, e matches .file _⟩

/-- The names of the files among some entries, in ascending order. Names that are no text are left
out: no identifier could come of them. -/
def fileNames (entries : List Listed) : List String :=
  ((entries.filter Listed.isFile).filterMap fun e => String.fromUTF8? e.name).mergeSort
    fun a b => decide (a ≤ b)

/-! ## Changing -/

def makeDirectory (d : Disk) (path : Path) : Except Failure Disk := do
  let last ← d.lastName path
  match last.name with
  | none => throw fileExists
  | some name =>
    if (d.child? last.around name).isSome then throw fileExists
    return d.putDirectory last.around name

/-- Makes the first of some directories, of which each but the last is in the next, and before it
those that are missing. A directory that is there already needs no making. -/
def makeMissing (d : Disk) : List Path → Except Failure Unit × Disk
  | [] => (.error noWholeTree, d)
  | path :: above =>
    let orThere := fun (d : Disk) (failure : Failure) =>
      if d.isDirectory path then (Except.ok (), d) else (.error failure, d)
    if path.isEmpty then (.ok (), d)
    else
      match d.makeDirectory path with
      | .ok d => (.ok (), d)
      | .error failure =>
        if failure = noSuchFile then
          match makeMissing d above with
          | (.error failure, d) => (.error failure, d)
          | (.ok (), d) =>
            match d.makeDirectory path with
            | .ok d => (.ok (), d)
            | .error failure => orThere d failure
        else orThere d failure

/-- Makes a directory and those above it that are missing. -/
def makeDirectories (d : Disk) (path : Path) : Except Failure Unit × Disk :=
  d.makeMissing path.ancestors

/-- The directory in which a file is prepared that is to take a path. -/
def workplace (path : Path) : Path :=
  match path.parent? with
  | some parent => if parent.isEmpty then ⟨"."⟩ else parent
  | none => ⟨"."⟩

/-- The name under which a file is prepared, as long as the names that are drawn for it. -/
def draftName : Path := ⟨".tmpXXXXXX"⟩

/-- Puts a whole new file at a path. It is prepared beside it and then takes its place, also that of
a link. -/
def replaceFile (d : Disk) (path : Path) (text : String) : Except Failure Disk := do
  checkPath ((workplace path).join draftName)
  let _ ← d.findDirectory (workplace path)
  if path.text.toList.contains '\x00' then throw invalidArgument
  let last ← d.lastName path
  match last.name with
  | none => throw deviceBusy
  | some name =>
    if last.slash then throw notADirectory
    match d.child? last.around name with
    | some (.directory _) => throw isADirectory
    | _ => return d.put last.around name (.file text.toUTF8)

/-- Gives the file where a path leads other contents, or makes it there. -/
def overwriteFile (d : Disk) (path : Path) (bytes : ByteArray) : Except Failure Disk := do
  match ← d.resolve .create path with
  | .file around name _ | .vacant around name => return d.put around name (.file bytes)
  | .directory _ => throw isADirectory

/-! ## The store -/

instance : FileStore Disk where
  pathExists := isThere
  listFiles d dir := ((d.listed dir).map fileNames).mapError (.ofFailure dir)
  readText d path := (d.readText path).mapError (.ofFailure path)
  makeDirectories d dir :=
    let (made, d) := d.makeDirectories dir
    (made.mapError (.ofFailure dir), d)
  writeText d path content :=
    match d.replaceFile path content with
    | .ok d => (.ok (), d)
    | .error failure => (.error (.ofFailure path failure), d)

end Disk

end IconForge
