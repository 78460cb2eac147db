import IconForge.Program
import IconForge.Store.Disk
import IconForge.Text.Duration

/-!
# Interactions

What a program asks of the system that it is called on: for files, for the time, and to write to its
two streams. A `Disk` with a clock answers as the system does.
-/

namespace IconForge

open IconForge.Text

inductive SystemRequest where
  | isThere (path : Path)
  /-- What is directly inside a directory, in any order. -/
  | entries (dir : Path)
  | readText (path : Path)
  /-- Makes a directory and those above it. -/
  | makeDirectories (dir : Path)
  /-- Puts a whole new file at a path. -/
  | replaceFile (path : Path) (text : String)
  /-- Gives the file where a path leads other contents, or makes it there. -/
  | overwriteFile (path : Path) (text : String)
  /-- The time, in nanoseconds. -/
  | now
  /-- Writes to the standard output. -/
  | print (text : String)
  /-- Writes to the standard error. -/
  | say (text : String)
  deriving DecidableEq, Repr

abbrev SystemRequest.Answer : SystemRequest → Type
  | isThere _ => Bool
  | entries _ => Except Failure (List Disk.Listed)
  | readText _ => Except Failure String
  | makeDirectories _ | replaceFile .. | overwriteFile .. => Except Failure Unit
  | now => Nat
  | print _ | say _ => Unit

/-- Something that a program does with a system. -/
abbrev Interaction (α : Type) := Program SystemRequest.Answer α

namespace Interaction

def isThere (path : Path) : Interaction Bool := .request (SystemRequest.isThere path)

def entries (dir : Path) : Interaction (Except Failure (List Disk.Listed)) :=
  .request (SystemRequest.entries dir)

def readText (path : Path) : Interaction (Except Failure String) :=
  .request (SystemRequest.readText path)

def makeDirectories (dir : Path) : Interaction (Except Failure Unit) :=
  .request (SystemRequest.makeDirectories dir)

def replaceFile (path : Path) (text : String) : Interaction (Except Failure Unit) :=
  .request (SystemRequest.replaceFile path text)

def overwriteFile (path : Path) (text : String) : Interaction (Except Failure Unit) :=
  .request (SystemRequest.overwriteFile path text)

def now : Interaction Nat := .request SystemRequest.now

def print (text : String) : Interaction Unit := .request (SystemRequest.print text)

def say (text : String) : Interaction Unit := .request (SystemRequest.say text)

end Interaction

/-- What is asked of a place for files, asked of the system. -/
def FileRequest.onSystem : (q : FileRequest) → Interaction q.Answer
  | pathExists path => Interaction.isThere path
  | listFiles dir => do
    return ((← Interaction.entries dir).map Disk.fileNames).mapError (.ofFailure dir)
  | readText path => do
    return (← Interaction.readText path).mapError (.ofFailure path)
  | makeDirectories dir => do
    return (← Interaction.makeDirectories dir).mapError (.ofFailure dir)
  | writeText path content => do
    return (← Interaction.replaceFile path content).mapError (.ofFailure path)

/-! ## A disk in place of the system -/

/-- A disk that a program is carried out on, how often the clock has been read, and what has been
written to the two streams. -/
structure DiskSession where
  disk : Disk
  readings : Nat := 0
  stdout : String := ""
  stderr : String := ""

/-- Goes on with a changed disk, if the change was not refused. -/
def DiskSession.change (s : DiskSession) : Except Failure Disk → Except Failure Unit × DiskSession
  | .error failure => (.error failure, s)
  | .ok disk => (.ok (), { s with disk })

/-- The answers of a disk and a clock. What is written is taken down. -/
def SystemRequest.answer (clock : Clock) : (q : SystemRequest) → StateM DiskSession q.Answer
  | isThere path => fun s => (s.disk.isThere path, s)
  | entries dir => fun s => (s.disk.listed dir, s)
  | readText path => fun s => (s.disk.readText path, s)
  | makeDirectories dir => fun s =>
    let made := s.disk.makeDirectories dir
    (made.1, { s with disk := made.2 })
  | replaceFile path text => fun s => s.change (s.disk.replaceFile path text)
  | overwriteFile path text => fun s => s.change (s.disk.overwriteFile path text.toUTF8)
  | now => fun s => (clock s.readings, { s with readings := s.readings + 1 })
  | print text => fun s => ((), { s with stdout := s.stdout ++ text })
  | say text => fun s => ((), { s with stderr := s.stderr ++ text })

/-- Carries something out on a disk. -/
def Interaction.onDisk {α : Type} (p : Interaction α) (clock : Clock) (d : Disk) :
    α × DiskSession :=
  p.perform (SystemRequest.answer clock) { disk := d }

end IconForge
