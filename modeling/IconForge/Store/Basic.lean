import IconForge.Path

/-!
# Stores of files

What a run needs of the place where files are kept: to ask whether a path is there, to list a
directory, to read and write a file, and to make directories. A `FileRequest` asks for one of these,
and `FileStore` says of a type of states that it can answer; asking, listing and reading leave the
state alone, and the other two give the next one.
-/

namespace IconForge

/-- Why an operating system refuses an operation, as far as the difference matters. -/
inductive FailureKind where
  | notFound | permissionDenied | storageFull | other
  deriving DecidableEq, Repr

structure Failure where
  kind : FailureKind
  message : String
  deriving DecidableEq, Repr

/-- Why an operation on a path fails. -/
inductive FileError where
  | notFound (path : Path)
  | permissionDenied (path : Path)
  | diskFull (path : Path)
  | other (path : Path) (message : String)
  deriving DecidableEq, Repr

/-- The error of an operation on a path that was refused. -/
def FileError.ofFailure (path : Path) (failure : Failure) : FileError :=
  match failure.kind with
  | .notFound => .notFound path
  | .permissionDenied => .permissionDenied path
  | .storageFull => .diskFull path
  | .other => .other path failure.message

def FileError.message : FileError → String
  | notFound path => "not found: " ++ path.text
  | permissionDenied path => "permission denied: " ++ path.text
  | diskFull path => "disk full while writing " ++ path.text
  | other path message => "I/O error on " ++ path.text ++ ": " ++ message

/-- A place where files are kept, with states in `σ`. -/
class FileStore (σ : Type) where
  /-- There is a file or directory at the path. -/
  pathExists : σ → Path → Bool
  /-- The names of the files directly inside a directory. -/
  listFiles : σ → Path → Except FileError (List String)
  readText : σ → Path → Except FileError String
  /-- Makes a directory and those above it. -/
  makeDirectories : σ → Path → Except FileError Unit × σ
  /-- Gives a file this content, wholly or not at all. -/
  writeText : σ → Path → String → Except FileError Unit × σ

/-- What is asked of a place where files are kept. -/
inductive FileRequest where
  | pathExists (path : Path)
  | listFiles (dir : Path)
  | readText (path : Path)
  | makeDirectories (dir : Path)
  | writeText (path : Path) (content : String)
  deriving DecidableEq, Repr

abbrev FileRequest.Answer : FileRequest → Type
  | pathExists _ => Bool
  | listFiles _ => Except FileError (List String)
  | readText _ => Except FileError String
  | makeDirectories _ => Except FileError Unit
  | writeText .. => Except FileError Unit

/-- The answer of a store. -/
def FileStore.answer {σ : Type} [FileStore σ] : (q : FileRequest) → StateM σ q.Answer
  | .pathExists path => fun s => (pathExists s path, s)
  | .listFiles dir => fun s => (listFiles s dir, s)
  | .readText path => fun s => (readText s path, s)
  | .makeDirectories dir => fun s => makeDirectories s dir
  | .writeText path content => fun s => writeText s path content

end IconForge
