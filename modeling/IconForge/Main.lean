import IconForge.CommandLine.Init

/-!
# The program

The program of a command line, carried out with the answers of the system that it is called on. What
the system refuses is told in the words of a `Failure`.
-/

namespace IconForge.Main

open IconForge.CommandLine

/-! ## Asking the system -/

/-- The refusals with a wording of their own, by the number that the system gives them. -/
def refusals : List (UInt32 × Failure) := [
  (2, Disk.noSuchFile), (13, ⟨.permissionDenied, "Permission denied (os error 13)"⟩),
  (16, Disk.deviceBusy), (17, Disk.fileExists), (20, Disk.notADirectory), (21, Disk.isADirectory),
  (28, ⟨.storageFull, "No space left on device (os error 28)"⟩), (36, Disk.nameTooLong),
  (40, Disk.tooManyLinks)]

/-- The refusal with a number, which may be given with the wrong sign. -/
def refusal (number : UInt32) (details : String) : Failure :=
  let number := if number < 0x80000000 then number else 0 - number
  (refusals.lookup number).getD ⟨.other, details ++ " (os error " ++ toString number ++ ")"⟩

def failureOf : IO.Error → Failure
  | .noFileOrDirectory _ n details | .permissionDenied _ n details
  | .resourceExhausted _ n details | .alreadyExists _ n details | .invalidArgument _ n details
  | .inappropriateType _ n details | .noSuchThing _ n details | .interrupted _ n details
  | .otherError n details | .resourceBusy n details | .resourceVanished n details
  | .unsupportedOperation n details | .hardwareFault n details
  | .unsatisfiedConstraints n details | .illegalOperation n details | .protocolError n details
  | .timeExpired n details => refusal n details
  | e => ⟨.other, toString e⟩

/-- The answer of the system, or its refusal. -/
def attempt {α : Type} (action : IO α) : IO (Except Failure α) := do
  return (← action.toBaseIO).mapError failureOf

/-- A path as the system takes it. -/
def place (path : Path) := do return (← IO.currentDir) / path.text

/-! ## Answers -/

def readText (path : Path) : IO (Except Failure String) := do
  match ← attempt (IO.FS.readBinFile path.text) with
  | .error failure => return .error failure
  | .ok bytes =>
    match String.fromUTF8? bytes with
    | some text => return .ok text
    | none => return .error Disk.notUtf8

def entries (dir : Path) : IO (Except Failure (List Disk.Listed)) :=
  attempt do
    let entries ← (← place dir).readDir
    entries.toList.mapM fun e => do
      return ⟨e.fileName.toUTF8, (← e.path.symlinkMetadata).type == .file⟩

/-- Puts a whole new file at a path: it is prepared beside it. -/
def replaceFile (path : Path) (text : String) : IO (Except Failure Unit) :=
  attempt do
    let mark ← IO.rand 100000 999999
    let draft := (Disk.workplace path).join ⟨".tmp" ++ toString mark⟩
    let handle ← IO.FS.Handle.mk draft.text .writeNew
    try
      handle.putStr text
      handle.flush
      IO.FS.rename draft.text path.text
    catch e =>
      IO.FS.removeFile draft.text
      throw e

def answer : (q : SystemRequest) → IO q.Answer
  | .isThere path => do (← place path).pathExists
  | .entries dir => entries dir
  | .readText path => readText path
  | .makeDirectories dir => attempt (IO.FS.createDirAll dir.text)
  | .replaceFile path text => replaceFile path text
  | .overwriteFile path text => attempt (IO.FS.writeFile path.text text)
  | .now => IO.monoNanosNow
  | .print text => do (← IO.getStdout).putStr text
  | .say text => do (← IO.getStderr).putStr text

def environment : IO Environment := do
  let path := fun (text : Option String) => text.map Path.mk
  return {
    workingDirectory := ⟨toString (← IO.currentDir)⟩
    configHome := path (← IO.getEnv "XDG_CONFIG_HOME")
    home := path (← IO.getEnv "HOME")
    terminal := ← (← IO.getStderr).isTty }

end IconForge.Main

def main (arguments : List String) : IO UInt32 := do
  let program ← match IconForge.CommandLine.parse arguments with
    | .error e => pure e.ending.conduct
    | .ok command => pure (IconForge.CommandLine.program command (← IconForge.Main.environment))
  let exitCode ← program.interpret IconForge.Main.answer
  -- a program that breaks off is aborted
  return UInt32.ofNat (exitCode.getD 134)
