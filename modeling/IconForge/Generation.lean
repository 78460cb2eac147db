import IconForge.Discovery
import IconForge.Icon.Processing
import IconForge.Program
import IconForge.Progress.Tracker
import IconForge.Report

/-!
# Runs

A run lists a directory, turns the icons in it into components and writes their module. A bad icon
is reported and left out; only what concerns the directories, the patterns or the module itself
stops a run. If the program breaks off at an icon, that is the end of the run, and it tells of none.
Nothing is written before the last icon is done.

A run is a program that asks for files and for the time and reports events. `Generation.run` carries
it out on a store, with the readings of a clock: it gives the outcome or why there is none, the
events in order, and the store that is left.

## Readings of the clock

The first two begin the run, two more begin and end each icon, and the last two end the run.
-/

namespace IconForge

open IconForge.Progress IconForge.Text

inductive GenerationError where
  | inputMissing (path : Path)
  | invalidPattern (error : ExcludeError)
  | unlisted (path : Path) (error : FileError)
  /-- The directory of the module or the module itself cannot be written. -/
  | unwritten (path : Path) (error : FileError)
  deriving DecidableEq, Repr

def GenerationError.message : GenerationError → String
  | inputMissing path => "input directory not found: " ++ path.text
  | invalidPattern error => error.message
  | unlisted path error => "failed to list " ++ path.text ++ ": " ++ error.message
  | unwritten path error => "failed to write " ++ path.text ++ ": " ++ error.message

/-- Why a run has no outcome. -/
inductive Stop where
  /-- It is stopped, and says so. -/
  | failure (error : GenerationError)
  /-- The program breaks off. -/
  | crash (crash : Crash)
  deriving DecidableEq, Repr

/-- What a run that is not stopped produces. -/
structure Outcome where
  report : Report
  artifact : String
  outputPath : Path
  /-- The module was written; a dry run writes nothing. -/
  written : Bool

structure Generation where
  options : Options := {}
  dryRun : Bool := false

/-! ## Results of icons -/

/-- The components among some results. -/
def componentsOf (results : List (Source × Except IconError Component)) : List Component :=
  results.filterMap fun (_, r) => r.toOption

def statusOf : Except IconError Component → Status
  | .ok component => .generated component.identifier
  | .error e => .failed e.message

/-- The report of a run that takes so long. -/
def reportOf (skipped : List Skipped) (results : List (Source × Except IconError Component))
    (nanoseconds : Nat) : Report where
  files :=
    (skipped.map fun s => ⟨s.fileName, .skipped s.reason.message⟩) ++
      results.map fun icon => ⟨icon.1.fileName, statusOf icon.2⟩
  nanoseconds := nanoseconds

/-- What is told of an icon in the end, which took so long. -/
def endingOf (source : Source) (r : Except IconError Component) (milliseconds : Nat) : Event :=
  match r with
  | .ok component => .succeeded source.fileName component.identifier.text milliseconds
  | .error e => .failed source.fileName e.message

/-! ## Asking and reporting -/

inductive RunRequest where
  | files (request : FileRequest)
  /-- The time, in nanoseconds. -/
  | now
  | report (event : Event)
  deriving DecidableEq, Repr

abbrev RunRequest.Answer : RunRequest → Type
  | files request => request.Answer
  | now => Nat
  | report _ => Unit

namespace Generation

/-- A part of a run. -/
abbrev Part (α : Type) := Program RunRequest.Answer α

def pathExists (path : Path) : Part Bool := .request (RunRequest.files (.pathExists path))

def listFiles (dir : Path) : Part (Except FileError (List String)) :=
  .request (RunRequest.files (.listFiles dir))

def readText (path : Path) : Part (Except FileError String) :=
  .request (RunRequest.files (.readText path))

def makeDirectories (dir : Path) : Part (Except FileError Unit) :=
  .request (RunRequest.files (.makeDirectories dir))

def writeText (path : Path) (content : String) : Part (Except FileError Unit) :=
  .request (RunRequest.files (.writeText path content))

def now : Part Nat := .request RunRequest.now

def report (e : Event) : Part Unit := .request (RunRequest.report e)

/-- Reports an event and counts it. -/
def tell (t : Tracker) (e : Event) : Part Tracker := do
  report e
  return t.count e

/-! ## The parts of a run -/

/-- Lists the input directory and divides the listing. -/
def choose (g : Generation) (input : Path) : Part (Except GenerationError Discovery) := do
  if !(← pathExists input) then return .error (.inputMissing input)
  match compileExcludes g.options.exclude with
  | .error e => return .error (.invalidPattern e)
  | .ok excludes =>
    match ← listFiles input with
    | .error e => return .error (.unlisted input e)
    | .ok names => return .ok (discover input names excludes)

/-- Works on icons in a row. -/
def workOn (options : Options) (registry : Registry) (t : Tracker) : List Source →
    Part (Except Crash (List (Source × Except IconError Component) × Tracker))
  | [] => return .ok ([], t)
  | source :: rest => do
    report (.processing source.fileName)
    let begun ← now
    match processContent options registry source.stem (← readText source.path) with
    | .error crash => return .error crash
    | .ok (result, registry) =>
      let t ← tell t (endingOf source result (milliseconds begun (← now)))
      let done ← workOn options registry t rest
      return done.map fun (results, t) => ((source, result) :: results, t)

def outputPath (g : Generation) (output : Path) : Path := output.join ⟨g.options.outputFileName⟩

/-- Makes a directory if it is not there. -/
def ensureDirectory (dir : Path) : Part (Except FileError Unit) := do
  if ← pathExists dir then return .ok ()
  makeDirectories dir

/-- Writes a module into its directory. -/
def write (output outputPath : Path) (artifact : String) : Part (Except GenerationError Unit) := do
  match ← ensureDirectory output with
  | .error e => return .error (.unwritten output e)
  | .ok () => return (← writeText outputPath artifact).mapError (.unwritten outputPath)

/-- Writes a module, unless it is a dry run. -/
def deliver (g : Generation) (output : Path) (artifact : String) :
    Part (Except GenerationError Unit) :=
  if g.dryRun then return .ok () else write output (g.outputPath output) artifact

/-- Delivers the module of the icons that have been worked on and reports what has been done since
the run began. -/
def finish (g : Generation) (output : Path) (start begun : Nat) (skipped : List Skipped)
    (results : List (Source × Except IconError Component)) (t : Tracker) :
    Part (Except Stop Outcome) := do
  let artifact := Component.aggregate (componentsOf results) g.options.format
  match ← g.deliver output artifact with
  | .error e => return .error (.failure e)
  | .ok () =>
    let outputPath := g.outputPath output
    let written := if g.dryRun then none else some outputPath.text
    report (t.finished written (milliseconds begun (← now)))
    let report := reportOf skipped results ((← now) - start)
    return .ok ⟨report, artifact, outputPath, !g.dryRun⟩

/-- Works on the icons of a divided listing and delivers their module. -/
def produce (g : Generation) (output : Path) (start : Nat) (d : Discovery) :
    Part (Except Stop Outcome) := do
  let begun ← now
  let t ← tell {} (.started d.sources.length)
  let t ← (d.skipped.map fun s => .skipped s.fileName s.reason.message).foldlM tell t
  match ← workOn g.options .empty t d.sources with
  | .error crash => return .error (.crash crash)
  | .ok (results, t) => g.finish output start begun d.skipped results t

/-- Reports what stops a run. -/
def announce (result : Except Stop Outcome) : Part (Except Stop Outcome) := do
  if let .error (.failure e) := result then report (.aborted e.message)
  return result

/-! ## Runs -/

/-- A run, up to what stops it. -/
def execute (g : Generation) (input output : Path) : Part (Except Stop Outcome) := do
  let start ← now
  match ← g.choose input with
  | .error e => return .error (.failure e)
  | .ok d => g.produce output start d

def program (g : Generation) (input output : Path) : Part (Except Stop Outcome) := do
  announce (← g.execute input output)

end Generation

/-! ## Runs on a store -/

/-- A store that a run is carried out on, how often the clock has been read, and what has been
reported. -/
structure Session (σ : Type) where
  store : σ
  readings : Nat := 0
  events : List Event := []

/-- The answers of a store and a clock. Events are taken down. -/
def RunRequest.answer {σ : Type} [FileStore σ] (clock : Clock) :
    (q : RunRequest) → StateM (Session σ) q.Answer
  | files request => fun s =>
    let (answer, store) := (FileStore.answer request).run s.store
    (answer, { s with store })
  | now => fun s => (clock s.readings, { s with readings := s.readings + 1 })
  | report e => fun s => ((), { s with events := s.events ++ [e] })

/-- What a run comes to. -/
structure Run (σ : Type) where
  result : Except Stop Outcome
  events : List Event
  store : σ

/-- Carries a run out on a store, from the first reading of a clock. -/
@[irreducible]
def Generation.run {σ : Type} [FileStore σ] (g : Generation) (input output : Path) (clock : Clock)
    (store : σ) : Run σ :=
  let done := (g.program input output).perform (RunRequest.answer clock) { store }
  ⟨done.1, done.2.events, done.2.store⟩

end IconForge
