import IconForge.Text.Json

/-!
# Events of a run

What a run tells those who watch it. Each event has a form on one line for programs to read: an
object whose first field is the name of the event.
-/

namespace IconForge.Progress

open IconForge.Text

inductive Event where
  /-- The directory has been listed; so many icons are to be worked on. -/
  | started (total : Nat)
  | processing (file : String)
  | succeeded (file identifier : String) (milliseconds : Nat)
  /-- An icon got no component; the run goes on. -/
  | failed (file error : String)
  | skipped (file reason : String)
  /-- The run ends without a module. -/
  | aborted (message : String)
  /-- The run ends; `output` is the file written, if one was. -/
  | finished (processed failed skipped : Nat) (output : Option String) (milliseconds : Nat)
  deriving DecidableEq, Repr

namespace Event

/-- The name of an event in its one-line form. -/
def name : Event → String
  | started .. => "started"
  | processing .. => "processing_file"
  | succeeded .. => "succeeded"
  | failed .. => "failed"
  | skipped .. => "skipped"
  | aborted .. => "aborted"
  | finished .. => "finished"

/-- The fields of an event in order. An output that is absent has no field. -/
def fields : Event → List (String × JsonScalar)
  | started total => [("total_files", .number total)]
  | processing file => [("file", .text file)]
  | succeeded file identifier ms =>
    [("file", .text file), ("identifier", .text identifier), ("duration_ms", .number ms)]
  | failed file error => [("file", .text file), ("error", .text error)]
  | skipped file reason => [("file", .text file), ("reason", .text reason)]
  | aborted message => [("message", .text message)]
  | finished made lost left output ms =>
    [("processed", .number made), ("failed", .number lost), ("skipped", .number left)] ++
      (output.map fun path => ("output", .text path)).toList ++ [("duration_ms", .number ms)]

/-- An event on one line, without the line feed. -/
def json (e : Event) : String := jsonObject (("event", .text e.name) :: e.fields)

/-- The line of an event in a stream. -/
def jsonLine (e : Event) : String := e.json ++ "\n"

end Event

/-- The stream of the lines of some events. -/
def jsonLines (events : List Event) : String := String.join (events.map Event.jsonLine)

end IconForge.Progress
