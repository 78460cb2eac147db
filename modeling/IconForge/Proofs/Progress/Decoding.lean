import IconForge.Proofs.Progress.Lines
import IconForge.Proofs.Text.Json

/-!
# Events are read back

A reader of a stream of events that knows the names of the events and of their fields, but neither
the order in which fields stand nor how they were written. Fields are looked up by their keys; what
has no output has no field for it, and a field that holds something else than expected is refused.

Since a stream is read back to the events that were written, no two rows of events have one stream.

## Main statements

- `Event.ofFields?_object`: the tag and the fields of an event give the event.
- `eventsOf?_jsonLines`: a stream gives the events.
- `stream_decodes`: what this makes of a stream and of each of its lines.
-/

namespace IconForge.Progress

open IconForge.Text

/-! ## Reading -/

section Fields

variable (fields : List (String × JsonScalar)) (key : String)

def textField? : Option String :=
  match fields.lookup key with
  | some (.text s) => some s
  | _ => none

def numberField? : Option Nat :=
  match fields.lookup key with
  | some (.number n) => some n
  | _ => none

/-- A text that may be left out. -/
def optionalField? : Option (Option String) :=
  match fields.lookup key with
  | none => some none
  | some (.text s) => some (some s)
  | some (.number _) => none

end Fields

namespace Event

/-- The event with a tag and fields. -/
def ofFields? (fields : List (String × JsonScalar)) : Option Event := do
  match ← textField? fields "event" with
  | "started" => return started (← numberField? fields "total_files")
  | "processing_file" => return processing (← textField? fields "file")
  | "succeeded" =>
    return succeeded (← textField? fields "file") (← textField? fields "identifier")
      (← numberField? fields "duration_ms")
  | "failed" => return failed (← textField? fields "file") (← textField? fields "error")
  | "skipped" => return skipped (← textField? fields "file") (← textField? fields "reason")
  | "aborted" => return aborted (← textField? fields "message")
  | "finished" =>
    return finished (← numberField? fields "processed") (← numberField? fields "failed")
      (← numberField? fields "skipped") (← optionalField? fields "output")
      (← numberField? fields "duration_ms")
  | _ => none

/-- The event that an object on one line tells of. -/
def ofLine? (line : String) : Option Event := (readObject? line).bind ofFields?

end Event

/-- The events that a stream tells of. Its last line is ended too. -/
def eventsOf? (text : String) : Option (List Event) :=
  let pieces := splitWhere (fun c => c == '\n') text.toList
  if pieces.getLast? = some [] then
    pieces.dropLast.mapM fun piece => Event.ofLine? (String.ofList piece)
  else none

/-! ## What was written is read -/

namespace Event

/-- The object of an event: its tag, and its fields. -/
def object (e : Event) : List (String × JsonScalar) := ("event", .text e.name) :: e.fields

theorem readObject?_json (e : Event) : readObject? e.json = some e.object :=
  readObject?_jsonObject _

/-- No key stands twice in the object of an event. -/
theorem nodup_keys_object (e : Event) : (e.object.map Prod.fst).Nodup := by
  cases e with
  | finished made lost left output ms => cases output <;> simp [object, fields]
  | _ => simp [object, fields]

theorem lookup_event_object (e : Event) : e.object.lookup "event" = some (.text e.name) := rfl

/-- The field for the output is there exactly if there is an output. -/
theorem lookup_output_object (made lost left : Nat) (output : Option String) (ms : Nat) :
    (finished made lost left output ms).object.lookup "output" = output.map .text := by
  cases output <;> rfl

theorem ofFields?_object (e : Event) : ofFields? e.object = some e := by
  cases e with
  -- which fields there are depends on nothing but the name and on whether there is an output
  | finished made lost left output ms => cases output <;> rfl
  | _ => rfl

theorem ofLine?_json (e : Event) : ofLine? e.json = some e := by
  rw [ofLine?, readObject?_json, Option.bind_some, ofFields?_object]

end Event

theorem eventsOf?_of_isLines {text : String} {lines : List String} (isLines : IsLines text lines) :
    eventsOf? text = lines.mapM Event.ofLine? := by
  simp [eventsOf?, show splitWhere _ _ = _ from isLines, List.mapM_map, Function.comp_def]

theorem eventsOf?_jsonLines (events : List Event) : eventsOf? (jsonLines events) = some events := by
  have read : Event.ofLine? ∘ Event.json = pure := funext Event.ofLine?_json
  rw [eventsOf?_of_isLines (isLines_jsonLines events), List.mapM_map, read]
  simpa using List.mapM_pure (m := Option) (l := events) (f := id)

/-- The stream of some events, cut at its line feeds, has one line for each event. This line is an
object without a key that stands twice, whose tag is the name of the event, and from which the event
is read again; an output that is absent is the one that has no field. So the whole stream is read
again, and other events have another stream. -/
theorem stream_decodes (events : List Event) :
    IsLines (jsonLines events) (events.map Event.json) ∧
      (∀ e : Event, ∃ object, readObject? e.json = some object ∧ (object.map Prod.fst).Nodup ∧
        object.lookup "event" = some (.text e.name) ∧ Event.ofFields? object = some e) ∧
      (∀ made lost left output ms,
        (readObject? (Event.finished made lost left output ms).json).map (·.lookup "output") =
          some (output.map .text)) ∧
      eventsOf? (jsonLines events) = some events ∧
      ∀ others, jsonLines events = jsonLines others ↔ events = others := by
  have whole := eventsOf?_jsonLines events
  refine ⟨isLines_jsonLines events, fun e => ?_, fun made lost left output ms => ?_, whole,
    fun others => ?_⟩
  · exact ⟨e.object, e.readObject?_json, e.nodup_keys_object, e.lookup_event_object,
      e.ofFields?_object⟩
  · rw [Event.readObject?_json, Option.map_some, Event.lookup_output_object]
  · -- the stream is all that the reader is given
    refine ⟨fun same => Option.some.inj ?_, congrArg jsonLines⟩
    rw [← whole, same, eventsOf?_jsonLines]

end IconForge.Progress
