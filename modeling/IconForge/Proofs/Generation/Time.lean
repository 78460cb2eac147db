import IconForge.Proofs.Generation.Events

/-!
# What a run owes to the clock

The clock shows in the durations that a run tells and reports, and nowhere else. So runs that are
compared may each have a clock of their own, and what they tell is compared without the durations.

## Main statements

- `Batch.untimed_events`, `Batch.untimed_finished`: what a batch tells, without the durations.
- `Generation.run_untimed`: two runs that differ in nothing but the clock.
-/

namespace IconForge

open IconForge.Progress

/-- An event without the time taken. -/
def Progress.Event.untimed : Event → Event
  | .succeeded file identifier _ => .succeeded file identifier 0
  | .finished made lost left output _ => .finished made lost left output 0
  | e => e

/-- Events without the time taken. -/
def untimed (events : List Event) : List Event := events.map Event.untimed

theorem untimed_append (events later : List Event) :
    untimed (events ++ later) = untimed events ++ untimed later := List.map_append

theorem untimed_singleton (e : Event) : untimed [e] = [e.untimed] := rfl

/-- An outcome without the time taken. -/
def Outcome.untimed (o : Outcome) : Outcome :=
  { o with report := { o.report with nanoseconds := 0 } }

namespace Batch

variable (b : Batch)

/-- Without the durations, a batch tells the same whatever time its icons take. -/
theorem untimed_events (took : Nat → Nat) :
    IconForge.untimed (b.events took) = b.events fun _ => 0 := by
  have tales (results : List (Source × Except IconError Component)) (took : Nat → Nat) :
      (results.mapIdx fun i icon => iconEvents icon.1 icon.2 (took i)).flatten.map Event.untimed =
        (results.mapIdx fun _ icon => iconEvents icon.1 icon.2 0).flatten := by
    induction results generalizing took with
    | nil => rfl
    | cons head results ih =>
      rw [List.mapIdx_cons, List.flatten_cons, List.map_append, ih fun i => took (i + 1),
        List.mapIdx_cons, List.flatten_cons]
      obtain ⟨source, e | component⟩ := head <;> rfl
  simp only [IconForge.untimed, events, List.map_cons, List.map_append, Batch.tales, tales]
  simp [Event.untimed, Function.comp_def]

/-- The event after all others, without the duration. -/
theorem untimed_finished (took : Nat → Nat) (output : Option String) (ms : Nat) :
    (b.finished took output ms).untimed = b.finished (fun _ => 0) output 0 := by
  rw [b.finished_eq took 0, b.finished_eq (fun _ => 0) 0]
  rfl

end Batch

namespace Generation

variable {σ : Type} [FileStore σ]

/-- Two runs that differ only in the time they take. -/
structure SameButTime (r r' : Run σ) : Prop where
  result : r'.result.map Outcome.untimed = r.result.map Outcome.untimed
  events : untimed r'.events = untimed r.events
  store : r'.store = r.store

omit [FileStore σ] in
/-- The end of a run shows the clock in the durations only. -/
theorem close_untimed (g : Generation) (output : Path) (clock clock' : Clock) (b : Batch)
    (persisted : Except GenerationError Unit) (after : σ) :
    SameButTime (g.close output clock b persisted after)
      (g.close output clock' b persisted after) := by
  cases persisted with
  | error e =>
    refine ⟨rfl, ?_, rfl⟩
    simp only [close, Run.stopped, untimed_append, b.untimed_events]
  | ok _ =>
    refine ⟨rfl, ?_, rfl⟩
    simp only [close, untimed_append, b.untimed_events, untimed_singleton, b.untimed_finished]

/-- The clock only shows in the durations. -/
theorem run_untimed (g : Generation) (input output : Path) (clock clock' : Clock) (store : σ) :
    SameButTime (g.run input output clock store) (g.run input output clock' store) := by
  rw [run_eq, run_eq]
  cases g.batch input store with
  | error e => exact ⟨rfl, rfl, rfl⟩
  | ok b =>
    dsimp only
    cases b.crash with
    | some broken =>
      refine ⟨rfl, ?_, rfl⟩
      simp only [b.untimed_events]
    | none => exact g.close_untimed output clock clock' b _ _

end Generation

end IconForge
