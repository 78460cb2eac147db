import IconForge.Progress.Event

/-!
# Counting a run

The counts of a run so far, and how much of it is done.
-/

namespace IconForge.Progress

structure Tracker where
  total : Nat := 0
  processed : Nat := 0
  failed : Nat := 0
  skipped : Nat := 0
  deriving DecidableEq, Repr

namespace Tracker

/-- The counts of a run over so many icons that begins. -/
def start (total : Nat) : Tracker := { total := total }

def count (t : Tracker) : Event → Tracker
  | .started total => start total
  | .succeeded .. => { t with processed := t.processed + 1 }
  | .failed .. => { t with failed := t.failed + 1 }
  | .skipped .. => { t with skipped := t.skipped + 1 }
  | _ => t

/-- How much is done, in percent. Of nothing all is done. -/
def percentage (t : Tracker) : Float :=
  if t.total = 0 then 100.0
  else (t.processed + t.failed).toFloat / t.total.toFloat * 100.0

/-- The last event of a run with these counts. -/
def finished (t : Tracker) (output : Option String) (milliseconds : Nat) : Event :=
  .finished t.processed t.failed t.skipped output milliseconds

end Tracker

end IconForge.Progress
