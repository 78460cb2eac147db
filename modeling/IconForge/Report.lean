import IconForge.Icon.Identifier
import IconForge.Text.Duration

/-!
# Reports

What became of each entry of a directory: first those left out, then the icons, both in the order of
the listing.
-/

namespace IconForge

open IconForge.Text

inductive Status where
  | generated (identifier : Identifier)
  | skipped (reason : String)
  | failed (error : String)
  deriving DecidableEq

namespace Status

def describe : Status → String
  | generated _ => "generated"
  | skipped reason => "skipped: " ++ reason
  | failed error => "failed: " ++ error

/-- The name of the component, if there is one. -/
def identifier? : Status → Option Identifier
  | generated id => some id
  | _ => none

def isGenerated : Status → Bool
  | generated _ => true
  | _ => false

def isSkipped : Status → Bool
  | skipped _ => true
  | _ => false

def isFailed : Status → Bool
  | failed _ => true
  | _ => false

end Status

/-- An entry and what became of it. -/
structure FileResult where
  fileName : String
  status : Status
  deriving DecidableEq

structure Report where
  files : List FileResult := []
  nanoseconds : Nat := 0
  deriving DecidableEq

namespace Report

def processed (r : Report) : Nat := r.files.countP fun f => f.status.isGenerated

def failed (r : Report) : Nat := r.files.countP fun f => f.status.isFailed

def skipped (r : Report) : Nat := r.files.countP fun f => f.status.isSkipped

def isSuccess (r : Report) : Bool := r.failed == 0

/-- The names of the components in order. -/
def identifiers (r : Report) : List Identifier := r.files.filterMap fun f => f.status.identifier?

def failures (r : Report) : List FileResult := r.files.filter fun f => f.status.isFailed

/-- The report in words: with failures one line for each of them, without the time taken. -/
def summary (r : Report) : String :=
  if r.failed = 0 then
    "Generated " ++ toString r.processed ++ " icons, " ++ toString r.skipped ++ " skipped in " ++
      exactDurationText r.nanoseconds
  else
    "\n".intercalate
      (("Generated " ++ toString r.processed ++ " icons with " ++ toString r.failed ++ " failed, " ++
          toString r.skipped ++ " skipped") ::
        r.failures.map fun f => "  - " ++ f.fileName ++ ": " ++ f.status.describe)

end Report

end IconForge
