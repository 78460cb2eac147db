import IconForge.Icon.Identifier
import Std.Data.HashSet

/-!
# Names of a batch

Every icon of a batch gets a name of its own. It comes from the title of the icon if there is one,
else from its file name if that is asked for, else from the sequence `Icon1`, `Icon2`, and so on.
A name that is taken gets the smallest number from 2 on that makes it free.
-/

namespace IconForge

structure NamingPolicy where
  /-- What every name ends with. -/
  suffix : String := ""
  /-- Icons without a title are named after their files. -/
  useFileNames : Bool := false
  deriving DecidableEq, Repr

structure Registry where
  /-- In the order in which they were given. -/
  identifiers : List Identifier := []
  /-- The names that nothing else may have. -/
  used : List String := []
  /-- The number that the fallback sequence goes on with. -/
  nextFallback : Nat := 1
  deriving DecidableEq

namespace Registry

/-- The registry of a batch that has not begun. -/
def empty : Registry := {}

/-- The names given so far, as text. -/
def names (r : Registry) : List String := r.identifiers.map Identifier.text

def isUsed (r : Registry) (name : String) : Bool := r.used.contains name

/-- Draws numbers from the fallback sequence, at most `draws` of them, until one gives a free name:
that name, and the number after it. -/
def drawFallback? (r : Registry) (suffix : String) : (draws n : Nat) → Option (String × Nat)
  | 0, _ => none
  | draws + 1, n =>
    let name := fallbackName n suffix
    if r.isUsed name then drawFallback? r suffix draws (n + 1) else some (name, n + 1)

/-- How many draws find a free name: two numbers at most give the same name, so among one more than
twice the names taken there is a free one. -/
def drawBound (r : Registry) : Nat := 2 * r.used.length + 1

/-- The next free name of the fallback sequence, and the number to go on with. -/
def nextFallbackName (r : Registry) (suffix : String) : String × Nat :=
  (r.drawFallback? suffix r.drawBound r.nextFallback).getD
    (fallbackName r.nextFallback suffix, r.nextFallback + 1)

/-- The smallest number from 2 on that makes a name free that is taken. Of one more numbers than
there are names taken, one does.

Numbers are unbounded here, where a search in machine integers of 32 bits ends: what is said of the
answer holds of such a search as long as there are less than `2 ^ 31 - 2` names. -/
def freeNumber? (r : Registry) (base : String) : Option Nat :=
  let taken := Std.HashSet.ofList r.used
  (List.range' 2 (r.used.length + 1)).find? fun n => !taken.contains (base ++ toString n)

theorem freeNumber?_eq (r : Registry) (base : String) :
    r.freeNumber? base =
      (List.range' 2 (r.used.length + 1)).find? fun n => !r.isUsed (base ++ toString n) := by
  simp [freeNumber?, isUsed]

/-- The name itself if it is free, else followed by the smallest number from 2 on that makes it
so. -/
def disambiguate (r : Registry) (base : String) : String :=
  if r.isUsed base then
    match r.freeNumber? base with
    | some n => base ++ toString n
    | none => base
  else base

/-- The name that an icon asks for, and the number that the fallback sequence goes on with. -/
def baseName (r : Registry) (title : Option String) (stem : String) (policy : NamingPolicy) :
    Except NamingError (String × Nat) :=
  match title with
  | some title =>
    match normalizedName? title policy.suffix with
    | some name => .ok (name, r.nextFallback)
    | none => .error (.emptyIdentifier title)
  | none =>
    match if policy.useFileNames then normalizedName? stem policy.suffix else none with
    | some name => .ok (name, r.nextFallback)
    | none => .ok (r.nextFallbackName policy.suffix)

def register (r : Registry) (id : Identifier) (nextFallback : Nat) : Registry where
  identifiers := r.identifiers ++ [id]
  used := id.text :: r.used
  nextFallback := nextFallback

/-- Names an icon by its title, or by the stem of its file name, and takes the name. A number drawn
for a name that turns out not to be an identifier stays drawn. -/
def synthesize (r : Registry) (title : Option String) (stem : String) (policy : NamingPolicy) :
    Except NamingError Identifier × Registry :=
  match r.baseName title stem policy with
  | .error e => (.error e, r)
  | .ok (base, nextFallback) =>
    match Identifier.ofString (r.disambiguate base) with
    | .error e => (.error e, { r with nextFallback := nextFallback })
    | .ok id => (.ok id, r.register id nextFallback)

end Registry

end IconForge
