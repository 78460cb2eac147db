import IconForge.Text.Digits

/-!
# Reading from the front of a text

A reader takes something from the front of a text and leaves the rest, or refuses. A refusal says
nothing of the reason: where no alternative is left the whole text is refused.
-/

namespace IconForge.Toml

open IconForge.Text

/-- A reader of `α`. -/
abbrev Reader (α : Type) := StateT (List Char) Option α

namespace Reader

variable {α β : Type}

def refuse : Reader α := fun _ => none

/-- The rest of the text, which stays. -/
def rest : Reader (List Char) := fun cs => some (cs, cs)

/-- The next character, if it is one of a class. -/
def charWhere (p : Char → Bool) : Reader Char
  | [] => none
  | c :: cs => if p c then some (c, cs) else none

def char (c : Char) : Reader Unit
  | [] => none
  | x :: cs => if x = c then some ((), cs) else none

def chars (text : List Char) : Reader Unit := fun cs =>
  if text.isPrefixOf cs then some ((), cs.drop text.length) else none

/-- The longest run of characters of a class. -/
def run (p : Char → Bool) : Reader (List Char) := fun cs => some (cs.takeWhile p, cs.dropWhile p)

/-- The longest run of characters of a class, which must not be empty. -/
def run1 (p : Char → Bool) : Reader (List Char) := do
  let cs ← run p
  if cs.isEmpty then refuse else return cs

/-- What a reader takes, again and again, at most as often as `limit` has characters and as long as
it does not refuse. -/
def manyUpTo (r : Reader α) : (limit : List Char) → Reader (List α)
  | [], cs => some ([], cs)
  | _ :: limit, cs =>
    match r cs with
    | none => some ([], cs)
    | some (a, rest) => (manyUpTo r limit rest).map fun (as, rest) => (a :: as, rest)

/-- What a reader takes, again and again until it refuses. A reader that takes something each time
does so at most as often as there are characters. -/
def many (r : Reader α) : Reader (List α) := fun cs => manyUpTo r cs cs

/-- What a reader takes, at least once, with what `separator` takes between. -/
def separated1 (r : Reader α) (separator : Reader β) : Reader (List α) := do
  let first ← r
  let others ← many (do let _ ← separator; r)
  return first :: others

/-- As `separated1`, but possibly nothing. -/
def separated (r : Reader α) (separator : Reader β) : Reader (List α) := do
  return ((← optional (separated1 r separator)).getD [])

/-- So many digits of a base, as a number. -/
def fixedDigits (base count : Nat) : Reader Nat := fun cs =>
  if (cs.take count).length = count then
    (readDigits? base (cs.take count)).map fun n => (n, cs.drop count)
  else none

end Reader

end IconForge.Toml
