import IconForge.Toml.Scalar

/-!
# TOML documents

A document is a row of statements: keys with values, and headings that say which table the keys
after them belong to. `parse` reads the statements and puts every value in its place. A place can be
taken once, and how a table came about decides what may still be added to it.
-/

namespace IconForge.Toml

open Reader

/-! ## Places -/

inductive Standing where
  /-- It has a heading of its own. -/
  | headed
  /-- Only tables inside it have been mentioned, by a heading. -/
  | implied
  /-- Only keys inside it have been mentioned, by a key with dots. -/
  | dotted
  deriving DecidableEq, Repr

/-- What a key stands for while a document is being read. -/
inductive Place where
  | value (v : Value)
  | table (standing : Standing) (entries : List (String × Place))
  /-- The tables under a heading in double brackets, the last one first. -/
  | tables (last : List (String × Place)) (before : List (List (String × Place)))

abbrev Places := List (String × Place)

/-- The place of a key put instead of the one it has, or at the end. -/
def Places.set (entries : Places) (key : String) (place : Place) : Places :=
  match entries with
  | [] => [(key, place)]
  | (k, old) :: entries =>
    if k = key then (key, place) :: entries else (k, old) :: Places.set entries key place

/-- Changes the table at a path, and makes the tables on the way to it that are missing. `change` is
told how the table came about. A path written with dots, as in a key, enters no table that has a
heading; any path enters the last of several tables. -/
def Places.update (viaDots : Bool) (change : Standing → Places → Option Places)
    (standing : Standing) (entries : Places) : List String → Option Places
  | [] => change standing entries
  | key :: path =>
    match entries.lookup key with
    | none =>
      let made := if viaDots then Standing.dotted else Standing.implied
      (Places.update viaDots change made [] path).map fun inner =>
        entries ++ [(key, .table made inner)]
    | some (.value _) => none
    | some (.table inside inner) =>
      if viaDots ∧ inside = .headed then none
      else
        (Places.update viaDots change inside inner path).map fun inner =>
          entries.set key (.table inside inner)
    | some (.tables last before) =>
      (Places.update viaDots change .headed last path).map fun last =>
        entries.set key (.tables last before)

/-- Adds a value at a key. A key with dots adds to a table that came about by such keys alone, and
nothing is replaced. -/
def Places.add (entries : Places) (key : List String) (v : Value) : Option Places :=
  let path := key.dropLast
  let change := fun standing inner =>
    if !path.isEmpty && standing != Standing.dotted then none
    else
      match inner.lookup (key.getLastD "") with
      | some _ => none
      | none => some (inner ++ [(key.getLastD "", Place.value v)])
  Places.update true change .headed entries path

mutual

def Place.toValue : Place → Value
  | .value v => v
  | .table _ entries => .table (Place.toTable entries)
  | .tables last before =>
    .tables ((Place.toTables before).reverse ++ [.table (Place.toTable last)])

/-- The values in the places of a table. -/
def Place.toTable : List (String × Place) → Table
  | [] => []
  | (key, place) :: entries => (key, place.toValue) :: Place.toTable entries

/-- The values of tables in a row. -/
def Place.toTables : List (List (String × Place)) → List Value
  | [] => []
  | entries :: more => .table (Place.toTable entries) :: Place.toTables more

end

/-! ## Values with parts -/

/-- Something between blanks that may hold ends of lines and comments. -/
def spaced {α : Type} (r : Reader α) : Reader α := do
  blanks
  let a ← r
  blanks
  return a

/-- Values in brackets, with commas between and possibly one after them. -/
def array (item : Reader Value) : Reader Value := do
  char '['
  let items ← separated (spaced item) (char ',')
  if !items.isEmpty then
    let _ ← optional (char ',')
  blanks
  char ']'
  return .array items

/-- Keys with their values in braces on one line. -/
def inlineTable (item : Reader Value) : Reader Value := do
  char '\x7b'
  let pair : Reader (List String × Value) := do
    let k ← key
    char '='
    spaces
    let v ← item
    spaces
    return (k, v)
  let pairs ← separated pair (char ',')
  spaces
  char '\x7d'
  match pairs.foldlM (fun entries (k, v) => Places.add entries k v) [] with
  | some entries => return .table (Place.toTable entries)
  | none => refuse

/-- A value inside no more than so many brackets. -/
def value : (depth : Nat) → Reader Value
  | 0 => scalar
  | depth + 1 => array (value depth) <|> inlineTable (value depth) <|> scalar

/-! ## Statements -/

inductive Statement where
  | entry (key : List String) (v : Value)
  | heading (path : List String)
  /-- A heading in double brackets. -/
  | listHeading (path : List String)

def heading : Reader Statement := do
  char '['
  let path ← key
  char ']'
  trailing
  return .heading path

def listHeading : Reader Statement := do
  chars ['[', '[']
  let path ← key
  chars [']', ']']
  trailing
  return .listHeading path

def entry : Reader Statement := do
  let k ← key
  char '='
  spaces
  let v ← value (depthLimit - 1)
  trailing
  return .entry k v

def line : Reader (Option Statement) := do
  spaces
  match (← rest).head? with
  | none => refuse
  | some '#' =>
    comment
    lineEnd
    return none
  | some '[' => some <$> (listHeading <|> heading)
  | some '\n' | some '\r' =>
    let _ ← newline
    return none
  | some _ => some <$> entry

/-- The statements of a text, up to its end. -/
def statements (text : List Char) : Option (List Statement) :=
  match many line text with
  | some (lines, rest) =>
    if rest.all isSpace then some (lines.filterMap fun line => line) else none
  | none => none

/-! ## Sections -/

/-- The entries before the next heading, added to a table, and the statements from there on. -/
def takeEntries (entries : Places) : List Statement → Option (Places × List Statement)
  | .entry k v :: more => (entries.add k v).bind fun entries => takeEntries entries more
  | more => some (entries, more)

/-- Puts the table of a heading, with the entries under it, into its place at the end of the table
around it. What only had been implied before becomes part of it. -/
def placeTable (entries : Places) (path : List String) (body : Places → Option Places) :
    Option Places :=
  let name := path.getLastD ""
  let change := fun _ (outer : Places) =>
    match outer.lookup name with
    | none => (body []).map fun inner => outer ++ [(name, .table .headed inner)]
    | some (.table .implied inner) =>
      (body inner).map fun inner =>
        (outer.filter fun (k, _) => k != name) ++ [(name, .table .headed inner)]
    | some _ => none
  entries.update false change .headed path.dropLast

/-- Puts the table of a heading in double brackets, with the entries under it, after those that its
place has already. -/
def placeListItem (entries : Places) (path : List String) (body : Places → Option Places) :
    Option Places :=
  let name := path.getLastD ""
  let change := fun _ (outer : Places) =>
    match outer.lookup name with
    | none => (body []).map fun item => outer ++ [(name, .tables item [])]
    | some (.tables last before) =>
      (body []).map fun item => outer.set name (.tables item (last :: before))
    | some _ => none
  entries.update false change .headed path.dropLast

/-- The entries among statements before the next heading, added to a table. -/
def section? (more : List Statement) (entries : Places) : Option Places :=
  (takeEntries entries more).map Prod.fst

/-- Carries out statements from a heading on. Entries are passed over: they have been taken with
their heading. -/
def placeAll (entries : Places) : List Statement → Option Places
  | [] => some entries
  | .entry .. :: more => placeAll entries more
  | .heading path :: more =>
    (placeTable entries path (section? more)).bind fun entries => placeAll entries more
  | .listHeading path :: more =>
    (placeListItem entries path (section? more)).bind fun entries => placeAll entries more

/-- The document in a text, if it is one. A byte order mark at its start is passed over. -/
def parse (text : String) : Option Table := do
  let cs := match text.toList with
    | '\uFEFF' :: cs => cs
    | cs => cs
  let all ← statements cs
  let (entries, more) ← takeEntries [] all
  let entries ← placeAll entries more
  return Place.toTable entries

end IconForge.Toml
