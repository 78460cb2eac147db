import IconForge.Text.Search

/-!
# Paths

A path is shown as it was written and compared by its components: repeated and trailing slashes do
not matter, nor does a `.` that is not the first component. `components` is the view in which
everything but the text of a path is stated; `join`, `parent?` and `ancestors` keep to the text.
-/

namespace IconForge

open IconForge.Text

structure Path where
  text : String
  deriving DecidableEq, Repr

namespace Path

instance : ToString Path := ⟨Path.text⟩

inductive Component where
  /-- The slash an absolute path begins with. -/
  | root
  /-- A dot at the beginning of a relative path. -/
  | here
  /-- Two dots. They are not resolved. -/
  | up
  | name (text : String)
  deriving DecidableEq, Repr

/-! ## Components -/

/-- The characters that decide on the first component: a slash, or a dot on its own. -/
def lead : List Char → List Char
  | '/' :: _ => ['/']
  | ['.'] => ['.']
  | '.' :: '/' :: _ => ['.']
  | _ => []

/-- What the characters at the beginning of a path stand for. -/
def leadComponents : List Char → List Component
  | ['/'] => [.root]
  | ['.'] => [.here]
  | _ => []

/-- What a piece between two slashes stands for, unless it is nothing. -/
def componentOf? (piece : List Char) : Option Component :=
  if piece = [] ∨ piece = ['.'] then none
  else if piece = ['.', '.'] then some .up
  else some (.name (String.ofList piece))

/-- The pieces between the slashes of a path, after its beginning. -/
def pieces (cs : List Char) : List (List Char) :=
  splitWhere (fun c => c == '/') (cs.drop (lead cs).length)

def components (p : Path) : List Component :=
  leadComponents (lead p.text.toList) ++ (pieces p.text.toList).filterMap componentOf?

def Same (p q : Path) : Prop := p.components = q.components

instance (p q : Path) : Decidable (Same p q) := inferInstanceAs (Decidable (_ = _))

/-- A path that begins at the root. -/
def isAbsolute (p : Path) : Bool := p.text.toList.head? == some '/'

def isEmpty (p : Path) : Bool := p.text.isEmpty

/-! ## Building and taking apart -/

/-- The path `right` seen from `left`: an absolute path stands for itself, any other follows after a
slash. -/
def join (left right : Path) : Path :=
  if right.isAbsolute then right
  else
    let slash := left.isEmpty || left.text.toList.getLast? == some '/'
    ⟨left.text ++ (if slash then "" else "/") ++ right.text⟩

/-- Pieces without those at the end that stand for nothing. -/
def trimPieces (pieces : List (List Char)) : List (List Char) :=
  (pieces.reverse.dropWhile fun piece => (componentOf? piece).isNone).reverse

/-- The path up to the component before the last. The root and the empty path have no parent. -/
def parent? (p : Path) : Option Path :=
  let lead := lead p.text.toList
  match (trimPieces (pieces p.text.toList)).reverse with
  | [] => if lead = ['.'] then some ⟨""⟩ else none
  | _ :: before =>
    some ⟨String.ofList (lead ++ ['/'].intercalate (trimPieces before.reverse))⟩

/-- The last component, if it is a name. -/
def fileName? (p : Path) : Option String :=
  match p.components.getLast? with
  | some (.name name) => some name
  | _ => none

/-- A name cut at its last dot. -/
def splitAtLastDot? (name : String) : Option (String × String) :=
  let cs := name.toList.reverse
  match cs.dropWhile fun c => c != '.' with
  | [] => none
  | _ :: before =>
    some (String.ofList before.reverse, String.ofList (cs.takeWhile fun c => c != '.').reverse)

/-- The extension of the file name: what follows its last dot, unless that is its first
character. -/
def extension? (p : Path) : Option String :=
  p.fileName?.bind splitAtLastDot? |>.bind fun (stem, extension) =>
    if stem.isEmpty then none else some extension

/-! ## Ancestors -/

/-- A path, its parent, the parent of that, and so on; at most `fuel` of them. -/
def ancestorsUpTo : (fuel : Nat) → Path → List Path
  | 0, _ => []
  | fuel + 1, p =>
    match p.parent? with
    | none => [p]
    | some q => p :: ancestorsUpTo fuel q

/-- A path, its parent, the parent of that, and so on. A parent has one component less, which bounds
their number. -/
def ancestors (p : Path) : List Path := ancestorsUpTo (p.components.length + 1) p

end Path

end IconForge
