import IconForge.Markup.Attribute
import IconForge.Markup.Entity
import IconForge.Markup.Place

/-!
# Documents

A document is an `svg` root element: its qualified name, its attributes, the nodes directly inside
it and the markup between its tags, each kept as it was written.

Reading is lenient. One byte order mark at the start is ignored, names of end tags are not compared
with those of start tags, namespaces are not resolved, and a root that is never closed ends with the
text. An end tag with the name of the root closes the root, also over elements that are still open.
Only a missing root, or a fault before the root closes, is an error.

## Byte order marks

The places of tokens count from the first character that can belong to one. A second byte order mark
is not such a character, and yet the markup of nodes is cut from the text that holds it, so that in
such a document every cut lies three bytes early. If one falls inside a character, the program
breaks off.
-/

namespace IconForge.Markup

open IconForge.Text

/-! ## Nodes and documents -/

inductive NodeKind where
  | element | text | comment | other
  deriving DecidableEq, Repr

inductive Node where
  /-- An element with all it holds. The text is that between its own tags. -/
  | element (name markup text : String)
  /-- Plain characters, references and CDATA sections in a row. -/
  | characters (markup : String)
  | comment (markup : String)
  /-- Instructions and declarations. -/
  | other (markup : String)
  deriving DecidableEq, Repr

namespace Node

def kind : Node → NodeKind
  | element .. => .element
  | characters _ => .text
  | comment _ => .comment
  | other _ => .other

/-- The qualified name of an element; no other node has one. -/
def name? : Node → Option String
  | element name .. => some name
  | _ => none

def markup : Node → String
  | element _ markup _ | characters markup | comment markup | other markup => markup

/-- What the node says: its character data, with references replaced. -/
def text : Node → String
  | element _ _ text => text
  | characters markup => String.ofList (decodeText markup.toList)
  | _ => ""

/-- Joins characters that follow each other into one node. `pending` are those right before the
nodes. -/
def joinCharacters (pending : Option String) : List Node → List Node
  | [] => (pending.map characters).toList
  | characters more :: nodes => joinCharacters (some (pending.getD "" ++ more)) nodes
  | node :: nodes => (pending.map characters).toList ++ node :: joinCharacters none nodes

theorem markup_joinCharacters (pending : Option String) (nodes : List Node) :
    (joinCharacters pending nodes).flatMap (fun node => node.markup.toList) =
      (pending.getD "").toList ++ nodes.flatMap fun node => node.markup.toList := by
  fun_induction joinCharacters pending nodes <;> cases ‹Option String› <;> simp_all [markup]

end Node

structure Document where
  /-- The qualified name of the root. -/
  root : String
  /-- The attributes of the root in order, their values decoded. -/
  attributes : List (String × String)
  children : List Node
  /-- The markup between the tags of the root. -/
  inner : String
  deriving DecidableEq, Repr

/-- The part of a qualified name after its last colon. -/
def localName (name : String) : String :=
  String.ofList (name.toList.reverse.takeWhile fun c => c != ':').reverse

namespace Document

/-- The value of an attribute of the root; of several with one name the first counts. -/
def attribute? (doc : Document) (name : String) : Option String :=
  doc.attributes.lookup name

/-- The first element directly inside the root with this local name. -/
def childElement? (doc : Document) (name : String) : Option Node :=
  doc.children.find? fun node => node.name?.map localName == some name

end Document

/-! ## Errors -/

inductive DocumentError where
  | faulty (fault : Fault) (offset : Nat)
  /-- There is nothing but blanks. -/
  | empty
  | rootMissing
  | rootNotSvg (name : String)
  deriving DecidableEq, Repr

def DocumentError.message (e : DocumentError) : String :=
  "malformed SVG document: " ++
    match e with
    | .faulty fault offset => fault.message ++ " at byte " ++ toString offset
    | .empty => "document is empty"
    | .rootMissing => "no root element found"
    | .rootNotSvg name => "expected root element 'svg', found '" ++ name ++ "'"

/-- Why reading a text comes to no document. -/
inductive Halt where
  /-- The text holds none. -/
  | malformed (error : DocumentError)
  /-- A cut fails, and with it the program. -/
  | crashed (crash : Crash)
  deriving DecidableEq, Repr

/-- The markup of `source` between two byte offsets. -/
def cut (source : String) (start stop : Nat) : Except Halt String :=
  match slice? source start stop with
  | some text => .ok text
  | none => .error (.crashed ⟨start, stop⟩)

/-! ## The root -/

/-- Reads up to the root's start tag: the tag, and for a root that is not empty the place where its
content starts together with the tokens of the content. Whatever stands before the first start tag
is passed over, but an end tag there closes nothing. -/
def Tokens.root (source : String) :
    Tokens → Except DocumentError (Tag × Option (Nat × Tokens))
  | .ended _ => .error (if isAllBlank source then .empty else .rootMissing)
  | .broken fault offset => .error (.faulty fault offset)
  | .next (.startTag tag) _ stop rest =>
    if localName tag.name = "svg" then .ok (tag, some (stop, rest))
    else .error (.rootNotSvg tag.name)
  | .next (.emptyTag tag) _ _ _ =>
    if localName tag.name = "svg" then .ok (tag, none) else .error (.rootNotSvg tag.name)
  | .next (.endTag name) start _ _ => .error (.faulty (.unmatchedEnd name) start)
  | .next _ _ _ rest => rest.root source

/-- The attributes of a tag, their values decoded. -/
def Tag.decodedAttributes (tag : Tag) : List (String × String) :=
  (Markup.attributes tag.attributes).map fun (name, value) =>
    (String.ofList name, String.ofList (decodeText value))

/-! ## The content -/

/-- An element directly inside the root whose end has not been reached. -/
structure OpenElement where
  name : String
  /-- Where its start tag starts. -/
  start : Nat
  /-- Where its content starts. -/
  innerStart : Nat
  /-- The names of the elements open in it, itself included, the innermost first. -/
  nesting : List String

/-- The node of an element whose content ends at `innerStop`, and its markup at `stop`. -/
def OpenElement.close (source : String) (e : OpenElement) (innerStop stop : Nat) :
    Except Halt Node := do
  let inner ← cut source e.innerStart innerStop
  let markup ← cut source e.start stop
  return .element e.name markup (String.ofList (decodeText inner.toList))

/-- The node of a token that is neither a start tag nor an end tag, with its markup. References are
known by the ampersand they start with. -/
def nodeOf (token : Token) (markup : String) : Node :=
  match token with
  | .emptyTag tag => .element tag.name markup ""
  | .characters | .cdata => .characters markup
  | .comment => .comment markup
  | _ => if markup.toList.head? = some '&' then .characters markup else .other markup

/-- Reads the content of the root `root`: its nodes, with characters still in pieces, and where it
ends. Within an element directly inside the root, which is being read, only the nesting matters. -/
def Tokens.content (source root : String) :
    Option OpenElement → Tokens → Except Halt (List Node × Nat)
  | none, .ended _ => .ok ([], source.utf8ByteSize)
  | some e, .ended _ => do
    let node ← e.close source source.utf8ByteSize source.utf8ByteSize
    return ([node], source.utf8ByteSize)
  | _, .broken fault offset => .error (.malformed (.faulty fault offset))
  | none, .next (.startTag tag) start stop rest =>
    rest.content source root (some ⟨tag.name, start, stop, [tag.name]⟩)
  | none, .next (.endTag _) start _ _ => .ok ([], start)
  | none, .next token start stop rest => do
    let markup ← cut source start stop
    let (nodes, innerStop) ← rest.content source root none
    return (nodeOf token markup :: nodes, innerStop)
  | some e, .next (.startTag tag) _ _ rest =>
    rest.content source root (some { e with nesting := tag.name :: e.nesting })
  | some e, .next (.endTag name) start stop rest =>
    if name = root ∧ name ∉ e.nesting then do
      let node ← e.close source start start
      return ([node], start)
    else
      match e.nesting.tail with
      | [] => do
        let node ← e.close source start stop
        let (nodes, innerStop) ← rest.content source root none
        return (node :: nodes, innerStop)
      | nesting => rest.content source root (some { e with nesting := nesting })
  | some e, .next _ _ _ rest => rest.content source root (some e)

/-! ## Reading a document -/

def byteOrderMark : Char := '\uFEFF'

/-- A text without the byte order mark it may start with. -/
def withoutMark : List Char → List Char
  | [] => []
  | c :: cs => if c = byteOrderMark then cs else c :: cs

/-- Reads the document that a text holds. -/
def Document.ofChars (text : List Char) : Except Halt Document := do
  let chars := withoutMark text
  let source := String.ofList chars
  let (tag, content) ← ((Tokens.ofChars 0 (withoutMark chars)).root source).mapError .malformed
  match content with
  | none => return ⟨tag.name, tag.decodedAttributes, [], ""⟩
  | some (start, tokens) =>
    let (nodes, stop) ← tokens.content source tag.name none
    let inner ← cut source start stop
    return ⟨tag.name, tag.decodedAttributes, Node.joinCharacters none nodes, inner⟩

/-- Reads the document that a text holds. -/
def Document.read (text : String) : Except Halt Document :=
  Document.ofChars text.toList

end IconForge.Markup
