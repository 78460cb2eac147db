import IconForge.Markup.Document
import Mathlib

/-!
# Trees and how they are written

Well-formed element trees with an `svg` root, as a serializer knows them, and the text that it
writes for them. What each part may hold is asked for where the part is made, so that every tree is
well-formed.

## Main definitions

- `Tree.Root`, `Tree.Root.written`: a tree and its text.
- `Tree.outlines`: the nodes that a reader is expected to see.
-/

namespace IconForge.Markup.Tree

open IconForge.Text

/-! ## Names and attributes -/

/-- A character of a name. All characters outside ASCII count as letters. -/
def isNameChar (c : Char) : Bool :=
  c.isAlphanum || ['-', '_', '.', ':'].contains c || 0x80 ≤ c.toNat

structure Name where
  chars : List Char
  filled : chars ≠ []
  allowed : ∀ c ∈ chars, isNameChar c

def Name.text (name : Name) : String := String.ofList name.chars

inductive Quote where
  | double | single

def Quote.char : Quote → Char
  | .double => '"'
  | .single => '\x27'

/-- An attribute, its value as it is written. -/
structure Attribute where
  name : Name
  quote : Quote
  value : List Char
  closed : quote.char ∉ value

def Attribute.written (a : Attribute) : List Char :=
  ' ' :: a.name.chars ++ '=' :: a.quote.char :: a.value ++ [a.quote.char]

/-! ## Escaping -/

/-- A character as it is written in a value. -/
def escapeChar (c : Char) : List Char :=
  if c = '&' then "&amp;".toList
  else if c = '<' then "&lt;".toList
  else if c = '>' then "&gt;".toList
  else if c = '"' then "&quot;".toList
  else if c = '\x27' then "&apos;".toList
  else [c]

def escape (cs : List Char) : List Char := cs.flatMap escapeChar

/-- Escaped characters have no quotes and no opening bracket. -/
theorem not_mem_escape {c : Char} (special : c ∈ ['"', '\x27', '<']) (cs : List Char) :
    c ∉ escape cs := by
  intro mem
  obtain ⟨d, -, here⟩ := List.mem_flatMap.mp mem
  unfold escapeChar at here
  -- a character is written as it is in the last case only, and there it is none of the three
  simp only [List.mem_cons, List.not_mem_nil, or_false] at special
  rcases special with rfl | rfl | rfl <;> split_ifs at here <;> simp_all [eq_comm]

/-- An attribute of a root, its value as it is meant. -/
structure RootAttribute where
  name : Name
  quote : Quote
  value : String

/-- An attribute with its value escaped. -/
def RootAttribute.attribute (a : RootAttribute) : Attribute where
  name := a.name
  quote := a.quote
  value := escape a.value.toList
  closed := not_mem_escape (by cases a.quote <;> simp [Quote.char]) _

/-! ## Tags -/

/-- The name and the attributes of an element. -/
structure Head where
  name : Name
  attributes : List Attribute

namespace Head

/-- What stands between the brackets of a start tag. -/
def body (head : Head) : List Char := head.name.chars ++ head.attributes.flatMap Attribute.written

def startTag (head : Head) : List Char := "<".toList ++ head.body ++ ">".toList

def emptyTag (head : Head) : List Char := "<".toList ++ head.body ++ "/>".toList

def endTag (head : Head) : List Char := "</".toList ++ head.name.chars ++ ">".toList

end Head

/-! ## Content -/

/-- What stands in a content and is no element. -/
inductive Leaf where
  | text (chars : List Char) (filled : chars ≠ []) (plain : ∀ c ∈ chars, isPlain c)
  /-- A reference, by a name or by a number. -/
  | reference (name : List Char) (inside : ∀ c ∈ name, isInReference c)
  | cdata (body : List Char) (inside : ¬ "]]>".toList <:+: body)
  | comment (body : List Char) (inside : ¬ "--".toList <:+: body)
  | instruction (target : Name) (rest : List Char) (inside : ¬ "?>".toList <:+: rest)

def Leaf.written : Leaf → List Char
  | .text chars _ _ => chars
  | .reference name _ => "&".toList ++ name ++ ";".toList
  | .cdata body _ => "<![CDATA[".toList ++ body ++ "]]>".toList
  | .comment body _ => "<!--".toList ++ body ++ "-->".toList
  | .instruction target rest _ => "<?".toList ++ (target.chars ++ rest) ++ "?>".toList

def Leaf.kind : Leaf → NodeKind
  | .text .. | .reference .. | .cdata .. => .text
  | .comment .. => .comment
  | .instruction .. => .other

inductive Item where
  | leaf (leaf : Leaf)
  /-- An element without content, written as one tag. -/
  | empty (head : Head)
  | element (head : Head) (content : List Item)

mutual

def Item.written : Item → List Char
  | .leaf leaf => leaf.written
  | .empty head => head.emptyTag
  | .element head content => head.startTag ++ contentWritten content ++ head.endTag

/-- The text of a content. -/
def contentWritten : List Item → List Char
  | [] => []
  | item :: items => item.written ++ contentWritten items

end

/-- Induction over content, that of its elements included. -/
theorem contentInduction {motive : List Item → Prop} (nil : motive [])
    (leaf : ∀ leaf items, motive items → motive (.leaf leaf :: items))
    (empty : ∀ head items, motive items → motive (.empty head :: items))
    (element : ∀ head content items, motive content → motive items →
      motive (.element head content :: items)) : ∀ items, motive items
  | [] => nil
  | .leaf l :: items => leaf l items (contentInduction nil leaf empty element items)
  | .empty head :: items => empty head items (contentInduction nil leaf empty element items)
  | .element head content :: items =>
    element head content items (contentInduction nil leaf empty element content)
      (contentInduction nil leaf empty element items)

/-! ## Roots -/

/-- A tree: an `svg` element, its name with or without a prefix. -/
structure Root where
  name : Name
  svg : localName name.text = "svg"
  attributes : List RootAttribute
  /-- None for a root that is written as one tag. -/
  content : Option (List Item)

namespace Root

def head (root : Root) : Head := ⟨root.name, root.attributes.map RootAttribute.attribute⟩

/-- The text of a tree. -/
def written (root : Root) : List Char :=
  match root.content with
  | none => root.head.emptyTag
  | some items => root.head.startTag ++ contentWritten items ++ root.head.endTag

/-- The top level of a tree. -/
def items (root : Root) : List Item := root.content.getD []

end Root

/-! ## Outlines -/

/-- What is known of a node of a document. -/
structure Outline where
  kind : NodeKind
  name? : Option String
  markup : List Char
  deriving DecidableEq

def outlineOf (node : Node) : Outline := ⟨node.kind, node.name?, node.markup.toList⟩

/-- Some character data, and what comes after it. It becomes one with the character data that comes
first there. -/
def addText (chars : List Char) : List Outline → List Outline
  | ⟨.text, name?, markup⟩ :: more => ⟨.text, name?, chars ++ markup⟩ :: more
  | more => if chars = [] then more else ⟨.text, none, chars⟩ :: more

/-- The outlines of the nodes of a content: one for each item, but one for the texts, references and
CDATA sections in a row. -/
def outlines : List Item → List Outline
  | [] => []
  | .leaf leaf :: items =>
    match leaf.kind with
    | .text => addText leaf.written (outlines items)
    | kind => ⟨kind, none, leaf.written⟩ :: outlines items
  | .empty head :: items => ⟨.element, some head.name.text, head.emptyTag⟩ :: outlines items
  | .element head content :: items =>
    ⟨.element, some head.name.text, (Item.element head content).written⟩ :: outlines items

-- a text and a reference are one node, and an element may have the name of the root
example :
    let svg : Name := ⟨"svg".toList, by simp, by simp [isNameChar]⟩
    let text : Leaf := .text "a".toList (by simp) (by simp [isPlain])
    let reference : Leaf := .reference "lt".toList (by simp [isInReference, isPlain])
    let items : List Item :=
      [.leaf text, .leaf reference, .element ⟨svg, []⟩ [.empty ⟨svg, []⟩]]
    contentWritten items = "a&lt;<svg><svg/></svg>".toList ∧
      outlines items = [⟨.text, none, "a&lt;".toList⟩,
        ⟨.element, some "svg", "<svg><svg/></svg>".toList⟩] := by
  decide +kernel

theorem outlines_leaf_text {leaf : Leaf} (text : leaf.kind = .text) (items : List Item) :
    outlines (.leaf leaf :: items) = addText leaf.written (outlines items) := by
  rw [outlines, text]

theorem outlines_leaf_other {leaf : Leaf} (other : leaf.kind ≠ .text) (items : List Item) :
    outlines (.leaf leaf :: items) = ⟨leaf.kind, none, leaf.written⟩ :: outlines items := by
  rw [outlines]
  split
  · contradiction
  · rfl

@[simp] theorem addText_nil (more : List Outline) : addText [] more = more := by
  unfold addText
  split <;> simp

@[simp] theorem addText_addText (chars chars' : List Char) (more : List Outline) :
    addText chars (addText chars' more) = addText (chars ++ chars') more := by
  by_cases none : chars' = []
  · simp [none]
  · -- after the first addition there is character data in front
    cases more with
    | nil => simp [addText, none]
    | cons outline more =>
      obtain ⟨kind, name?, markup⟩ := outline
      cases kind <;> simp [addText, none]

/-- Character data before a node that is none. -/
theorem addText_cons {outline : Outline} (other : outline.kind ≠ .text) (chars : List Char)
    (more : List Outline) :
    addText chars (outline :: more) =
      if chars = [] then outline :: more else ⟨.text, none, chars⟩ :: outline :: more := by
  unfold addText
  split
  · simp_all
  · rfl

end IconForge.Markup.Tree
