import IconForge.Proofs.Markup.Content
import IconForge.Proofs.Markup.Escaping

/-!
# Reading undoes writing

A tree that has been written is read back: its name, the attributes as they were meant, and one node
for each item of its content, but one for character data in a row.

Within an element, what is written of a content is passed over (`passes_contentWritten`), since each
end tag there has the name of an element that is open, so that none closes the root.
Outside of elements each item gives its node (`yields_contentWritten`).

## Main statements

- `Root.read_written`: the round trip.
-/

namespace IconForge.Markup.Tree

open IconForge.Text

/-! ## Steps of reading -/

/-- Reads the content of the root `root` from a text. -/
def reading (root : String) (e : Option Frame) (cs : List Char) : Reading :=
  contentOf root (lexemes cs).2 e (lexemes cs).1

variable (root : String) {e : Frame} {cs lexeme rest : List Char} {token : Token}

theorem reading_of_scan {e : Option Frame} (h : scan cs = .token token lexeme rest) :
    reading root e cs =
      contentOf root (lexemes rest).2 e ((token, lexeme) :: (lexemes rest).1) := by
  rw [reading, lexemes_of_token h]

/-- Of an element that is open, all but the tags is passed over. -/
theorem reading_within (h : scan cs = .token token lexeme rest)
    (noStart : ∀ tag, token ≠ .startTag tag) (noEnd : ∀ name, token ≠ .endTag name) :
    reading root (some e) cs =
      (reading root (some (e.extend lexeme e.nesting)) rest).after [] lexeme := by
  rw [reading_of_scan root h, contentOf]
  · rfl
  · exact fun tag eq => noStart tag eq
  · exact fun name eq => noEnd name eq

theorem reading_start_within {tag : Tag} (h : scan cs = .token (.startTag tag) lexeme rest) :
    reading root (some e) cs =
      (reading root (some (e.extend lexeme (tag.name :: e.nesting))) rest).after [] lexeme := by
  rw [reading_of_scan root h, contentOf]
  rfl

/-- An end tag with the name of an open element ends the innermost one. -/
theorem reading_end_within {name : String} {outer : List String}
    (h : scan cs = .token (.endTag name) lexeme rest) (nesting : e.nesting = name :: outer) :
    reading root (some e) cs =
      if outer = [] then (reading root none rest).after [e.node lexeme] lexeme
      else (reading root (some (e.extend lexeme outer)) rest).after [] lexeme := by
  rw [reading_of_scan root h, contentOf_endTag nesting]
  rfl

theorem reading_start {tag : Tag} (h : scan cs = .token (.startTag tag) lexeme rest) :
    reading root none cs =
      (reading root (some ⟨tag.name, lexeme, [], [tag.name]⟩) rest).after [] lexeme := by
  rw [reading_of_scan root h, contentOf]
  rfl

/-- Outside of elements every token but the tags of elements gives a node. -/
theorem reading_node (h : scan cs = .token token lexeme rest)
    (noStart : ∀ tag, token ≠ .startTag tag) (noEnd : ∀ name, token ≠ .endTag name) :
    reading root none cs =
      (reading root none rest).after [nodeOf token (String.ofList lexeme)] lexeme := by
  rw [reading_of_scan root h, contentOf]
  · rfl
  · exact fun tag eq => noStart tag eq
  · exact fun name eq => noEnd name eq

theorem reading_end {name : String} (h : scan cs = .token (.endTag name) lexeme rest) :
    reading root none cs = .ok ([], []) := by
  rw [reading_of_scan root h, contentOf]

/-! ## Within elements -/

/-- A text that an open element goes on with, whatever comes after it. -/
def Passes (cs : List Char) : Prop :=
  ∀ root e rest, e.nesting ≠ [] → reading root (some e) (cs ++ rest) =
    (reading root (some (e.extend cs e.nesting)) rest).after [] cs

theorem Passes.nil : Passes [] := by
  intro root e rest _
  have same : e.extend [] e.nesting = e := by simp [Frame.extend]
  rw [same, List.nil_append]
  exact (Reading.after_nil_nil _).symm

theorem Passes.append {cs ds : List Char} (first : Passes cs) (second : Passes ds) :
    Passes (cs ++ ds) := by
  intro root e rest filled
  -- the second text is passed over by the element that the first has gone into
  have more := second root (e.extend cs e.nesting) rest filled
  rw [List.append_assoc, first root e _ filled, more, Reading.after_after]
  simp [Frame.extend]

/-- Text is passed over, also where it is read together with text that comes after it. -/
theorem passes_plain {chars : List Char} (filled : chars ≠ []) (plain : ∀ c ∈ chars, isPlain c) :
    Passes chars := by
  intro root e rest _
  have step := reading_within root (e := e) (scan_plain filled plain rest) (by simp)
    (by simp)
  by_cases more : rest.takeWhile isPlain = []
  · rwa [more, List.append_nil, dropWhile_of_takeWhile_eq_nil more] at step
  · -- reading the rest first takes its own text, and then goes on at the same place
    have next := reading_within root (e := e.extend chars e.nesting)
      (scan_takeWhile more) (by simp) (by simp)
    rw [step, next, Reading.after_after]
    simp [Frame.extend]

theorem passes_of_scan {cs : List Char} {token : Token}
    (h : ∀ rest, scan (cs ++ rest) = .token token cs rest)
    (noStart : ∀ tag, token ≠ .startTag tag) (noEnd : ∀ name, token ≠ .endTag name) : Passes cs :=
  fun root _ rest _ => reading_within root (h rest) noStart noEnd

theorem Leaf.passes (leaf : Leaf) : Passes leaf.written := by
  cases leaf with
  | text chars filled plain => exact passes_plain filled plain
  | reference | cdata | comment | instruction =>
    refine passes_of_scan (Leaf.scan_written _ ?_) ?_ ?_
    all_goals simp [Leaf.token]

/-- An element is passed over if its content is. -/
theorem Head.passes (head : Head) {content : List Char} (passes : Passes content) :
    Passes (head.startTag ++ content ++ head.endTag) := by
  intro root e rest filled
  have start := reading_start_within root (e := e)
    (head.scan_startTag (content ++ (head.endTag ++ rest)))
  let within := e.extend head.startTag (head.name.text :: e.nesting)
  have inside := passes root within (head.endTag ++ rest) (by simp [within, Frame.extend])
  -- the end tag has the name of this element, and the ones around it stay open
  have nesting : (within.extend content within.nesting).nesting = head.name.text :: e.nesting := rfl
  have ended := reading_end_within root (head.scan_endTag rest) nesting
  rw [if_neg filled] at ended
  simp only [List.append_assoc]
  rw [start, Head.tag, inside, ended, Reading.after_after, Reading.after_after]
  simp [within, Frame.extend]

/-- What is written of a content is passed over. -/
theorem passes_contentWritten (items : List Item) : Passes (contentWritten items) := by
  induction items using contentInduction with
  | nil =>
    rw [contentWritten]
    exact .nil
  | leaf leaf items ih =>
    rw [contentWritten, Item.written]
    exact leaf.passes.append ih
  | empty head items ih =>
    rw [contentWritten, Item.written]
    exact (passes_of_scan head.scan_emptyTag (by simp) (by simp)).append ih
  | element head content items inner ih =>
    rw [contentWritten, Item.written]
    exact (head.passes inner).append ih

/-! ## Outside of elements -/

/-- Characters that are waiting for a node. -/
def pendingOf (chars : List Char) : Option String :=
  if chars = [] then none else some (String.ofList chars)

/-- Characters before a content join those that wait. -/
theorem joinCharacters_characters {chars : List Char} (filled : chars ≠ []) (before : List Char)
    (nodes : List Node) :
    Node.joinCharacters (pendingOf before) (.characters (String.ofList chars) :: nodes) =
      Node.joinCharacters (pendingOf (before ++ chars)) nodes := by
  rw [Node.joinCharacters]
  by_cases none : before = []
  · simp [pendingOf, none, filled]
  · simp [pendingOf, none]

/-- Any other node ends the wait. -/
theorem joinCharacters_other {node : Node} (other : node.kind ≠ .text) (pending : Option String)
    (nodes : List Node) :
    Node.joinCharacters pending (node :: nodes) =
      (pending.map Node.characters).toList ++ node :: Node.joinCharacters none nodes := by
  cases node with
  | characters markup => exact absurd rfl other
  | element | comment | other => rw [Node.joinCharacters]; simp

/-- A content that is read, and its nodes: once characters are joined, also with others before them,
they have these outlines. -/
def Yields (reading : Reading) (inner : List Char) (expected : List Outline) : Prop :=
  ∃ nodes, reading = .ok (nodes, inner) ∧ ∀ before : List Char,
    (Node.joinCharacters (pendingOf before) nodes).map outlineOf = addText before expected

theorem Yields.ended : Yields (.ok ([], [])) [] [] := by
  refine ⟨[], rfl, fun before => ?_⟩
  by_cases none : before = []
  · simp [Node.joinCharacters, pendingOf, none]
  · simp [Node.joinCharacters, pendingOf, none, addText, outlineOf, Node.kind, Node.name?,
      Node.markup]

theorem Yields.node {reading : Reading} {inner : List Char} {expected : List Outline}
    (yields : Yields reading inner expected) (node : Node) (other : node.kind ≠ .text)
    (lexeme : List Char) :
    Yields (reading.after [node] lexeme) (lexeme ++ inner) (outlineOf node :: expected) := by
  obtain ⟨nodes, rfl, joined⟩ := yields
  refine ⟨node :: nodes, rfl, fun before => ?_⟩
  have later : (Node.joinCharacters none nodes).map outlineOf = expected := by
    simpa [pendingOf] using joined []
  rw [joinCharacters_other other, addText_cons other]
  -- what waited becomes a node of its own, if there was something
  by_cases none : before = []
  · simp [pendingOf, none, later]
  · simp [pendingOf, none, later, outlineOf, Node.kind, Node.name?, Node.markup]

/-- A token that is character data joins what comes after it. -/
theorem Yields.characters {reading : Reading} {inner chars : List Char} {expected : List Outline}
    (filled : chars ≠ []) (yields : Yields reading inner expected) :
    Yields (reading.after [.characters (String.ofList chars)] chars) (chars ++ inner)
      (addText chars expected) := by
  obtain ⟨nodes, rfl, joined⟩ := yields
  refine ⟨_ :: nodes, rfl, fun before => ?_⟩
  rw [joinCharacters_characters filled, joined, addText_addText]

/-- So does text, which is read together with text that comes after it. -/
theorem Yields.plain {root : String} {cs inner chars : List Char} {expected : List Outline}
    (filled : chars ≠ []) (plain : ∀ c ∈ chars, isPlain c)
    (yields : Yields (reading root none cs) inner expected) :
    Yields (reading root none (chars ++ cs)) (chars ++ inner) (addText chars expected) := by
  have step := reading_node root (scan_plain filled plain cs) (by simp) (by simp)
  by_cases more : cs.takeWhile isPlain = []
  · rw [step, more, List.append_nil, dropWhile_of_takeWhile_eq_nil more]
    exact yields.characters filled
  · -- the text of the rest is a node when the rest is read alone
    have next := reading_node root (scan_takeWhile more) (by simp) (by simp)
    obtain ⟨nodes, read, joined⟩ := yields
    obtain ⟨nodes', inner', reads, rfl, rfl⟩ := Reading.after_eq_ok (next.symm.trans read)
    rw [reads] at step
    refine ⟨nodeOf .characters (String.ofList (chars ++ cs.takeWhile isPlain)) :: nodes', ?_,
      fun before => ?_⟩
    · rw [step]
      simp [Reading.after]
    -- taken apart or together, both texts wait in the end
    have both := joined (before ++ chars)
    rw [nodeOf, List.singleton_append, joinCharacters_characters more] at both
    rw [nodeOf, joinCharacters_characters (by simp [filled]), addText_addText, ← both,
      List.append_assoc]

/-- The node that is read from a leaf. -/
def Leaf.node (leaf : Leaf) : Node :=
  match leaf.kind with
  | .text => .characters (String.ofList leaf.written)
  | .comment => .comment (String.ofList leaf.written)
  | _ => .other (String.ofList leaf.written)

theorem nodeOf_reference (cs : List Char) :
    nodeOf .reference (String.ofList ('&' :: cs)) = .characters (String.ofList ('&' :: cs)) := by
  simp [nodeOf]

theorem nodeOf_instruction (cs : List Char) :
    nodeOf .instruction (String.ofList ('<' :: cs)) = .other (String.ofList ('<' :: cs)) := by
  simp [nodeOf]

theorem nodeOf_leaf (leaf : Leaf) :
    nodeOf leaf.token (String.ofList leaf.written) = leaf.node := by
  cases leaf with
  | text | cdata | comment => rfl
  | reference name inside => exact nodeOf_reference (name ++ ";".toList)
  | instruction target rest inside =>
    exact nodeOf_instruction ('?' :: (target.chars ++ rest) ++ "?>".toList)

theorem outlineOf_node (leaf : Leaf) : outlineOf leaf.node = ⟨leaf.kind, none, leaf.written⟩ := by
  cases leaf <;> simp [Leaf.node, Leaf.kind, outlineOf, Node.kind, Node.name?, Node.markup]

/-- A leaf that is one token gives its node, which joins what comes after it if it is character
data. -/
theorem Yields.mark {root : String} {cs inner : List Char} {items : List Item} {leaf : Leaf}
    (noText : leaf.token ≠ .characters)
    (yields : Yields (reading root none cs) inner (outlines items)) :
    Yields (reading root none (leaf.written ++ cs)) (leaf.written ++ inner)
      (outlines (.leaf leaf :: items)) := by
  have scanned := leaf.scan_written noText cs
  have filled : leaf.written ≠ [] := (scan_append scanned).1
  rw [reading_node root scanned (by cases leaf <;> simp [Leaf.token])
    (by cases leaf <;> simp [Leaf.token]), nodeOf_leaf]
  by_cases text : leaf.kind = .text
  · have node : leaf.node = .characters (String.ofList leaf.written) := by rw [Leaf.node, text]
    rw [outlines_leaf_text text, node]
    exact yields.characters filled
  · have kind : leaf.node.kind = leaf.kind := congrArg Outline.kind (outlineOf_node leaf)
    rw [outlines_leaf_other text, ← outlineOf_node]
    exact yields.node _ (by rwa [kind]) leaf.written

theorem Yields.leaf {root : String} {cs inner : List Char} {items : List Item} (leaf : Leaf)
    (yields : Yields (reading root none cs) inner (outlines items)) :
    Yields (reading root none (leaf.written ++ cs)) (leaf.written ++ inner)
      (outlines (.leaf leaf :: items)) := by
  cases leaf with
  | text chars filled plain =>
    rw [outlines_leaf_text rfl]
    exact yields.plain filled plain
  | reference | cdata | comment | instruction => exact yields.mark (by simp [Leaf.token])

theorem Yields.empty {root : String} {cs inner : List Char} {items : List Item} (head : Head)
    (yields : Yields (reading root none cs) inner (outlines items)) :
    Yields (reading root none (head.emptyTag ++ cs)) (head.emptyTag ++ inner)
      (outlines (.empty head :: items)) := by
  have node := yields.node (.element head.name.text (String.ofList head.emptyTag) "")
    (by simp [Node.kind]) head.emptyTag
  rw [reading_node root (head.scan_emptyTag cs) (by simp) (by simp)]
  simpa [outlineOf, Node.kind, Node.name?, Node.markup, outlines, nodeOf, Head.tag] using node

/-- An element is read up to the end tag that is its own. -/
theorem Yields.element {root : String} {cs inner : List Char} {items : List Item} (head : Head)
    (content : List Item) (yields : Yields (reading root none cs) inner (outlines items)) :
    Yields (reading root none ((Item.element head content).written ++ cs))
      ((Item.element head content).written ++ inner)
      (outlines (.element head content :: items)) := by
  let opened : Frame := ⟨head.name.text, head.startTag, [], [head.name.text]⟩
  let filled := opened.extend (contentWritten content) opened.nesting
  have start := reading_start root
    (head.scan_startTag (contentWritten content ++ (head.endTag ++ cs)))
  have inside := passes_contentWritten content root opened (head.endTag ++ cs) (by simp [opened])
  -- after the content only this element is open, and the end tag has its name
  have nesting : filled.nesting = [head.name.text] := rfl
  have ended := reading_end_within root (head.scan_endTag cs) nesting
  rw [if_pos rfl] at ended
  have node := yields.node (filled.node head.endTag) (by simp [Frame.node, Node.kind])
    (Item.element head content).written
  have outline : outlineOf (filled.node head.endTag) =
      ⟨.element, some head.name.text, (Item.element head content).written⟩ := by
    simp [outlineOf, Frame.node, Node.kind, Node.name?, Node.markup, filled, opened, Frame.span,
      Frame.extend, Item.written]
  have written : (Item.element head content).written ++ cs =
      head.startTag ++ (contentWritten content ++ (head.endTag ++ cs)) := by
    simp [Item.written]
  rw [outline] at node
  rw [written, start, Head.tag, inside, ended, Reading.after_after, Reading.after_after, outlines]
  simpa [Item.written] using node

/-- Each item of a content gives its node. -/
theorem yields_contentWritten {root : String} {cs : List Char} (items : List Item)
    (ends : reading root none cs = .ok ([], [])) :
    Yields (reading root none (contentWritten items ++ cs)) (contentWritten items)
      (outlines items) := by
  induction items with
  | nil =>
    rw [contentWritten, List.nil_append, ends]
    exact .ended
  | cons item items ih =>
    rw [contentWritten, List.append_assoc]
    cases item with
    | leaf leaf =>
      rw [Item.written]
      exact ih.leaf leaf
    | empty head =>
      rw [Item.written]
      exact ih.empty head
    | element head content => exact ih.element head content

/-! ## The round trip -/

/-- A text that begins with a bracket is read from there. -/
theorem read_of_documentOf {cs : List Char} {doc : Document} (bracket : cs.head? = some '<')
    (holds : DocumentOf (lexemes cs).1 (lexemes cs).2 doc) :
    Document.read (String.ofList cs) = .ok doc := by
  -- there is no mark to take away
  obtain ⟨rest, rfl⟩ := List.head?_eq_some_iff.mp bracket
  have single : ¬ [byteOrderMark, byteOrderMark] <+: '<' :: rest := by
    simp [byteOrderMark]
  have same : withoutMark ('<' :: rest) = '<' :: rest := by simp [withoutMark, byteOrderMark]
  rw [Document.read, String.toList_ofList]
  exact (Document.ofChars_ok_iff single).mpr (by rwa [same])

/-- A tree that has been written is read back: the name of its root, the attributes in order with
the values that were meant, for each item of its content the node with its kind, its name and its
markup, character data in a row as one node, and the content as it was written. -/
theorem Root.read_written (root : Root) :
    ∃ doc, Document.read (String.ofList root.written) = .ok doc ∧
      doc.root = root.name.text ∧
      doc.attributes = root.attributes.map (fun a => (a.name.text, a.value)) ∧
      doc.children.map outlineOf = outlines root.items ∧
      doc.inner = String.ofList (contentWritten root.items) := by
  have attributes := root.decodedAttributes_tag
  cases content : root.content with
  | none =>
    have written : root.written = root.head.emptyTag ++ [] := by simp [Root.written, content]
    have row := lexemes_of_token (root.head.scan_emptyTag [])
    refine ⟨⟨root.name.text, root.head.tag.decodedAttributes, [], ""⟩, ?_, rfl, attributes, ?_, ?_⟩
    · refine read_of_documentOf (by simp [written, Head.emptyTag]) ?_
      rw [written, row]
      exact .empty (List.nil_append _).symm (by simp) root.svg
    · simp [Root.items, content, outlines]
    · simp [Root.items, content, contentWritten]
  | some items =>
    have written : root.written =
        root.head.startTag ++ (contentWritten items ++ (root.head.endTag ++ [])) := by
      simp [Root.written, content]
    have row := lexemes_of_token
      (root.head.scan_startTag (contentWritten items ++ (root.head.endTag ++ [])))
    obtain ⟨nodes, read, joined⟩ := yields_contentWritten items
      (reading_end root.name.text (root.head.scan_endTag []))
    refine ⟨⟨root.name.text, root.head.tag.decodedAttributes, Node.joinCharacters none nodes,
      String.ofList (contentWritten items)⟩, ?_, rfl, attributes, ?_, ?_⟩
    · refine read_of_documentOf (by simp [written, Head.startTag]) ?_
      rw [written, row]
      exact .filled (List.nil_append _).symm (by simp) root.svg read
    · simpa [pendingOf, Root.items, content] using joined []
    · simp [Root.items, content]

end IconForge.Markup.Tree
