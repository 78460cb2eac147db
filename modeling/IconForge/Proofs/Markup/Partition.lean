import IconForge.Proofs.Markup.Content

/-!
# The children of a document are the pieces of its content

Whatever a text holds between the tags of its root, closed or not, nested well or not, the children
of the document that is read from it are its pieces: in a row they give the content back, none is
empty, and characters that follow each other are one child.

## Main statements

- `Document.read_partition`: a document that has been read, its children and its text.
-/

namespace IconForge.Markup

open IconForge.Text

/-! ## No node is empty -/

/-- Every node has markup. -/
def NoneEmpty (nodes : List Node) : Prop := ∀ node ∈ nodes, node.markup ≠ ""

theorem NoneEmpty.cons {node : Node} {nodes : List Node} (first : node.markup ≠ "")
    (more : NoneEmpty nodes) : NoneEmpty (node :: nodes) :=
  List.forall_mem_cons.mpr ⟨first, more⟩

theorem Frame.markup_node_ne {e : Frame} (tag : e.tag ≠ []) (endTag : List Char) :
    (e.node endTag).markup ≠ "" := by
  simp [markup_node, span, tag]

/-- The nodes of a content have markup, since lexemes have characters. -/
theorem noneEmpty_contentOf {root : String} {fault : Option Fault} {e : Option Frame}
    {row : List Lexeme} {nodes : List Node} {inner : List Char}
    (filled : ∀ l ∈ row, l.2 ≠ []) (tag : ∀ frame ∈ e, frame.tag ≠ [])
    (h : contentOf root fault e row = .ok (nodes, inner)) : NoneEmpty nodes := by
  fun_induction contentOf root fault e row generalizing nodes inner with
  | case1 e =>
    obtain ⟨rfl, -⟩ := Prod.mk.inj (Except.ok.inj h)
    cases e with
    | none => simp [NoneEmpty]
    | some e => simp [NoneEmpty, e.markup_node_ne (tag e rfl)]
  | case2 => simp at h
  | case3 t lexeme row ih =>
    obtain ⟨here, filled⟩ := List.forall_mem_cons.mp filled
    obtain ⟨more, inner', reading, rfl, -⟩ := Reading.after_eq_ok h
    exact ih filled (by simpa using here) reading
  | case4 name lexeme row =>
    obtain ⟨rfl, -⟩ := Prod.mk.inj (Except.ok.inj h)
    simp [NoneEmpty]
  | case5 token lexeme row _ _ ih =>
    obtain ⟨here, filled⟩ := List.forall_mem_cons.mp filled
    obtain ⟨more, inner', reading, rfl, -⟩ := Reading.after_eq_ok h
    refine .cons ?_ (ih filled tag reading)
    simpa [markup_nodeOf] using here
  | case6 e _ lexeme row ih | case9 e _ lexeme row _ _ ih | case10 e _ lexeme row _ _ ih =>
    -- the element goes on with the tag it has
    obtain ⟨-, filled⟩ := List.forall_mem_cons.mp filled
    obtain ⟨more, inner', reading, rfl, -⟩ := Reading.after_eq_ok h
    exact ih filled (by simpa [Frame.extend] using tag) reading
  | case7 e name lexeme row =>
    obtain ⟨rfl, -⟩ := Prod.mk.inj (Except.ok.inj h)
    exact .cons (e.markup_node_ne (tag e rfl) []) (by simp [NoneEmpty])
  | case8 e name lexeme row _ _ ih =>
    obtain ⟨-, filled⟩ := List.forall_mem_cons.mp filled
    obtain ⟨more, inner', reading, rfl, -⟩ := Reading.after_eq_ok h
    exact .cons (e.markup_node_ne (tag e rfl) lexeme) (ih filled (by simp) reading)

/-! ## Joining characters -/

/-- Joining leaves no node without markup. -/
theorem noneEmpty_joinCharacters {pending : Option String} {nodes : List Node}
    (before : ∀ markup ∈ pending, markup ≠ "") (filled : NoneEmpty nodes) :
    NoneEmpty (Node.joinCharacters pending nodes) := by
  fun_induction Node.joinCharacters pending nodes with
  | case1 pending => simpa [NoneEmpty, Node.markup] using before
  | case2 pending more nodes ih =>
    obtain ⟨first, filled⟩ := List.forall_mem_cons.mp filled
    refine ih ?_ filled
    -- what has been joined is no shorter than the characters that come last
    have : more ≠ "" := first
    simp [this]
  | case3 pending node nodes _ ih =>
    obtain ⟨first, filled⟩ := List.forall_mem_cons.mp filled
    intro child mem
    rcases List.mem_append.mp mem with mem | mem
    · obtain ⟨markup, here, rfl⟩ : ∃ markup, pending = some markup ∧
          .characters markup = child := by
        simpa using mem
      exact before markup here
    · exact (NoneEmpty.cons first (ih (by simp) filled)) child mem

/-- Two nodes that may follow each other: not both are characters. -/
def MayFollow (a b : Node) : Prop := ¬ (a.kind = .text ∧ b.kind = .text)

/-- After joining no two nodes of characters follow each other. -/
theorem isChain_joinCharacters (pending : Option String) (nodes : List Node) :
    (Node.joinCharacters pending nodes).IsChain MayFollow := by
  fun_induction Node.joinCharacters pending nodes with
  | case1 pending => cases pending <;> simp
  | case2 pending more nodes ih => exact ih
  | case3 pending node nodes other ih =>
    have noText : node.kind ≠ .text := by
      cases node with
      | characters markup => exact absurd rfl (other markup)
      | element | comment | other => simp [Node.kind]
    have chain : (node :: Node.joinCharacters none nodes).IsChain MayFollow :=
      ih.cons fun next _ both => noText both.1
    cases pending with
    | none => exact chain
    | some markup =>
      -- the characters that waited stand before a node that is none
      exact chain.cons fun next here both => by simp_all

/-! ## What nodes say -/

/-- Elements have a name, and no other nodes. -/
theorem Node.isSome_name?_iff (node : Node) : node.name?.isSome ↔ node.kind = .element := by
  cases node <;> simp [name?, kind]

/-- Characters say what their markup decodes to. -/
theorem Node.text_of_kind {node : Node} (h : node.kind = .text) :
    node.text = String.ofList (decodeText node.markup.toList) := by
  cases node with
  | characters markup => rfl
  | element | comment | other => simp [kind] at h

/-! ## Where a content ends -/

/-- End tags begin with a bracket and a slash. -/
theorem prefix_of_scan_endTag {cs lexeme rest : List Char} {name : String}
    (h : scan cs = .token (.endTag name) lexeme rest) : "</".toList <+: lexeme := by
  unfold scan at h
  split at h
  · simp at h
  · -- of what a bracket begins, only the slash makes an end tag
    unfold scanMarkup at h
    split at h
    · -- no construct after `<!` is an end tag
      unfold scanBang at h
      repeat' split at h
      all_goals simp at h
    · unfold scanInstruction at h
      repeat' split at h
      all_goals simp at h
    · split at h
      · obtain ⟨-, rfl, -⟩ := Scan.token.inj h
        exact ⟨_, (List.append_assoc _ _ _).symm⟩
      · simp at h
    · split at h
      · have := (Scan.token.inj h).1
        unfold Token.ofTagBody at this
        split at this <;> simp at this
      · simp at h
  · unfold scanAmpersand at h
    split at h <;> simp at h
  · simp at h

/-- So do those among the lexemes of a text. -/
theorem prefix_of_endTag_mem {cs : List Char} {name : String} {endTag : List Char}
    (mem : (Token.endTag name, endTag) ∈ (lexemes cs).1) : "</".toList <+: endTag := by
  obtain ⟨text, rest, h⟩ := exists_scan_of_mem mem
  exact prefix_of_scan_endTag h

/-! ## Documents -/

/-- The children of a document are the pieces of its content. -/
structure Partition (doc : Document) : Prop where
  /-- In a row they give the content back. -/
  complete : markupOf doc.children = doc.inner.toList
  noneEmpty : NoneEmpty doc.children
  /-- Characters that follow each other are one child. -/
  joined : doc.children.IsChain MayFollow
  named : ∀ child ∈ doc.children, child.name?.isSome ↔ child.kind = .element
  decoded : ∀ child ∈ doc.children, child.kind = .text →
    child.text = String.ofList (decodeText child.markup.toList)

/-- The content of a document stands in a text right after the tag of its root, the first tag of
all, and reaches to an end tag or to the end of the text. -/
inductive ContentIn (text : List Char) (doc : Document) : Prop where
  /-- An empty tag has no content. -/
  | empty {prolog rest : List Lexeme} {tag : Tag} {lexeme : List Char}
      (first : (lexemes text).1 = prolog ++ (.emptyTag tag, lexeme) :: rest)
      (noTags : ∀ l ∈ prolog, l.1.isTag = false) (root : doc.root = tag.name)
      (inner : doc.inner = "")
  | filled {prolog rest : List Lexeme} {tag : Tag} {lexeme after : List Char}
      (first : (lexemes text).1 = prolog ++ (.startTag tag, lexeme) :: rest)
      (noTags : ∀ l ∈ prolog, l.1.isTag = false) (root : doc.root = tag.name)
      (inner : text = written prolog ++ lexeme ++ doc.inner.toList ++ after)
      (ends : after = [] ∨ "</".toList <+: after)

/-- The children that come from a row of lexemes are the pieces of the content. -/
theorem DocumentOf.partition {row : List Lexeme} {fault : Option Fault} {doc : Document}
    (holds : DocumentOf row fault doc) (filled : ∀ l ∈ row, l.2 ≠ []) : Partition doc := by
  refine ⟨?_, ?_, ?_, fun child _ => child.isSome_name?_iff, fun child _ => Node.text_of_kind⟩
  · cases holds with
    | empty => rfl
    | filled first noTags svg content =>
      have kept := Node.markup_joinCharacters none
      simpa [markupOf, kept] using contentOf_markup content
  · cases holds with
    | empty => simp [NoneEmpty]
    | filled first noTags svg content =>
      refine noneEmpty_joinCharacters (by simp) (noneEmpty_contentOf ?_ (by simp) content)
      intro l mem
      exact filled l (by simp [first, mem])
  · cases holds with
    | empty => exact .nil
    | filled => exact isChain_joinCharacters none _

/-- The content that comes from the lexemes of a text stands in that text. -/
theorem DocumentOf.contentIn {text : List Char} {doc : Document}
    (holds : DocumentOf (lexemes text).1 (lexemes text).2 doc) : ContentIn text doc := by
  cases holds with
  | empty first noTags svg => exact .empty first noTags rfl rfl
  | @filled prolog rest tag lexeme inner nodes first noTags svg content =>
    obtain ⟨unread, parts, ends⟩ := flatten_lexemes text
    obtain ⟨inside, more, rfl, rfl, stops⟩ := contentOf_stops content
    have place : text = written prolog ++ lexeme ++ (String.ofList (written inside)).toList ++
        (written more ++ unread) := by
      conv_lhs => rw [parts, first]
      simp
    refine .filled first noTags rfl place ?_
    -- without a fault all of the text is read, so that nothing comes after its last lexeme
    rcases stops with ⟨rfl, noFault⟩ | ⟨name, endTag, more, rfl⟩
    · exact Or.inl (ends noFault)
    · have mem : (Token.endTag name, endTag) ∈ (lexemes text).1 := by simp [first]
      refine Or.inr ((prefix_of_endTag_mem mem).trans ⟨written more ++ unread, ?_⟩)
      simp

/-- Of a text that is read as a document, and does not begin with two byte order marks, the children
are the pieces of the content, which stands in the text right after the tag of the root. -/
theorem Document.read_partition {text : String} {doc : Document}
    (single : ¬ [byteOrderMark, byteOrderMark] <+: text.toList)
    (read : Document.read text = .ok doc) :
    Partition doc ∧ ContentIn (withoutMark text.toList) doc := by
  have holds := (Document.ofChars_ok_iff single).mp read
  exact ⟨holds.partition fun l mem => lexeme_ne_nil mem, holds.contentIn⟩

/-- A root that closes over an open element, with an element closed under another name, a reference
next to a section of character data and an ampersand that is none. -/
theorem Document.read_partition_lenient :
    let text := "&<p:svg>x&lt;<![CDATA[<]]><g><svg></svg></b>&<svg>t</p:svg>"
    ∃ doc, Document.read text = .ok doc ∧
      doc.children.map Node.markup =
        ["x&lt;<![CDATA[<]]>", "<g><svg></svg></b>", "&", "<svg>t"] ∧
      Partition doc ∧ ContentIn (withoutMark text.toList) doc := by
  intro text
  have markup : ((Document.read text).toOption.map fun doc => doc.children.map Node.markup) =
      some ["x&lt;<![CDATA[<]]>", "<g><svg></svg></b>", "&", "<svg>t"] := by
    decide +kernel
  cases read : Document.read text with
  | error e => simp [read, Except.toOption] at markup
  | ok doc =>
    rw [read] at markup
    exact ⟨doc, rfl, Option.some.inj markup, Document.read_partition (by decide +kernel) read⟩

end IconForge.Markup
