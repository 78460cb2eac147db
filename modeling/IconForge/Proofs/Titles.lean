import IconForge.Icon.Attributes
import IconForge.Proofs.Markup.RoundTrip
import IconForge.Proofs.Markup.WellFormed

/-!
# Titles come back as they were meant

The title of an icon is an attribute of its root or an element directly inside it. Written there
with its special characters as references, or in a section if it is an element, any text is read
back, whatever else the root holds. Of the two titles the first counts that is more than blanks.

## Main definitions

- `TitleForm`: the ways to write a title element.
- `titledIcon`: the text of an icon with titles.

## Main statements

- `TitleForm.wellFormed`, `TitleForm.decodeText_written`: the content of a title element.
- `read_first_element`: a document whose first node is an element.
- `title_ofDocument`: which title of a document counts.
- `titles_survive_encoding`: both titles of an icon, and the one that counts.
-/

namespace IconForge

open IconForge.Markup IconForge.Text

/-! ## Title elements -/

/-- How a title is written as the content of an element. -/
inductive TitleForm (title : String) where
  | references
  | cdata (inside : ¬ "]]>".toList <:+: title.toList)

namespace TitleForm

variable {title : String}

def written : TitleForm title → List Char
  | references => Tree.escape title.toList
  | cdata _ => "<![CDATA[".toList ++ title.toList ++ "]]>".toList

theorem wellFormed (form : TitleForm title) : WellFormed form.written := by
  cases form with
  | references => exact wellFormed_of_not_mem (Tree.not_mem_escape (by simp) _)
  | cdata inside =>
    have scanned := Tree.scan_cdata inside []
    rw [List.append_nil] at scanned
    exact .of_scan scanned (by simp) (by simp) .nil

/-- The content of a title element says the title. -/
theorem decodeText_written (form : TitleForm title) : decodeText form.written = title.toList := by
  cases form with
  | references => exact Tree.decodeText_escape _
  | cdata inside =>
    have closed := Tree.splitAtFirst?_body inside []
    have text : (cdata inside).written = cdataOpening ++ (title.toList ++ "]]>".toList) :=
      List.append_assoc _ _ _
    rw [List.append_nil] at closed
    rw [text, decodeText_cdataOpening, skipMarkup_cdataOpening, closed, Option.getD_some,
      decodeText_nil, List.append_nil]

end TitleForm

/-! ## Documents -/

/-- A root in which an element comes first, before well-formed content. -/
theorem read_first_element (root head : Tree.Head) (svg : localName root.name.text = "svg")
    {inside more : List Char} (isContent : WellFormed inside) (goesOn : WellFormed more) :
    let content := head.startTag ++ inside ++ head.endTag ++ more
    ∃ nodes, Document.read (String.ofList (root.startTag ++ content ++ root.endTag)) =
      .ok ⟨root.name.text, root.tag.decodedAttributes,
        elementNode head.tag head.startTag inside head.endTag :: nodes,
        String.ofList content⟩ := by
  intro content
  have row := root.lexemes_element (isContent.element head goesOn) []
  have rowInside := head.lexemes_element isContent more
  obtain ⟨nodes, reads⟩ := goesOn.nested.outside root.tag.name
  -- the first node is the element, and the end tag of the root ends the content
  have read : contentOf root.tag.name none none
      ((lexemes content).1 ++ [(.endTag root.tag.name, root.endTag)]) =
      .ok (elementNode head.tag head.startTag inside head.endTag :: nodes, content) := by
    rw [rowInside, List.cons_append, List.append_assoc, List.cons_append,
      contentOf_element isContent.nested, reads, contentOf, isContent.written_lexemes,
      goesOn.written_lexemes]
    simp [Reading.after, content]
  refine ⟨Node.joinCharacters none nodes, Tree.read_of_documentOf rfl ?_⟩
  have text : root.startTag ++ content ++ root.endTag =
      root.startTag ++ content ++ root.endTag ++ [] := (List.append_nil _).symm
  have first : Node.joinCharacters none
      (elementNode head.tag head.startTag inside head.endTag :: nodes) =
      elementNode head.tag head.startTag inside head.endTag :: Node.joinCharacters none nodes := by
    rw [elementNode, Node.joinCharacters]
    · rfl
    · simp
  have none : lexemes [] = ([], Option.none) := lexemes_of_done rfl
  rw [text, row, none, ← first]
  exact .filled (List.nil_append _).symm (by simp) svg read

/-! ## Of two titles -/

theorem bind_condensedTitle? (given : Option String) :
    given.bind condensedTitle? = (given.toList.map withoutBlanks).find? (· != "") := by
  cases given with
  | none => rfl
  | some s =>
    rw [Option.bind_some, condensedTitle?]
    by_cases nothing : withoutBlanks s = "" <;> simp [nothing]

/-- The title of an icon is the first of the two in its document of which something is left without
its blanks. -/
theorem title_ofDocument (doc : Document) (defaults : SizeDefaults) :
    (IconAttributes.ofDocument doc defaults).title =
      (((doc.attribute? "title").toList ++ ((doc.childElement? "title").map Node.text).toList).map
        withoutBlanks).find? (· != "") := by
  have element : (doc.childElement? "title").bind (fun node => condensedTitle? node.text) =
      ((doc.childElement? "title").map Node.text).bind condensedTitle? := by
    rw [Option.bind_map]
    rfl
  rw [List.map_append, List.find?_append, ← bind_condensedTitle?, ← bind_condensedTitle?, ← element]
  rfl

/-! ## Icons -/

def svgName : Tree.Name := ⟨"svg".toList, by simp, by simp [Tree.isNameChar]⟩

def titleName : Tree.Name := ⟨"title".toList, by simp, by simp [Tree.isNameChar]⟩

theorem localName_svgName : localName svgName.text = "svg" := by decide +kernel

theorem localName_titleName : localName titleName.text = "title" := by decide +kernel

/-- The root of an icon, with a title attribute or without one. -/
def iconRoot (given : Option String) : Tree.Root where
  name := svgName
  svg := localName_svgName
  attributes := given.toList.map fun title => ⟨titleName, .double, title⟩
  content := none

/-- The tags of a title element. -/
def titleHead : Tree.Head := ⟨titleName, []⟩

/-- The text of an icon with a title element that comes first, and perhaps a title attribute. -/
def titledIcon (given : Option String) {title : String} (form : TitleForm title)
    (more : List Char) : List Char :=
  "<svg".toList ++
    (given.map fun s => " title=\"".toList ++ Tree.escape s.toList ++ "\"".toList).getD [] ++
    ">".toList ++ "<title>".toList ++ form.written ++ "</title>".toList ++ more ++ "</svg>".toList

theorem titledIcon_eq (given : Option String) {title : String} (form : TitleForm title)
    (more : List Char) :
    titledIcon given form more =
      (iconRoot given).head.startTag ++
        (titleHead.startTag ++ form.written ++ titleHead.endTag ++ more) ++
        (iconRoot given).head.endTag := by
  have opening : (iconRoot given).head.startTag = "<svg".toList ++
      (given.map fun s => " title=\"".toList ++ Tree.escape s.toList ++ "\"".toList).getD [] ++
      ">".toList := by
    cases given with
    | none => rfl
    | some s =>
      simp [iconRoot, svgName, titleName, Tree.Root.head, Tree.Head.startTag, Tree.Head.body,
        Tree.Attribute.written, Tree.RootAttribute.attribute, Tree.Quote.char]
  have closing : (iconRoot given).head.endTag = "</svg>".toList := rfl
  have startTag : titleHead.startTag = "<title>".toList := rfl
  have endTag : titleHead.endTag = "</title>".toList := rfl
  unfold titledIcon
  rw [opening, closing, startTag, endTag]
  simp only [List.append_assoc]

/-- The attributes of an icon are its title, if one is given there. -/
theorem decodedAttributes_iconRoot (given : Option String) :
    (iconRoot given).head.tag.decodedAttributes = given.toList.map (("title", ·)) := by
  have name : titleName.text = "title" := String.ofList_toList
  rw [Tree.Root.decodedAttributes_tag]
  cases given <;> simp [iconRoot, name]

/-- Whatever text a title is, it is read back from an attribute and from an element, and an icon has
the first of the two titles of which something is left without its blanks. -/
theorem titles_survive_encoding (given : Option String) {title : String}
    (form : TitleForm title) {more : List Char} (wellFormed : WellFormed more)
    (defaults : SizeDefaults) :
    ∃ doc, Document.read (String.ofList (titledIcon given form more)) = .ok doc ∧
      doc.attribute? "title" = given ∧
      (doc.childElement? "title").map Node.text = some title ∧
      (IconAttributes.ofDocument doc defaults).title =
        ((given.toList ++ [title]).map withoutBlanks).find? (· != "") := by
  have svg : localName (iconRoot given).head.name.text = "svg" := (iconRoot given).svg
  obtain ⟨nodes, read⟩ :=
    read_first_element (iconRoot given).head titleHead svg form.wellFormed wellFormed
  rw [← titledIcon_eq] at read
  refine ⟨_, read, ?_⟩
  generalize eq : Document.mk _ _ _ _ = doc
  have fromRoot : doc.attribute? "title" = given := by
    rw [← eq, Document.attribute?, decodedAttributes_iconRoot]
    cases given <;> simp
  have fromElement : (doc.childElement? "title").map Node.text = some title := by
    have named : localName titleHead.tag.name = "title" := localName_titleName
    simp [← eq, Document.childElement?, elementNode, Node.name?, named, Node.text,
      form.decodeText_written]
  exact ⟨fromRoot, fromElement, by rw [title_ofDocument, fromRoot, fromElement, Option.toList_some]⟩

/-- A title attribute of one blank does not count. The title of an element further inside, and the
title that comes second, are not the one that is meant. -/
theorem titles_survive_encoding_before_other_titles :
    let form : TitleForm "R <b> &amp;" := .cdata (by decide +kernel)
    let more := "<g a='>'><title>x</title ></g><title/>&amp;".toList
    WellFormed more ∧
      ∃ doc, Document.read (String.ofList (titledIcon (some " ") form more)) = .ok doc ∧
        doc.attribute? "title" = some " " ∧
        (doc.childElement? "title").map Node.text = some "R <b> &amp;" ∧
        (IconAttributes.ofDocument doc {}).title = some "R<b>&amp;" := by
  intro form more
  let inside : List Lexeme := [(.startTag ⟨"title", []⟩, "<title>".toList),
    (.characters, "x".toList), (.endTag "title", "</title >".toList)]
  let after : List Lexeme := [(.emptyTag ⟨"title", []⟩, "<title/>".toList),
    (.reference, "&amp;".toList)]
  have row : lexemes more = ((.startTag ⟨"g", " a='>'".toList⟩, "<g a='>'>".toList) ::
      (inside ++ (.endTag "g", "</g>".toList) :: after), none) := by decide +kernel
  have inner : Nested inside := .element (.mark (by simp) (by simp) .nil) .nil
  have later : Nested after := .mark (by simp) (by simp) (.mark (by simp) (by simp) .nil)
  have wellFormed : WellFormed more := ⟨by rw [row], by rw [row]; exact .element inner later⟩
  obtain ⟨doc, read, own, element, title⟩ :=
    titles_survive_encoding (some " ") form wellFormed {}
  exact ⟨wellFormed, doc, read, own, element, title.trans (by decide +kernel)⟩

end IconForge
