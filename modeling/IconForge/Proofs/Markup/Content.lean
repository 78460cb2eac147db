import IconForge.Proofs.Markup.Lexemes

/-!
# The content of a root, without places

`contentOf` reads the content of a root from a row of lexemes alone: no offset, no text to cut
from. Of an element that is being read it keeps the characters of its start tag and of what has been
read of its content. `content_place` says that this is how documents are read: wherever the lexemes
stand in a text, every cut by places gives the characters that `contentOf` has kept.

A text with two byte order marks at its front is the exception, as its places are not those of the
lexemes. `Document.ofChars_ok_iff` states the outcome for all other texts.

## Main statements

- `content_place`: reading by places is reading lexemes.
- `Document.ofChars_ok_iff`: what document a text holds, if it holds one.
-/

namespace IconForge.Markup

open IconForge.Text

/-! ## Elements that are being read -/

/-- An element directly inside the root whose end has not been reached. -/
structure Frame where
  name : String
  /-- Its start tag as written. -/
  tag : List Char
  /-- What has been read of its content. -/
  inner : List Char
  /-- The names of the elements open in it, itself included, the innermost first. -/
  nesting : List String

namespace Frame

/-- What has been read of an element. -/
def span (e : Frame) : List Char := e.tag ++ e.inner

/-- The element goes on with some characters, after which these elements are open in it. -/
def extend (e : Frame) (lexeme : List Char) (nesting : List String) : Frame :=
  { e with inner := e.inner ++ lexeme, nesting := nesting }

/-- The node of an element that ends with this end tag, or without one. -/
def node (e : Frame) (endTag : List Char) : Node :=
  .element e.name (String.ofList (e.span ++ endTag)) (String.ofList (decodeText e.inner))

/-- The element, standing after some characters, with its places. -/
def opened (e : Frame) (outside : List Char) : OpenElement :=
  ⟨e.name, byteSize outside, byteSize (outside ++ e.tag), e.nesting⟩

@[simp] theorem extend_span (e : Frame) (lexeme : List Char) (nesting : List String) :
    (e.extend lexeme nesting).span = e.span ++ lexeme := by
  simp [extend, span]

theorem markup_node (e : Frame) (endTag : List Char) :
    (e.node endTag).markup = String.ofList (e.span ++ endTag) := rfl

/-- Closing an element cuts what has been read of it. -/
theorem opened_close (e : Frame) (outside endTag after : List Char) :
    (e.opened outside).close (String.ofList (outside ++ e.span ++ endTag ++ after))
      (byteSize (outside ++ e.span)) (byteSize (outside ++ e.span ++ endTag)) =
        .ok (e.node endTag) := by
  have inner := cut_middle (outside ++ e.tag) e.inner (endTag ++ after)
  have markup := cut_middle outside (e.span ++ endTag) after
  simp only [span, List.append_assoc] at inner markup ⊢
  simp only [OpenElement.close, opened, List.append_assoc, inner, markup, bind, Except.bind,
    pure, Except.pure, node, span, String.toList_ofList]

end Frame

/-! ## Content from lexemes -/

/-- What content comes to: its nodes and its characters, or the fault and what has been read before
it. -/
abbrev Reading := Except (Fault × List Char) (List Node × List Char)

namespace Reading

/-- Some characters, and the nodes that they complete, come before. -/
def after (nodes : List Node) (lexeme : List Char) : Reading → Reading
  | .ok (more, inner) => .ok (nodes ++ more, lexeme ++ inner)
  | .error (fault, read) => .error (fault, lexeme ++ read)

/-- The nodes and where the content ends, for content that begins at an offset. -/
def placed (offset : Nat) : Reading → Except Halt (List Node × Nat)
  | .ok (nodes, inner) => .ok (nodes, offset + byteSize inner)
  | .error (fault, read) => .error (.malformed (.faulty fault (offset + byteSize read)))

/-- Placing what comes after some characters that complete no node. -/
theorem placed_after_nil (offset : Nat) (lexeme : List Char) (reading : Reading) :
    (reading.after [] lexeme).placed offset = reading.placed (offset + byteSize lexeme) := by
  rcases reading with ⟨fault, read⟩ | ⟨nodes, inner⟩ <;> simp [after, placed, Nat.add_assoc]

/-- Placing what comes after some characters that complete a node. -/
theorem placed_after_singleton (offset : Nat) (node : Node) (lexeme : List Char)
    (reading : Reading) :
    (reading.after [node] lexeme).placed offset =
      (reading.placed (offset + byteSize lexeme)).bind fun (nodes, stop) =>
        .ok (node :: nodes, stop) := by
  rcases reading with ⟨fault, read⟩ | ⟨nodes, inner⟩ <;>
    simp [after, placed, Except.bind, Nat.add_assoc]

theorem after_nil_nil (reading : Reading) : reading.after [] [] = reading := by
  rcases reading with ⟨fault, read⟩ | ⟨nodes, inner⟩ <;> rfl

theorem after_after (nodes more : List Node) (first second : List Char) (reading : Reading) :
    (reading.after more second).after nodes first =
      reading.after (nodes ++ more) (first ++ second) := by
  rcases reading with ⟨fault, read⟩ | ⟨nodes', inner⟩ <;> simp [after]

theorem after_eq_ok {before nodes : List Node} {lexeme inner : List Char} {reading : Reading}
    (h : reading.after before lexeme = .ok (nodes, inner)) :
    ∃ more rest, reading = .ok (more, rest) ∧ nodes = before ++ more ∧ inner = lexeme ++ rest := by
  rcases reading with ⟨fault, read⟩ | ⟨more, rest⟩
  · simp [after] at h
  · obtain ⟨rfl, rfl⟩ := Prod.mk.inj (Except.ok.inj h)
    exact ⟨more, rest, rfl, rfl, rfl⟩

end Reading

/-- Reads the content of the root `root` from lexemes, which a fault may end. -/
def contentOf (root : String) (fault : Option Fault) : Option Frame → List Lexeme → Reading
  | e, [] =>
    match fault with
    | none => .ok ((e.map fun e => e.node []).toList, [])
    | some fault => .error (fault, [])
  | none, (.startTag tag, lexeme) :: row =>
    (contentOf root fault (some ⟨tag.name, lexeme, [], [tag.name]⟩) row).after [] lexeme
  | none, (.endTag _, _) :: _ => .ok ([], [])
  | none, (token, lexeme) :: row =>
    (contentOf root fault none row).after [nodeOf token (String.ofList lexeme)] lexeme
  | some e, (.startTag tag, lexeme) :: row =>
    (contentOf root fault (some (e.extend lexeme (tag.name :: e.nesting))) row).after [] lexeme
  | some e, (.endTag name, lexeme) :: row =>
    if name = root ∧ name ∉ e.nesting then .ok ([e.node []], [])
    else
      match e.nesting.tail with
      | [] => (contentOf root fault none row).after [e.node lexeme] lexeme
      | nesting => (contentOf root fault (some (e.extend lexeme nesting)) row).after [] lexeme
  | some e, (_, lexeme) :: row =>
    (contentOf root fault (some (e.extend lexeme e.nesting)) row).after [] lexeme

/-- An end tag with the name of the innermost open element ends that element. -/
theorem contentOf_endTag {root : String} {fault : Option Fault} {e : Frame} {name : String}
    {outer : List String} {endTag : List Char} {row : List Lexeme}
    (nesting : e.nesting = name :: outer) :
    contentOf root fault (some e) ((.endTag name, endTag) :: row) =
      if outer = [] then (contentOf root fault none row).after [e.node endTag] endTag
      else (contentOf root fault (some (e.extend endTag outer)) row).after [] endTag := by
  have isOpen : ¬ (name = root ∧ name ∉ e.nesting) := by simp [nesting]
  rw [contentOf, if_neg isOpen, nesting, List.tail_cons]
  cases outer <;> rfl

/-! ## Content is the markup of its nodes -/

/-- The node of a token has the characters of the token for its markup. -/
theorem markup_nodeOf (token : Token) (markup : String) :
    (nodeOf token markup).markup = markup := by
  unfold nodeOf
  split
  · rfl
  · rfl
  · rfl
  · rfl
  · split <;> rfl

/-- The characters of some nodes in a row. -/
def markupOf (nodes : List Node) : List Char := nodes.flatMap fun node => node.markup.toList

@[simp] theorem markupOf_cons (node : Node) (nodes : List Node) :
    markupOf (node :: nodes) = node.markup.toList ++ markupOf nodes := rfl

/-- The nodes of a content make up what has been read of an open element and the content itself. -/
theorem contentOf_markup {root : String} {fault : Option Fault} {e : Option Frame}
    {row : List Lexeme} {nodes : List Node} {inner : List Char}
    (h : contentOf root fault e row = .ok (nodes, inner)) :
    markupOf nodes = ((e.map Frame.span).getD []) ++ inner := by
  fun_induction contentOf root fault e row generalizing nodes inner with
  | case1 e =>
    obtain ⟨rfl, rfl⟩ := Prod.mk.inj (Except.ok.inj h)
    cases e <;> simp [markupOf, Frame.markup_node]
  | case2 => simp at h
  | case3 tag lexeme row ih =>
    obtain ⟨more, rest, reading, rfl, rfl⟩ := Reading.after_eq_ok h
    simpa [Frame.span] using ih reading
  | case4 name lexeme row =>
    obtain ⟨rfl, rfl⟩ := Prod.mk.inj (Except.ok.inj h)
    rfl
  | case5 token lexeme row _ _ ih =>
    obtain ⟨more, rest, reading, rfl, rfl⟩ := Reading.after_eq_ok h
    simp only [List.singleton_append, markupOf_cons, markup_nodeOf, String.toList_ofList,
      ih reading]
    rfl
  | case6 e tag lexeme row ih | case9 e name lexeme row _ _ ih | case10 e token lexeme row _ _ ih =>
    -- the element goes on
    obtain ⟨more, rest, reading, rfl, rfl⟩ := Reading.after_eq_ok h
    simpa using ih reading
  | case7 e name lexeme row =>
    obtain ⟨rfl, rfl⟩ := Prod.mk.inj (Except.ok.inj h)
    simp [markupOf, Frame.markup_node]
  | case8 e name lexeme row _ _ ih =>
    -- the element ends with this tag, and what comes after it is nobody's
    obtain ⟨more, rest, reading, rfl, rfl⟩ := Reading.after_eq_ok h
    simp [Frame.markup_node, ih reading]

/-- The content is the lexemes up to their end, which is not a fault, or up to an end tag. -/
theorem contentOf_stops {root : String} {fault : Option Fault} {e : Option Frame}
    {row : List Lexeme} {nodes : List Node} {inner : List Char}
    (h : contentOf root fault e row = .ok (nodes, inner)) :
    ∃ content rest, row = content ++ rest ∧ inner = written content ∧
      ((rest = [] ∧ fault = none) ∨ ∃ name endTag more, rest = (.endTag name, endTag) :: more) := by
  fun_induction contentOf root fault e row generalizing nodes inner with
  | case1 e ends =>
    obtain ⟨-, rfl⟩ := Prod.mk.inj (Except.ok.inj h)
    exact ⟨[], [], rfl, rfl, Or.inl ⟨rfl, ends⟩⟩
  | case2 => simp at h
  | case3 _ lexeme row ih | case5 _ lexeme row _ _ ih | case6 _ _ lexeme row ih
  | case8 _ _ lexeme row _ _ ih | case9 _ _ lexeme row _ _ ih | case10 _ _ lexeme row _ _ ih =>
    -- the lexeme belongs to the content
    obtain ⟨more, inner', reading, -, rfl⟩ := Reading.after_eq_ok h
    obtain ⟨content, rest, rfl, rfl, stops⟩ := ih reading
    exact ⟨(_, lexeme) :: content, rest, rfl, rfl, stops⟩
  | case4 name lexeme row | case7 e name lexeme row =>
    obtain ⟨-, rfl⟩ := Prod.mk.inj (Except.ok.inj h)
    exact ⟨[], _, rfl, rfl, Or.inr ⟨name, lexeme, row, rfl⟩⟩

/-! ## Reading by places -/

/-- An open element and the characters before it make up what comes before the rest. -/
def StandsAfter (e : Option Frame) (before : List Char) (opened : Option OpenElement) : Prop :=
  match e with
  | none => opened = none
  | some e => ∃ outside, before = outside ++ e.span ∧ opened = some (e.opened outside)

theorem StandsAfter.extend {e : Frame} {before : List Char} {opened : OpenElement}
    (stands : StandsAfter (some e) before (some opened)) (lexeme : List Char)
    (nesting : List String) :
    StandsAfter (some (e.extend lexeme nesting)) (before ++ lexeme)
      (some { opened with nesting := nesting }) := by
  obtain ⟨outside, rfl, eq⟩ := stands
  obtain rfl := Option.some.inj eq
  exact ⟨outside, by simp, rfl⟩

/-- Closing an element that stands right before its end tag. -/
theorem StandsAfter.close {e : Frame} {before : List Char} {opened : OpenElement}
    (stands : StandsAfter (some e) before (some opened)) (endTag after : List Char) :
    opened.close (String.ofList (before ++ endTag ++ after)) (byteSize before)
      (byteSize (before ++ endTag)) = .ok (e.node endTag) := by
  obtain ⟨outside, rfl, eq⟩ := stands
  obtain rfl := Option.some.inj eq
  exact e.opened_close outside endTag after

/-- At the end of the lexemes an open element ends with the text, if no fault is there. -/
theorem content_place_nil (root : String) (fault : Option Fault) {e : Option Frame}
    {opened : Option OpenElement} {before unread : List Char} (ends : fault = none → unread = [])
    (stands : StandsAfter e before opened) :
    (Tokens.place fault (byteSize before) []).content (String.ofList (before ++ unread)) root
        opened =
      (contentOf root fault e []).placed (byteSize before) := by
  cases fault with
  | some fault => cases e <;> simp [Tokens.place, Tokens.content, contentOf, Reading.placed]
  | none =>
    obtain rfl := ends rfl
    rw [List.append_nil]
    cases e with
    | none =>
      obtain rfl : opened = none := stands
      simp [Tokens.place, Tokens.content, contentOf, Reading.placed, utf8ByteSize_ofList]
    | some e =>
      obtain ⟨outside, rfl, rfl⟩ := stands
      have closed := e.opened_close outside [] []
      simp only [List.append_nil] at closed
      simp only [Tokens.place, Tokens.content, contentOf, Reading.placed, utf8ByteSize_ofList,
        closed]
      simp [bind, Except.bind, pure, Except.pure]

/-- An end tag within an open element, if what comes after it is read right. -/
theorem content_next_endTag {root name : String} {fault : Option Fault} {e : Frame}
    {outside before lexeme after : List Char} {row : List Lexeme} {rest : Tokens}
    (stands : StandsAfter (some e) before (some (e.opened outside)))
    (closed : rest.content (String.ofList (before ++ lexeme ++ after)) root none =
      (contentOf root fault none row).placed (byteSize before + byteSize lexeme))
    (goesOn : ∀ nesting, rest.content (String.ofList (before ++ lexeme ++ after)) root
        (some { e.opened outside with nesting := nesting }) =
      (contentOf root fault (some (e.extend lexeme nesting)) row).placed
        (byteSize before + byteSize lexeme)) :
    (Tokens.next (.endTag name) (byteSize before) (byteSize before + byteSize lexeme) rest).content
        (String.ofList (before ++ lexeme ++ after)) root (some (e.opened outside)) =
      (contentOf root fault (some e) ((.endTag name, lexeme) :: row)).placed (byteSize before) := by
  have last := stands.close [] (lexeme ++ after)
  have ended := stands.close lexeme after
  rw [List.append_nil, ← List.append_assoc] at last
  rw [byteSize_append] at ended
  have same : (e.opened outside).nesting = e.nesting := rfl
  rw [Tokens.content, contentOf, same]
  by_cases rootEnds : name = root ∧ name ∉ e.nesting
  · -- the end tag of the root closes the element, and stays outside of it
    rw [if_pos rootEnds, if_pos rootEnds, last]
    simp [bind, Except.bind, pure, Except.pure, Reading.placed]
  · rw [if_neg rootEnds, if_neg rootEnds]
    cases e.nesting.tail with
    | nil =>
      simp only [Reading.placed_after_singleton, ← closed]
      rw [ended]
      rfl
    | cons outer nesting =>
      rw [Reading.placed_after_nil]
      exact goesOn _

/-- Reading the content of a root by places is reading its lexemes. -/
theorem content_place (root : String) (fault : Option Fault) (row : List Lexeme)
    (e : Option Frame) (opened : Option OpenElement) (before unread : List Char)
    (ends : fault = none → unread = []) (stands : StandsAfter e before opened) :
    (Tokens.place fault (byteSize before) row).content
        (String.ofList (before ++ written row ++ unread)) root opened =
      (contentOf root fault e row).placed (byteSize before) := by
  induction row generalizing e opened before with
  | nil =>
    rw [written_nil, List.append_nil]
    exact content_place_nil root fault ends stands
  | cons l row ih =>
    obtain ⟨token, lexeme⟩ := l
    have text : before ++ written ((token, lexeme) :: row) ++ unread =
        before ++ lexeme ++ (written row ++ unread) := by simp
    rw [text, Tokens.place]
    -- the rest stands after the characters before it and this lexeme
    have step (e' : Option Frame) (opened' : Option OpenElement)
        (stands' : StandsAfter e' (before ++ lexeme) opened') :
        (Tokens.place fault (byteSize before + byteSize lexeme) row).content
            (String.ofList (before ++ lexeme ++ (written row ++ unread))) root opened' =
          (contentOf root fault e' row).placed (byteSize before + byteSize lexeme) := by
      have := ih e' opened' (before ++ lexeme) stands'
      rwa [byteSize_append, List.append_assoc (before ++ lexeme)] at this
    cases e with
    | none =>
      obtain rfl : opened = none := stands
      cases token with
      | startTag tag =>
        rw [Tokens.content, contentOf, Reading.placed_after_nil]
        exact step _ _ ⟨before, by simp [Frame.span], by simp [Frame.opened]⟩
      | endTag name =>
        -- outside of elements any end tag ends the content
        simp [Tokens.content, contentOf, Reading.placed]
      | emptyTag | characters | reference | cdata | comment | instruction | doctype =>
        have here := cut_middle before lexeme (written row ++ unread)
        rw [byteSize_append] at here
        simp only [Tokens.content, contentOf, Reading.placed_after_singleton, here,
          step none none rfl]
        rfl
    | some e =>
      obtain ⟨outside, -, rfl⟩ := id stands
      cases token with
      | startTag tag =>
        rw [Tokens.content, contentOf, Reading.placed_after_nil]
        exact step _ _ (stands.extend lexeme _)
      | endTag name =>
        exact content_next_endTag stands (step none none rfl) fun nesting =>
          step _ _ (stands.extend lexeme nesting)
      | emptyTag | characters | reference | cdata | comment | instruction | doctype =>
        rw [Tokens.content, contentOf, Reading.placed_after_nil]
        · exact step _ _ (stands.extend lexeme _)
        all_goals simp

/-! ## Documents -/

/-- A text that does not begin with two byte order marks is read from its first character that is no
mark. -/
theorem withoutMark_withoutMark {text : List Char}
    (single : ¬ [byteOrderMark, byteOrderMark] <+: text) :
    withoutMark (withoutMark text) = withoutMark text := by
  cases text with
  | nil => rfl
  | cons c cs =>
    by_cases first : c = byteOrderMark
    · -- the first mark goes, and a second one is ruled out
      cases cs with
      | nil => simp [withoutMark, first]
      | cons d ds =>
        have second : d ≠ byteOrderMark := by
          rintro rfl
          exact single ⟨ds, by rw [first]; rfl⟩
        simp [withoutMark, first, second]
    · simp [withoutMark, first]

/-- What a row of lexemes, which a fault may end, says as a document: its first tag is that of an
`svg` root, and what follows it is the content. -/
inductive DocumentOf (row : List Lexeme) (fault : Option Fault) : Document → Prop where
  /-- The root is an empty tag. -/
  | empty {prolog rest : List Lexeme} {tag : Tag} {lexeme : List Char}
      (first : row = prolog ++ (.emptyTag tag, lexeme) :: rest)
      (noTags : ∀ l ∈ prolog, l.1.isTag = false) (svg : localName tag.name = "svg") :
      DocumentOf row fault ⟨tag.name, tag.decodedAttributes, [], ""⟩
  | filled {prolog rest : List Lexeme} {tag : Tag} {lexeme inner : List Char} {nodes : List Node}
      (first : row = prolog ++ (.startTag tag, lexeme) :: rest)
      (noTags : ∀ l ∈ prolog, l.1.isTag = false) (svg : localName tag.name = "svg")
      (content : contentOf tag.name fault none rest = .ok (nodes, inner)) :
      DocumentOf row fault ⟨tag.name, tag.decodedAttributes, Node.joinCharacters none nodes,
        String.ofList inner⟩

/-- What follows the start tag of a root that begins after some characters is read as a document, or
not, by its lexemes. -/
theorem filled_place {chars before unread : List Char} {fault : Option Fault} {rest : List Lexeme}
    (tag : Tag) (text : chars = before ++ written rest ++ unread)
    (ends : fault = none → unread = []) :
    (do
      let (nodes, stop) ← (Tokens.place fault (byteSize before) rest).content
        (String.ofList chars) tag.name none
      let inner ← cut (String.ofList chars) (byteSize before) stop
      let children := Node.joinCharacters none nodes
      return (⟨tag.name, tag.decodedAttributes, children, inner⟩ : Document)) =
    match contentOf tag.name fault none rest with
    | .ok (nodes, inner) => .ok ⟨tag.name, tag.decodedAttributes, Node.joinCharacters none nodes,
        String.ofList inner⟩
    | .error (fault, read) =>
      .error (.malformed (.faulty fault (byteSize before + byteSize read))) := by
  rw [text, content_place tag.name fault rest none none before unread ends rfl]
  cases reading : contentOf tag.name fault none rest with
  | error e => rfl
  | ok result =>
    obtain ⟨nodes, inner⟩ := result
    -- the content is the front of what follows the tag
    obtain ⟨content, more, rfl, rfl, -⟩ := contentOf_stops reading
    have cutInner := cut_middle before (written content) (written more ++ unread)
    rw [byteSize_append, ← List.append_assoc, List.append_assoc before, ← written_append]
      at cutInner
    simp only [Reading.placed, bind, Except.bind, cutInner, pure, Except.pure]

/-- The document that a text holds is what its lexemes say. -/
theorem Document.ofChars_ok_iff {text : List Char}
    (single : ¬ [byteOrderMark, byteOrderMark] <+: text) {doc : Document} :
    Document.ofChars text = .ok doc ↔
      DocumentOf (lexemes (withoutMark text)).1 (lexemes (withoutMark text)).2 doc := by
  obtain ⟨unread, parts, ends⟩ := flatten_lexemes (withoutMark text)
  generalize rowEq : (lexemes (withoutMark text)).1 = row at parts ⊢
  generalize faultEq : (lexemes (withoutMark text)).2 = fault at ends ⊢
  rw [Document.ofChars]
  simp only [withoutMark_withoutMark single, Tokens.ofChars_eq_place, rowEq, faultEq]
  generalize withoutMark text = chars at parts
  -- what a start tag and the lexemes after it come to
  have filled {prolog rest : List Lexeme} {tag : Tag} {lexeme : List Char}
      (first : row = prolog ++ (.startTag tag, lexeme) :: rest) :=
    have text : chars = (written prolog ++ lexeme) ++ written rest ++ unread := by
      rw [parts, first]
      simp
    filled_place tag text ends
  constructor
  · intro h
    cases found : (Tokens.place fault 0 row).root (String.ofList chars) with
    | error e => simp [found, Except.mapError, bind, Except.bind] at h
    | ok root =>
      obtain ⟨tag, content⟩ := root
      obtain ⟨prolog, lexeme, rest, svg, noTags, ⟨first, rfl⟩ | ⟨first, rfl⟩⟩ :=
        Tokens.root_place.mp found
      · -- the content was read and cut without an error
        rw [found, Nat.zero_add] at h
        have read : _ = Except.ok doc := (filled first).symm.trans h
        cases content : contentOf tag.name fault none rest with
        | error e => simp [content] at read
        | ok result =>
          obtain rfl := Except.ok.inj (by simpa only [content] using read)
          exact .filled first noTags svg content
      · obtain rfl : _ = doc := by
          simpa [found, Except.mapError, bind, Except.bind, pure, Except.pure] using h
        exact .empty first noTags svg
  · intro h
    cases h with
    | @empty prolog rest tag lexeme first noTags svg =>
      have found : (Tokens.place fault 0 row).root (String.ofList chars) = .ok (tag, none) :=
        Tokens.root_place.mpr ⟨prolog, lexeme, rest, svg, noTags, Or.inr ⟨first, rfl⟩⟩
      simp [found, Except.mapError, bind, Except.bind, pure, Except.pure]
    | @filled prolog rest tag lexeme inner nodes first noTags svg content =>
      let stop := 0 + byteSize (written prolog ++ lexeme)
      have found : (Tokens.place fault 0 row).root (String.ofList chars) =
          .ok (tag, some (stop, .place fault stop rest)) :=
        Tokens.root_place.mpr ⟨prolog, lexeme, rest, svg, noTags, Or.inl ⟨first, rfl⟩⟩
      have read := filled first
      simp only [content] at read
      rw [found, show stop = _ from Nat.zero_add _]
      exact read

end IconForge.Markup
