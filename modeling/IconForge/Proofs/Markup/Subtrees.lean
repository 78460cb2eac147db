import IconForge.Proofs.Markup.Content

/-!
# The lexemes of a child

The content of a root is read as a row of lexemes, and its nodes are stretches of that row, one
after the other. For an element the stretch is its subtree: the start tag, what is inside, and the
end tag that closes it, if one does. Which end tag that is only depends on how many elements are
open; names count for nothing.

## Main statements

- `contentOf_groups`: the nodes of a content are stretches of its lexemes.
- `DocumentOf.groups`: so are the children of a document.
-/

namespace IconForge.Markup

/-! ## Open elements -/

/-- How many elements are open after a row, with so many open before it. There is no such number if
an end tag comes where no element is open. -/
def openAfter : (opened : Nat) → List Lexeme → Option Nat
  | opened, [] => some opened
  | opened, (.startTag _, _) :: row => openAfter (opened + 1) row
  | 0, (.endTag _, _) :: _ => none
  | opened + 1, (.endTag _, _) :: row => openAfter opened row
  | opened, _ :: row => openAfter opened row

theorem openAfter_append (opened : Nat) (row more : List Lexeme) :
    openAfter opened (row ++ more) = (openAfter opened row).bind fun n => openAfter n more := by
  fun_induction openAfter opened row with
  | case1 => rfl
  | case3 => rfl
  | case2 opened tag lexeme row ih | case4 opened name lexeme row ih => exact ih
  | case5 opened l row noStart noEnd noClose ih =>
    obtain ⟨token, lexeme⟩ := l
    rw [List.cons_append, openAfter, ih]
    all_goals simp_all

/-- What is neither a start tag nor an end tag leaves the open elements as they are. -/
theorem openAfter_singleton {token : Token} (noStart : ∀ tag, token ≠ .startTag tag)
    (noEnd : ∀ name, token ≠ .endTag name) (opened : Nat) (lexeme : List Char) :
    openAfter opened [(token, lexeme)] = some opened := by
  cases token with
  | startTag tag => exact absurd rfl (noStart tag)
  | endTag name => exact absurd rfl (noEnd name)
  | _ => rfl

/-! ## Stretches of lexemes -/

/-- A stretch of lexemes is an element, and this is what is between its tags. -/
inductive Subtree : (group inside : List Lexeme) → Prop where
  | empty {tag : Tag} {lexeme : List Char} : Subtree [(.emptyTag tag, lexeme)] []
  /-- The end tag comes where all elements inside are closed. -/
  | closed {tag : Tag} {name : String} {lexeme endTag : List Char} {inside : List Lexeme}
      (balanced : openAfter 0 inside = some 0) :
      Subtree ((.startTag tag, lexeme) :: (inside ++ [(.endTag name, endTag)])) inside
  /-- The content of the root ends where the element is still open. -/
  | unclosed {tag : Tag} {lexeme : List Char} {inside : List Lexeme}
      (opened : (openAfter 0 inside).isSome) : Subtree ((.startTag tag, lexeme) :: inside) inside

/-- A node is made of a stretch of lexemes. -/
structure Spans (group : List Lexeme) (node : Node) : Prop where
  markup : node.markup = String.ofList (written group)
  element : node.kind = .element → ∃ inside, Subtree group inside ∧
    node.text = String.ofList (decodeText (written inside))

/-- An open element and the lexemes that have been read of it. -/
inductive Frame.ReadFrom (e : Frame) : List Lexeme → Prop where
  | intro {tag : Tag} {inside : List Lexeme} (name : e.name = tag.name)
      (inner : e.inner = written inside) (itself : e.nesting ≠ [])
      (nesting : openAfter 0 inside = some e.nesting.tail.length) :
      ReadFrom e ((.startTag tag, e.tag) :: inside)

namespace Frame.ReadFrom

variable {e : Frame} {read : List Lexeme}

/-- A start tag opens an element. -/
theorem started (tag : Tag) (lexeme : List Char) :
    ReadFrom ⟨tag.name, lexeme, [], [tag.name]⟩ [(.startTag tag, lexeme)] :=
  .intro rfl rfl (List.cons_ne_nil _ _) rfl

/-- The element goes on with a lexeme. -/
theorem extend (readFrom : e.ReadFrom read) (l : Lexeme) {nesting : List String}
    (itself : nesting ≠ [])
    (step : openAfter e.nesting.tail.length [l] = some nesting.tail.length) :
    (e.extend l.2 nesting).ReadFrom (read ++ [l]) := by
  obtain ⟨name, inner, -, opened⟩ := readFrom
  refine .intro name ?_ itself ?_
  · simp [Frame.extend, inner, written]
  · rw [List.append_eq, openAfter_append, opened]
    exact step

theorem span (readFrom : e.ReadFrom read) : e.span = written read := by
  obtain ⟨name, inner, -, -⟩ := readFrom
  simp [Frame.span, inner]

/-- The element ends without an end tag. -/
theorem spans_unclosed (readFrom : e.ReadFrom read) : Spans read (e.node []) := by
  constructor
  · rw [e.markup_node, readFrom.span, List.append_nil]
  · intro _
    obtain ⟨name, inner, -, opened⟩ := readFrom
    refine ⟨_, .unclosed (by simp [opened]), ?_⟩
    rw [← inner]
    rfl

/-- The element ends with the end tag that closes it. -/
theorem spans_closed (readFrom : e.ReadFrom read) (last : e.nesting.tail = []) (name : String)
    (endTag : List Char) : Spans (read ++ [(.endTag name, endTag)]) (e.node endTag) := by
  constructor
  · rw [e.markup_node, readFrom.span]
    simp
  · intro _
    obtain ⟨name, inner, -, opened⟩ := readFrom
    refine ⟨_, .closed (by rw [opened, last]; rfl), ?_⟩
    rw [← inner]
    rfl

end Frame.ReadFrom

/-- A token that is not of a start tag or an end tag is a node by itself. -/
theorem spans_nodeOf {token : Token} (noStart : ∀ tag, token ≠ .startTag tag) (lexeme : List Char) :
    Spans [(token, lexeme)] (nodeOf token (String.ofList lexeme)) := by
  constructor
  · simp [markup_nodeOf]
  · intro element
    cases token with
    | startTag tag => exact absurd rfl (noStart tag)
    | emptyTag tag =>
      refine ⟨[], .empty, ?_⟩
      simp [nodeOf, Node.text, decodeText, unescape, unescape?]
    | characters | cdata | comment => simp [nodeOf, Node.kind] at element
    | reference | instruction | doctype | endTag =>
      by_cases ampersand : lexeme.head? = some '&' <;>
        simp [nodeOf, ampersand, Node.kind] at element

/-! ## The nodes of a content -/

/-- What has been read of the element that is open, if one is. -/
def ReadSoFar : Option Frame → List Lexeme → Prop
  | none, read => read = []
  | some e, read => e.ReadFrom read

/-- The nodes of a content are stretches of the lexemes that make it up. -/
theorem contentOf_groups {root : String} {fault : Option Fault} {e : Option Frame}
    {row read : List Lexeme} {nodes : List Node} {inner : List Char}
    (h : contentOf root fault e row = .ok (nodes, inner)) (soFar : ReadSoFar e read) :
    ∃ groups rest, read ++ row = groups.flatten ++ rest ∧ List.Forall₂ Spans groups nodes := by
  fun_induction contentOf root fault e row generalizing nodes inner read with
  | case1 e =>
    obtain ⟨rfl, -⟩ := Prod.mk.inj (Except.ok.inj h)
    cases e with
    | none =>
      obtain rfl : read = [] := soFar
      exact ⟨[], [], rfl, .nil⟩
    | some e => exact ⟨[read], [], by simp, .cons soFar.spans_unclosed .nil⟩
  | case2 => simp at h
  | case3 tag lexeme row ih =>
    obtain rfl : read = [] := soFar
    obtain ⟨more, rest, reading, rfl, -⟩ := Reading.after_eq_ok h
    exact ih reading (Frame.ReadFrom.started tag lexeme)
  | case4 name lexeme row =>
    obtain rfl : read = [] := soFar
    obtain ⟨rfl, -⟩ := Prod.mk.inj (Except.ok.inj h)
    exact ⟨[], _, rfl, .nil⟩
  | case5 token lexeme row noStart _ ih =>
    obtain rfl : read = [] := soFar
    obtain ⟨more, inner', reading, rfl, -⟩ := Reading.after_eq_ok h
    obtain ⟨groups, rest, eq, spans⟩ := ih reading rfl
    refine ⟨[(token, lexeme)] :: groups, rest, ?_, .cons (spans_nodeOf noStart lexeme) spans⟩
    simpa using eq
  | case6 e tag lexeme row ih =>
    obtain ⟨more, inner', reading, rfl, -⟩ := Reading.after_eq_ok h
    have goesOn := soFar.extend (.startTag tag, lexeme) (List.cons_ne_nil tag.name e.nesting) (by
      obtain ⟨-, -, itself, -⟩ := id soFar
      have := List.length_pos_iff.mpr itself
      simp [openAfter]
      omega)
    simpa using ih reading goesOn
  | case7 e name lexeme row =>
    obtain ⟨rfl, -⟩ := Prod.mk.inj (Except.ok.inj h)
    exact ⟨[read], _, by simp; rfl, .cons soFar.spans_unclosed .nil⟩
  | case8 e name lexeme row _ last ih =>
    -- the element ends with this tag, and what comes after it is nobody's
    obtain ⟨more, inner', reading, rfl, -⟩ := Reading.after_eq_ok h
    obtain ⟨groups, rest, eq, spans⟩ := ih reading rfl
    refine ⟨(read ++ [(.endTag name, lexeme)]) :: groups, rest, ?_,
      .cons (soFar.spans_closed last name lexeme) spans⟩
    simpa using eq
  | case9 e name lexeme row _ opened ih =>
    obtain ⟨more, inner', reading, rfl, -⟩ := Reading.after_eq_ok h
    have filled : e.nesting.tail ≠ [] := fun last => opened last
    have goesOn := soFar.extend (.endTag name, lexeme) filled (by
      obtain ⟨n, eq⟩ := Nat.exists_eq_add_one.mpr (List.length_pos_iff.mpr filled)
      rw [eq, openAfter, openAfter, List.length_tail, eq]
      rfl)
    simpa using ih reading goesOn
  | case10 e token lexeme row noStart noEnd ih =>
    obtain ⟨more, inner', reading, rfl, -⟩ := Reading.after_eq_ok h
    obtain ⟨-, -, itself, -⟩ := id soFar
    have goesOn := soFar.extend (token, lexeme) itself (openAfter_singleton noStart noEnd _ _)
    simpa using ih reading goesOn

/-- Joining characters joins the stretches they are made of. `before` are the lexemes of those right
before the nodes. -/
theorem spans_joinCharacters {groups : List (List Lexeme)} {nodes : List Node}
    (spans : List.Forall₂ Spans groups nodes) {pending : Option String} {before : List Lexeme}
    (isPending : pending.getD "" = String.ofList (written before))
    (nothing : pending = none → before = []) :
    ∃ joined, before ++ groups.flatten = joined.flatten ∧
      List.Forall₂ Spans joined (Node.joinCharacters pending nodes) := by
  -- the characters before the next node that is none are one node
  have first : ∃ group, before = group.flatten ∧
      List.Forall₂ Spans group (pending.map Node.characters).toList := by
    cases pending with
    | none =>
      obtain rfl := nothing rfl
      exact ⟨[], rfl, .nil⟩
    | some chars =>
      refine ⟨[before], by simp, .cons ⟨isPending, ?_⟩ .nil⟩
      intro element
      simp [Node.kind] at element
  induction spans generalizing pending before with
  | nil =>
    obtain ⟨group, rfl, spans⟩ := first
    exact ⟨group, by simp, spans⟩
  | @cons group node groups nodes here spans ih =>
    by_cases text : ∃ more, node = .characters more
    · obtain ⟨more, rfl⟩ := text
      have isMore : more = String.ofList (written group) := here.markup
      have pending' : pending.getD "" ++ more = String.ofList (written (before ++ group)) := by
        rw [isPending, isMore, written_append, String.ofList_append]
      obtain ⟨joined, eq, spans⟩ := @ih (some (pending.getD "" ++ more)) _ pending' (by simp)
        ⟨[before ++ group], by simp, .cons ⟨pending', by simp [Node.kind]⟩ .nil⟩
      exact ⟨joined, by simpa using eq, spans⟩
    · obtain ⟨joined, eq, spans⟩ := @ih none [] rfl (by simp) ⟨[], rfl, .nil⟩
      obtain ⟨opening, rfl, last⟩ := first
      refine ⟨opening ++ group :: joined, by simpa using eq, ?_⟩
      rw [Node.joinCharacters]
      · exact List.rel_append last (.cons here spans)
      · simpa using text

/-- The children of a document are stretches of its lexemes, one after the other. -/
theorem DocumentOf.groups {row : List Lexeme} {fault : Option Fault} {doc : Document}
    (holds : DocumentOf row fault doc) :
    ∃ before groups rest, row = before ++ groups.flatten ++ rest ∧
      List.Forall₂ Spans groups doc.children := by
  cases holds with
  | @empty prolog rest tag lexeme first => exact ⟨row, [], [], by simp, .nil⟩
  | @filled prolog rest tag lexeme inner nodes first noTags svg content =>
    have nothing : ReadSoFar none [] := rfl
    obtain ⟨pieces, after, rfl, spans⟩ := contentOf_groups content nothing
    obtain ⟨groups, same, spans⟩ := @spans_joinCharacters _ _ spans none [] rfl fun _ => rfl
    rw [List.nil_append] at same
    refine ⟨prolog ++ [(.startTag tag, lexeme)], groups, after, ?_, spans⟩
    rw [first, ← same]
    simp

end IconForge.Markup
