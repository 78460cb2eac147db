import IconForge.Proofs.Markup.Locality
import IconForge.Proofs.Markup.Scanning

/-!
# Well-formed content

A text is well-formed content if all of it can be read and its tags come in pairs, each end tag with
the name of the start tag that it ends. How such a text is read depends neither on what is around it
nor on the name of the root: before a bracket its lexemes are what they are by themselves, an open
element goes on with it, and directly inside a root it comes to nodes of its own.

An element with such a content is one node of a root, which says what its content says.

## Main statements

- `lexemes_append_bracket`: the lexemes of a text, when a bracket follows.
- `Nested.within`, `Nested.outside`: how nested lexemes are read.
- `contentOf_element`: an element directly inside a root.
- `wellFormed_of_not_mem`, `wellFormed_contentWritten`: text, and what trees are written as.
-/

namespace IconForge.Markup

open IconForge.Text

/-! ## Lexemes before a bracket -/

section Followed

variable {cs lexeme rest : List Char} {token : Token}

/-- A run of characters ends before a character that is not of its class. -/
theorem span_before {p : Char → Bool} {c : Char} (stops : p c = false) (cs more : List Char) :
    (cs ++ c :: more).takeWhile p = cs.takeWhile p ∧
      (cs ++ c :: more).dropWhile p = cs.dropWhile p ++ c :: more := by
  by_cases ends : cs.dropWhile p = []
  · have inside : ∀ d ∈ cs, p d = true := by simpa using ends
    rw [List.takeWhile_append_of_pos inside, List.dropWhile_append_of_pos inside, ends,
      List.takeWhile_eq_self_iff.mpr inside]
    simp [stops]
  · exact span_followed ends _

theorem scanAmpersand_before_bracket (h : scanAmpersand cs = .token token lexeme rest)
    (more : List Char) :
    scanAmpersand (cs ++ '<' :: more) = .token token lexeme (rest ++ '<' :: more) := by
  obtain ⟨taken, dropped⟩ := span_before (show isInReference '<' = false by decide) cs more
  unfold scanAmpersand at h ⊢
  rw [taken, dropped]
  split at h
  · rename_i eq
    obtain ⟨rfl, rfl, rfl⟩ := Scan.token.inj h
    rw [eq]
    rfl
  · rename_i noReference
    obtain ⟨rfl, rfl, rfl⟩ := Scan.token.inj h
    -- neither the bracket nor what was there before it is a semicolon
    cases later : cs.dropWhile isInReference with
    | nil => rfl
    | cons c after =>
      have other : c ≠ ';' := by
        rintro rfl
        exact noReference after later
      simp [other]

/-- A token that is read is the same before a bracket. -/
theorem scan_before_bracket (h : scan cs = .token token lexeme rest) (more : List Char) :
    scan (cs ++ '<' :: more) = .token token lexeme (rest ++ '<' :: more) := by
  unfold scan at h
  split at h
  · simp at h
  · rw [List.cons_append, scan]
    exact scanMarkup_followed h _
  · rw [List.cons_append, scan]
    exact scanAmpersand_before_bracket h more
  · rename_i filled noMarkup noAmpersand
    obtain ⟨rfl, rfl, rfl⟩ := Scan.token.inj h
    obtain ⟨taken, dropped⟩ := span_before (show isPlain '<' = false by decide) cs more
    cases cs with
    | nil => exact absurd rfl filled
    | cons c cs =>
      rw [← taken, ← dropped, List.cons_append, scan]
      all_goals simp_all

end Followed

/-- A text that can be read has the same lexemes before a bracket, and what follows is read by
itself. -/
theorem lexemes_append_bracket {cs : List Char} (noFault : (lexemes cs).2 = none)
    (more : List Char) :
    lexemes (cs ++ '<' :: more) =
      ((lexemes cs).1 ++ (lexemes ('<' :: more)).1, (lexemes ('<' :: more)).2) := by
  induction cs using lexemes.induct with
  | case1 cs h =>
    rw [lexemes_of_done h, eq_nil_of_scan_done h]
    rfl
  | case2 cs fault h => simp [lexemes_of_fault h] at noFault
  | case3 cs token lexeme rest h _ ih =>
    rw [lexemes_of_token h] at noFault
    rw [lexemes_of_token (scan_before_bracket h more), lexemes_of_token h, ih noFault]
    rfl

/-! ## Nested lexemes -/

/-- A row of lexemes in which the tags come in pairs, each with one name. -/
inductive Nested : List Lexeme → Prop where
  | nil : Nested []
  /-- A lexeme that is neither a start tag nor an end tag. -/
  | mark {token : Token} {lexeme : List Char} {row : List Lexeme}
      (noStart : ∀ tag, token ≠ .startTag tag) (noEnd : ∀ name, token ≠ .endTag name)
      (later : Nested row) : Nested ((token, lexeme) :: row)
  | element {tag : Tag} {lexeme endTag : List Char} {inside row : List Lexeme}
      (inner : Nested inside) (later : Nested row) :
      Nested ((.startTag tag, lexeme) :: (inside ++ (.endTag tag.name, endTag) :: row))

variable {root : String} {fault : Option Fault} {row rest : List Lexeme}

/-- An open element goes on with nested lexemes. -/
theorem Nested.within (nested : Nested row) {e : Frame} (itself : e.nesting ≠ []) :
    contentOf root fault (some e) (row ++ rest) =
      (contentOf root fault (some (e.extend (written row) e.nesting)) rest).after []
        (written row) := by
  induction nested generalizing e rest with
  | nil =>
    have same : e.extend [] e.nesting = e := by simp [Frame.extend]
    rw [written_nil, same, List.nil_append, Reading.after_nil_nil]
  | @mark token lexeme row noStart noEnd later ih =>
    have goesOn : (e.extend lexeme e.nesting).nesting ≠ [] := itself
    rw [List.cons_append, contentOf, ih goesOn, Reading.after_after]
    · simp [Frame.extend]
    · exact noStart
    · exact noEnd
  | @element tag lexeme endTag inside row inner later ihInner ihLater =>
    -- inside, this element is open too, and after its end tag the others still are
    let opened := e.extend lexeme (tag.name :: e.nesting)
    let filled := opened.extend (written inside) opened.nesting
    have inOpened : opened.nesting ≠ [] := List.cons_ne_nil _ _
    have nesting : filled.nesting = tag.name :: e.nesting := rfl
    have goesOn : (filled.extend endTag e.nesting).nesting ≠ [] := itself
    rw [List.cons_append, contentOf, List.append_assoc, ihInner inOpened, List.cons_append,
      contentOf_endTag nesting, if_neg itself, ihLater goesOn]
    simp [Reading.after_after, filled, opened, Frame.extend]

/-- The node of an element with these tags and this content. -/
def elementNode (tag : Tag) (startTag content endTag : List Char) : Node :=
  .element tag.name (String.ofList (startTag ++ content ++ endTag))
    (String.ofList (decodeText content))

/-- An element directly inside a root is one node. -/
theorem contentOf_element {tag : Tag} {startTag endTag : List Char} {inside : List Lexeme}
    (nested : Nested inside) :
    contentOf root fault none
        ((.startTag tag, startTag) :: (inside ++ (.endTag tag.name, endTag) :: rest)) =
      (contentOf root fault none rest).after
        [elementNode tag startTag (written inside) endTag]
        (startTag ++ written inside ++ endTag) := by
  let opened : Frame := ⟨tag.name, startTag, [], [tag.name]⟩
  let filled := opened.extend (written inside) opened.nesting
  have nesting : filled.nesting = [tag.name] := rfl
  have inOpened : opened.nesting ≠ [] := List.cons_ne_nil _ _
  rw [contentOf, nested.within inOpened, contentOf_endTag nesting, if_pos rfl]
  simp [Reading.after_after, filled, opened, Frame.extend, Frame.node, Frame.span, elementNode]

/-- Directly inside a root, nested lexemes come to some nodes. -/
theorem Nested.outside (nested : Nested row) (root : String) :
    ∃ nodes, ∀ fault rest, contentOf root fault none (row ++ rest) =
      (contentOf root fault none rest).after nodes (written row) := by
  induction nested with
  | nil => exact ⟨[], fun fault rest => (Reading.after_nil_nil _).symm⟩
  | @mark token lexeme row noStart noEnd later ih =>
    obtain ⟨nodes, reads⟩ := ih
    refine ⟨nodeOf token (String.ofList lexeme) :: nodes, fun fault rest => ?_⟩
    rw [List.cons_append, contentOf, reads, Reading.after_after]
    · rfl
    · exact noStart
    · exact noEnd
  | @element tag lexeme endTag inside row inner later _ ih =>
    obtain ⟨nodes, reads⟩ := ih
    refine ⟨elementNode tag lexeme (written inside) endTag :: nodes, fun fault rest => ?_⟩
    rw [List.cons_append, List.append_assoc, List.cons_append, contentOf_element inner, reads,
      Reading.after_after]
    simp

/-! ## Well-formed texts -/

/-- A text can be the content of an element. -/
structure WellFormed (cs : List Char) : Prop where
  /-- All of it can be read. -/
  noFault : (lexemes cs).2 = none
  nested : Nested (lexemes cs).1

namespace WellFormed

variable {cs : List Char}

theorem written_lexemes (wellFormed : WellFormed cs) : written (lexemes cs).1 = cs := by
  obtain ⟨unread, text, ends⟩ := flatten_lexemes cs
  rw [ends wellFormed.noFault, List.append_nil] at text
  exact text.symm

theorem nil : WellFormed [] := by
  have none : lexemes [] = ([], Option.none) := lexemes_of_done rfl
  exact ⟨by rw [none], by rw [none]; exact .nil⟩

/-- A lexeme that is no tag of an element comes before a well-formed text. -/
theorem of_scan {text lexeme : List Char} {token : Token}
    (scanned : scan text = .token token lexeme cs) (noStart : ∀ tag, token ≠ .startTag tag)
    (noEnd : ∀ name, token ≠ .endTag name) (later : WellFormed cs) : WellFormed text := by
  have row := lexemes_of_token scanned
  exact ⟨by rw [row]; exact later.noFault, by rw [row]; exact .mark noStart noEnd later.nested⟩

end WellFormed

/-- A text without brackets begins with characters or with a reference, if there is any. -/
theorem scan_of_not_mem {cs : List Char} (filled : cs ≠ []) (noTag : '<' ∉ cs) :
    ∃ token lexeme rest, scan cs = .token token lexeme rest ∧
      (token = .characters ∨ token = .reference) := by
  unfold scan
  split
  · contradiction
  · exact absurd List.mem_cons_self noTag
  · unfold scanAmpersand
    split
    · exact ⟨_, _, _, rfl, Or.inr rfl⟩
    · exact ⟨_, _, _, rfl, Or.inl rfl⟩
  · exact ⟨_, _, _, rfl, Or.inl rfl⟩

/-- A text without brackets is well-formed content. -/
theorem wellFormed_of_not_mem {cs : List Char} (noTag : '<' ∉ cs) : WellFormed cs := by
  induction cs using lexemes.induct with
  | case1 cs h =>
    rw [eq_nil_of_scan_done h]
    exact .nil
  | case2 cs fault h =>
    by_cases filled : cs = []
    · simp [filled, scan] at h
    · obtain ⟨_, _, _, scanned, -⟩ := scan_of_not_mem filled noTag
      simp [scanned] at h
  | case3 cs token lexeme rest h _ ih =>
    obtain ⟨lexemeFilled, text⟩ := scan_append h
    have filled : cs ≠ [] := by simp [text, lexemeFilled]
    obtain ⟨_, _, _, scanned, kind⟩ := scan_of_not_mem filled noTag
    obtain ⟨rfl, -, -⟩ := Scan.token.inj (h.symm.trans scanned)
    have later := ih fun mem => noTag (by simp [text, mem])
    rcases kind with rfl | rfl
    · exact .of_scan h (by simp) (by simp) later
    · exact .of_scan h (by simp) (by simp) later

/-! ## Trees -/

section Trees

variable {cs content : List Char}

/-- An element as it is written has the lexemes of its content between its tags. -/
theorem Tree.Head.lexemes_element (head : Tree.Head) (wellFormed : WellFormed content)
    (rest : List Char) :
    lexemes (head.startTag ++ content ++ head.endTag ++ rest) =
      ((.startTag head.tag, head.startTag) ::
        ((lexemes content).1 ++ (.endTag head.tag.name, head.endTag) :: (lexemes rest).1),
        (lexemes rest).2) := by
  have ended := lexemes_of_token (head.scan_endTag rest)
  have bracket : head.endTag ++ rest = '<' :: (head.endTag ++ rest).tail := rfl
  have inside := lexemes_append_bracket wellFormed.noFault (head.endTag ++ rest).tail
  rw [← bracket, ended] at inside
  rw [List.append_assoc, List.append_assoc, lexemes_of_token (head.scan_startTag _), inside]
  rfl

theorem WellFormed.element (head : Tree.Head) (wellFormed : WellFormed content)
    (later : WellFormed cs) : WellFormed (head.startTag ++ content ++ head.endTag ++ cs) := by
  have row := head.lexemes_element wellFormed cs
  exact ⟨by rw [row]; exact later.noFault,
    by rw [row]; exact .element wellFormed.nested later.nested⟩

/-- Text comes before a well-formed text, and may be one lexeme with text that comes first there. -/
theorem WellFormed.plain {chars : List Char} (filled : chars ≠ [])
    (plain : ∀ c ∈ chars, isPlain c = true) (later : WellFormed cs) :
    WellFormed (chars ++ cs) := by
  refine .of_scan (Tree.scan_plain filled plain cs) (by simp) (by simp) ?_
  by_cases more : cs.takeWhile isPlain = []
  · rwa [Tree.dropWhile_of_takeWhile_eq_nil more]
  · -- the text of the rest is the first lexeme there
    have row := lexemes_of_token (Tree.scan_takeWhile more)
    obtain ⟨noFault, nested⟩ := later
    rw [row] at noFault nested
    cases nested with
    | mark _ _ nested => exact ⟨noFault, nested⟩

/-- The contents that trees are written with are well-formed. -/
theorem wellFormed_contentWritten (items : List Tree.Item) :
    WellFormed (Tree.contentWritten items) := by
  induction items using Tree.contentInduction with
  | nil =>
    rw [Tree.contentWritten]
    exact .nil
  | leaf leaf items ih =>
    rw [Tree.contentWritten, Tree.Item.written]
    cases leaf with
    | text chars filled plain => exact .plain filled plain ih
    | reference | cdata | comment | instruction =>
      refine .of_scan (Tree.Leaf.scan_written _ ?_ _) ?_ ?_ ih
      all_goals simp [Tree.Leaf.token]
  | empty head items ih =>
    rw [Tree.contentWritten, Tree.Item.written]
    exact .of_scan (head.scan_emptyTag _) (by simp) (by simp) ih
  | element head content items inner ih =>
    rw [Tree.contentWritten, Tree.Item.written]
    exact .element head inner ih

end Trees

end IconForge.Markup
