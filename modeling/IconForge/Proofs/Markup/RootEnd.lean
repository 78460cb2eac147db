import IconForge.Proofs.Markup.Subtrees

/-!
# Where a root ends

The end tag that ends a root is told by the elements that are open inside one child. Names are not
compared when an end tag closes an element, so elements that are not closed, or closed in the wrong
order, or under other names, may leave too many or too few of them open. Still the first end tag
with the name of the root ends it, as long as no other start tag has that name and no end tag comes
where no element is open.

A text with two byte order marks at its front is cut elsewhere, and nothing is said about it here.

## Main statements

- `Away.step`: one lexeme leads from a content to a content with no element of the root's name.
- `Away.run`: so does a row of lexemes, and the end tag of the root ends it.
- `Document.read_root_end`: the content of a document.
-/

namespace IconForge.Markup

/-! ## Contents without the name of the root -/

/-- The lexemes before the first end tag with the name of the root. -/
def beforeEnd (root : String) (row : List Lexeme) : List Lexeme :=
  row.takeWhile fun l => l.1 != .endTag root

/-- The name in a start tag. -/
def Token.startName? : Token → Option String
  | .startTag tag => some tag.name
  | _ => none

/-- A lexeme is neither a start tag nor an end tag with the name of the root. -/
structure AvoidsRoot (root : String) (l : Lexeme) : Prop where
  noStart : l.1.startName? ≠ some root
  noEnd : l.1 ≠ .endTag root

/-- That many elements are open, and none of them has the name of the root. -/
inductive Away (root : String) : (opened : Nat) → Option Frame → Prop where
  | outside : Away root 0 none
  | inside {e : Frame} (itself : e.nesting ≠ []) (other : root ∉ e.nesting) :
      Away root e.nesting.length (some e)

namespace Away

variable {root : String} {opened opened' : Nat} {e : Option Frame}

/-- A lexeme belongs to the content, and after it as many elements are open as it leaves open. -/
theorem step (away : Away root opened e) {l : Lexeme} (avoids : AvoidsRoot root l)
    (goesOn : openAfter opened [l] = some opened') :
    ∃ e' nodes, Away root opened' e' ∧ ∀ fault row,
      contentOf root fault e (l :: row) = (contentOf root fault e' row).after nodes l.2 := by
  obtain ⟨token, lexeme⟩ := l
  cases away with
  | outside =>
    cases token with
    | startTag tag =>
      obtain rfl : 1 = opened' := Option.some.inj goesOn
      have other : root ∉ [tag.name] := fun mem =>
        avoids.noStart (congrArg some (List.mem_singleton.mp mem).symm)
      exact ⟨_, _, .inside (e := ⟨tag.name, lexeme, [], [tag.name]⟩) (by simp) other,
        fun fault row => by rw [contentOf]⟩
    | endTag name => simp [openAfter] at goesOn
    | emptyTag | characters | reference | cdata | comment | instruction | doctype =>
      obtain rfl : 0 = opened' := Option.some.inj goesOn
      exact ⟨_, _, .outside, fun fault row => by rw [contentOf] <;> simp⟩
  | @inside e itself other =>
    cases token with
    | startTag tag =>
      obtain rfl : e.nesting.length + 1 = opened' := Option.some.inj goesOn
      have others : root ∉ tag.name :: e.nesting := by
        intro mem
        rcases List.mem_cons.mp mem with rfl | mem
        · exact avoids.noStart rfl
        · exact other mem
      exact ⟨_, _, .inside (e := e.extend lexeme (tag.name :: e.nesting)) (by simp [Frame.extend])
        others, fun fault row => by rw [contentOf]⟩
    | endTag name =>
      -- this is not the end tag of the root, so the innermost element ends
      have noRoot : ¬ (name = root ∧ name ∉ e.nesting) := by
        rintro ⟨rfl, -⟩
        exact avoids.noEnd rfl
      obtain ⟨inner, outer, nesting⟩ := List.exists_cons_of_ne_nil itself
      rw [nesting] at goesOn other
      obtain rfl : outer.length = opened' := Option.some.inj goesOn
      cases outer with
      | nil =>
        exact ⟨_, _, .outside, fun fault row => by
          rw [contentOf, if_neg noRoot, nesting, List.tail_cons]⟩
      | cons next outer =>
        exact ⟨_, _, .inside (e := e.extend lexeme (next :: outer)) (by simp [Frame.extend])
          (List.not_mem_of_not_mem_cons other), fun fault row => by
            rw [contentOf, if_neg noRoot, nesting, List.tail_cons]⟩
    | emptyTag | characters | reference | cdata | comment | instruction | doctype =>
      obtain rfl : e.nesting.length = opened' := by
        rw [openAfter_singleton (by simp) (by simp)] at goesOn
        exact Option.some.inj goesOn
      exact ⟨_, _, .inside (e := e.extend lexeme e.nesting) itself other, fun fault row => by
        rw [contentOf] <;> simp⟩

/-- The end of all lexemes ends the content, and so does the end tag of the root. -/
theorem ends (away : Away root opened e) {fault : Option Fault} {after : List Lexeme}
    (stops : (after = [] ∧ fault = none) ∨ ∃ endTag more, after = (.endTag root, endTag) :: more) :
    ∃ nodes, contentOf root fault e after = .ok (nodes, []) := by
  rcases stops with ⟨rfl, rfl⟩ | ⟨endTag, more, rfl⟩
  · exact ⟨_, by rw [contentOf]⟩
  · cases away with
    | outside => exact ⟨_, by rw [contentOf]⟩
    | inside itself other => exact ⟨_, by rw [contentOf, if_pos ⟨rfl, other⟩]⟩

/-- A row of lexemes without the name of the root is read as content, up to the end tag of the
root. -/
theorem run (away : Away root opened e) {content : List Lexeme}
    (avoids : ∀ l ∈ content, AvoidsRoot root l) (nested : (openAfter opened content).isSome)
    {fault : Option Fault} {after : List Lexeme}
    (stops : (after = [] ∧ fault = none) ∨ ∃ endTag more, after = (.endTag root, endTag) :: more) :
    ∃ nodes, contentOf root fault e (content ++ after) = .ok (nodes, written content) := by
  induction content generalizing opened e with
  | nil => exact away.ends stops
  | cons l content ih =>
    -- as many elements are open after the first lexeme as the rest needs
    obtain ⟨here, avoids⟩ := List.forall_mem_cons.mp avoids
    rw [← List.singleton_append, openAfter_append] at nested
    obtain ⟨opened', goesOn⟩ := Option.isSome_iff_exists.mp (Option.isSome_of_isSome_bind nested)
    rw [goesOn, Option.bind_some] at nested
    obtain ⟨e', nodes, away', reads⟩ := away.step here goesOn
    obtain ⟨more, rest⟩ := ih away' avoids nested
    refine ⟨nodes ++ more, ?_⟩
    rw [List.cons_append, reads, rest]
    rfl

end Away

/-! ## Documents -/

/-- What follows the lexemes before the end tag of a root is that end tag, if there is one. -/
theorem exists_beforeEnd_append (root : String) (row : List Lexeme) :
    ∃ after, row = beforeEnd root row ++ after ∧
      (after = [] ∨ ∃ endTag more, after = (.endTag root, endTag) :: more) := by
  refine ⟨row.dropWhile fun l => l.1 != .endTag root,
    List.takeWhile_append_dropWhile.symm, ?_⟩
  cases later : row.dropWhile fun l => l.1 != .endTag root with
  | nil => exact Or.inl rfl
  | cons l more =>
    obtain ⟨token, endTag⟩ := l
    have isEnd := List.head_dropWhile_not (fun l : Lexeme => l.1 != .endTag root) (l := row)
      (by simp [later])
    obtain rfl : token = .endTag root := by simpa [later] using isEnd
    exact Or.inr ⟨endTag, more, rfl⟩

/-- The content of a document stands between the tag of the root and the first end tag with its
name, or the end of the text if there is none. -/
structure EndsAtRootEnd (text : List Char) (root : String) (before : List Char)
    (rest : List Lexeme) (doc : Document) : Prop where
  inner : doc.inner = String.ofList (written (beforeEnd root rest))
  stands : ∃ after, text = before ++ doc.inner.toList ++ after ∧
    ((after = [] ∧ beforeEnd root rest = rest) ∨ ∃ endTag more unread,
      rest = beforeEnd root rest ++ (.endTag root, endTag) :: more ∧
        after = endTag ++ written more ++ unread)
  noEnd : ∀ l ∈ beforeEnd root rest, l.1 ≠ .endTag root

/-- A text is read as a document whose content ends at the first end tag with the name of the root,
whatever elements are not closed or closed under other names. Up to there no start tag may have that
name, no end tag may come where no element is open, and there may be no fault. -/
theorem Document.read_root_end {text : String} {prolog rest : List Lexeme} {tag : Tag}
    {lexeme : List Char} (single : ¬ [byteOrderMark, byteOrderMark] <+: text.toList)
    (first : (lexemes (withoutMark text.toList)).1 = prolog ++ (.startTag tag, lexeme) :: rest)
    (noTags : ∀ l ∈ prolog, l.1.isTag = false) (svg : localName tag.name = "svg")
    (noStart : ∀ l ∈ beforeEnd tag.name rest, l.1.startName? ≠ some tag.name)
    (nested : (openAfter 0 (beforeEnd tag.name rest)).isSome)
    (readable : beforeEnd tag.name rest = rest → (lexemes (withoutMark text.toList)).2 = none) :
    ∃ doc, Document.read text = .ok doc ∧
      EndsAtRootEnd (withoutMark text.toList) tag.name (written prolog ++ lexeme) rest doc := by
  obtain ⟨after, parts, last⟩ := exists_beforeEnd_append tag.name rest
  obtain ⟨unread, chars, ends⟩ := flatten_lexemes (withoutMark text.toList)
  have noEnd : ∀ l ∈ beforeEnd tag.name rest, l.1 ≠ .endTag tag.name := fun l mem => by
    simpa using List.mem_takeWhile_imp mem
  have avoids : ∀ l ∈ beforeEnd tag.name rest, AvoidsRoot tag.name l := fun l mem =>
    ⟨noStart l mem, noEnd l mem⟩
  have stops : (after = [] ∧ (lexemes (withoutMark text.toList)).2 = none) ∨
      ∃ endTag more, after = (.endTag tag.name, endTag) :: more := by
    rcases last with rfl | closes
    · exact Or.inl ⟨rfl, readable (by rw [List.append_nil] at parts; exact parts.symm)⟩
    · exact Or.inr closes
  -- no element is open where the content begins
  obtain ⟨nodes, content⟩ := Away.outside.run avoids nested stops
  rw [← parts] at content
  have holds := DocumentOf.filled first noTags svg content
  refine ⟨_, (Document.ofChars_ok_iff single).mpr holds, rfl, ⟨written after ++ unread, ?_, ?_⟩,
    noEnd⟩
  · rw [chars, first]
    nth_rewrite 1 [parts]
    simp
  · rcases stops with ⟨rfl, noFault⟩ | ⟨endTag, more, rfl⟩
    · rw [List.append_nil] at parts
      exact Or.inl ⟨by simp [ends noFault], parts.symm⟩
    · exact Or.inr ⟨endTag, more, unread, parts, rfl⟩

/-- Elements that are closed in the wrong order, under another name and not at all, before the end
tag of a root, and what cannot be read after it. -/
theorem Document.read_root_end_misnested :
    let text := "<!--c--><svg>t<g><path></g></path><a></b><p></svg></svg><"
    let rest := (lexemes "t<g><path></g></path><a></b><p></svg></svg><".toList).1
    ∃ doc, Document.read text = .ok doc ∧ doc.inner = "t<g><path></g></path><a></b><p>" ∧
      EndsAtRootEnd (withoutMark text.toList) "svg" "<!--c--><svg>".toList rest doc := by
  intro text rest
  have first : (lexemes (withoutMark text.toList)).1 =
      [(.comment, "<!--c-->".toList)] ++ (.startTag ⟨"svg", []⟩, "<svg>".toList) :: rest := by
    decide +kernel
  obtain ⟨doc, read, ends⟩ := Document.read_root_end (by decide +kernel) first (by decide)
    (by decide +kernel) (by decide +kernel) (by decide +kernel) (by decide +kernel)
  have inner : doc.inner = "t<g><path></g></path><a></b><p>" := by
    rw [ends.inner]
    decide +kernel
  exact ⟨doc, read, inner, ends⟩

end IconForge.Markup
