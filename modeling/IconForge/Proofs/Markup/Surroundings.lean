import IconForge.Proofs.Markup.Locality
import IconForge.Proofs.Markup.Scanning

/-!
# Only the root matters

A document is read in the same way when a prolog is put before it and anything at all after it, as
long as its root is closed: neither the places of its tokens nor what could not be read after the
root have a part in the outcome.

Before the root, each item of a prolog is one token that is passed over. Only blanks may run into
the text that follows them, which is passed over too. After the root, reading has stopped.

## Main definitions

- `Prolog`: what may stand before a root.
- `RootCloses`: the root of a document has an end in the text.

## Main statements

- `PrologItem.holds_append_iff`: what one item of a prolog changes, namely nothing.
- `Holds.closes_or_reaches_end`: a root closes, or its content reaches to the end of the text.
- `Holds.followed`: a text that goes on after a closed root.
- `Document.read_surrounded`: both together.
-/

namespace IconForge.Markup

open IconForge.Text

/-! ## Prologs -/

inductive PrologItem where
  | blanks (chars : List Char) (filled : chars ≠ []) (blank : ∀ c ∈ chars, isBlank c)
  /-- An instruction. A declaration is one with the target `xml`. -/
  | instruction (target : Tree.Name) (rest : List Char) (inside : ¬ "?>".toList <:+: rest)
  | comment (body : List Char) (inside : ¬ "--".toList <:+: body)
  /-- A document type declaration without markup in it. Its keyword may have letters of either
  case. -/
  | doctype (keyword body : List Char) (isKeyword : keyword.map Char.toUpper = "DOCTYPE".toList)
      (named : body.all isMarkupSpace = false) (noOpening : '<' ∉ body) (noClosing : '>' ∉ body)

def PrologItem.written : PrologItem → List Char
  | .blanks chars _ _ => chars
  | .instruction target rest _ => "<?".toList ++ (target.chars ++ rest) ++ "?>".toList
  | .comment body _ => "<!--".toList ++ body ++ "-->".toList
  | .doctype keyword body _ _ _ _ => "<!".toList ++ (keyword ++ body) ++ ">".toList

structure Prolog where
  /-- Whether a byte order mark comes first. -/
  marked : Bool
  items : List PrologItem

namespace Prolog

def itemsWritten (items : List PrologItem) : List Char := items.flatMap PrologItem.written

def written (prolog : Prolog) : List Char :=
  (if prolog.marked then [byteOrderMark] else []) ++ itemsWritten prolog.items

end Prolog

/-! ## Document type declarations -/

theorem doctypeBody?_of_not_mem {body : List Char} (noOpening : '<' ∉ body) (noClosing : '>' ∉ body)
    (rest : List Char) : doctypeBody? 0 (body ++ '>' :: rest) = some (body, rest) := by
  induction body with
  | nil => rfl
  | cons c body ih =>
    simp only [List.mem_cons, not_or] at noOpening noClosing
    rw [List.cons_append, doctypeBody?, ih noOpening.2 noClosing.2]
    · rfl
    all_goals simp_all [eq_comm]

/-- Only two characters become the first letter of the keyword. -/
theorem eq_of_toUpper_eq {c : Char} (h : c.toUpper = 'D') : c = 'D' ∨ c = 'd' := by
  unfold Char.toUpper at h
  split at h
  · -- the distance to the letter of the other case can be taken away again
    have moved := congrArg (· - ('A'.val - 'a'.val)) (congrArg Char.val h)
    exact Or.inr (Char.ext (by simpa using moved))
  · exact Or.inl h

theorem scan_doctype {keyword body : List Char}
    (isKeyword : keyword.map Char.toUpper = "DOCTYPE".toList)
    (named : body.all isMarkupSpace = false) (noOpening : '<' ∉ body) (noClosing : '>' ∉ body)
    (rest : List Char) :
    scan ("<!".toList ++ (keyword ++ body) ++ ">".toList ++ rest) =
      .token .doctype ("<!".toList ++ (keyword ++ body) ++ ">".toList) rest := by
  -- brackets are no letters of the keyword
  have noBracket {c : Char} (same : c.toUpper = c) (other : c ∉ "DOCTYPE".toList)
      (outside : c ∉ body) : c ∉ keyword ++ body := by
    intro mem
    rcases List.mem_append.mp mem with mem | mem
    · have upper : c.toUpper ∈ keyword.map Char.toUpper := List.mem_map_of_mem mem
      rw [same, isKeyword] at upper
      exact other upper
    · exact outside mem
  have found := doctypeBody?_of_not_mem (noBracket (by decide) (by decide) noOpening)
    (noBracket (by decide) (by decide) noClosing) rest
  have length : keyword.length = 7 := by simpa using congrArg List.length isKeyword
  have front : (keyword ++ body).take 7 = keyword := List.take_left' length
  have back : (keyword ++ body).drop 7 = body := List.drop_left' length
  cases keyword with
  | nil => simp at length
  | cons c letters =>
    have letter : c = 'D' ∨ c = 'd' := eq_of_toUpper_eq (List.cons.inj isKeyword).1
    have bang : scanBang (c :: letters ++ body ++ '>' :: rest) =
        .token .doctype ("<!".toList ++ (c :: letters ++ body) ++ ">".toList) rest := by
      simp only [List.cons_append] at found front back ⊢
      rw [scanBang, found]
      · simp [letter, front, isKeyword, back, named]
      · rcases letter with rfl | rfl <;> simp
      · rcases letter with rfl | rfl <;> simp
    rw [← bang]
    simp [scan, scanMarkup]

/-! ## Before the root -/

/-- A text holds a document by its lexemes. -/
def Holds (cs : List Char) (doc : Document) : Prop := DocumentOf (lexemes cs).1 (lexemes cs).2 doc

variable {cs lexeme rest : List Char} {token : Token} {doc : Document}

/-- What is no tag is passed over on the way to the root. -/
theorem documentOf_cons_iff {l : Lexeme} (noTag : l.1.isTag = false) {row : List Lexeme}
    {fault : Option Fault} : DocumentOf (l :: row) fault doc ↔ DocumentOf row fault doc := by
  constructor
  · intro holds
    cases holds with
    | empty first noTags svg =>
      obtain ⟨more, rfl, later⟩ := exists_of_first_not_isTag noTag rfl first
      exact .empty later (List.forall_mem_cons.mp noTags).2 svg
    | filled first noTags svg content =>
      obtain ⟨more, rfl, later⟩ := exists_of_first_not_isTag noTag rfl first
      exact .filled later (List.forall_mem_cons.mp noTags).2 svg content
  · intro holds
    cases holds with
    | empty first noTags svg =>
      exact .empty (congrArg (l :: ·) first) (List.forall_mem_cons.mpr ⟨noTag, noTags⟩) svg
    | filled first noTags svg content =>
      exact .filled (congrArg (l :: ·) first) (List.forall_mem_cons.mpr ⟨noTag, noTags⟩) svg content

theorem holds_iff_of_scan (h : scan cs = .token token lexeme rest) (noTag : token.isTag = false) :
    Holds cs doc ↔ Holds rest doc := by
  rw [Holds, lexemes_of_token h]
  exact documentOf_cons_iff noTag

/-- Text at the front of a text does not matter. -/
theorem holds_dropWhile_iff : Holds (cs.dropWhile isPlain) doc ↔ Holds cs doc := by
  by_cases none : cs.takeWhile isPlain = []
  · rw [Tree.dropWhile_of_takeWhile_eq_nil none]
  · exact (holds_iff_of_scan (Tree.scan_takeWhile none) rfl).symm

theorem isPlain_of_isBlank {c : Char} (blank : isBlank c = true) : isPlain c = true := by
  have opening : c ≠ '<' := by
    rintro rfl
    exact absurd blank (by decide)
  have ampersand : c ≠ '&' := by
    rintro rfl
    exact absurd blank (by decide)
  simp [isPlain, opening, ampersand]

/-- An item of a prolog does not change what document a text holds. -/
theorem PrologItem.holds_append_iff (item : PrologItem) :
    Holds (item.written ++ cs) doc ↔ Holds cs doc := by
  cases item with
  | blanks chars filled blank =>
    -- the blanks are one token with the text that comes after them
    have plain : ∀ c ∈ chars, isPlain c := fun c mem => isPlain_of_isBlank (blank c mem)
    rw [written, holds_iff_of_scan (Tree.scan_plain filled plain cs) rfl, holds_dropWhile_iff]
  | instruction target rest inside =>
    exact holds_iff_of_scan (Tree.scan_instruction target inside cs) rfl
  | comment body inside => exact holds_iff_of_scan (Tree.scan_comment inside cs) rfl
  | doctype keyword body isKeyword named noOpening noClosing =>
    exact holds_iff_of_scan (scan_doctype isKeyword named noOpening noClosing cs) rfl

theorem Prolog.holds_itemsWritten_append_iff (items : List PrologItem) :
    Holds (itemsWritten items ++ cs) doc ↔ Holds cs doc := by
  induction items with
  | nil => rfl
  | cons item items ih =>
    rw [itemsWritten, List.flatMap_cons, List.append_assoc, item.holds_append_iff]
    exact ih

/-! ## Byte order marks -/

theorem PrologItem.head?_written_append (item : PrologItem) (cs : List Char) :
    ∃ c, (item.written ++ cs).head? = some c ∧ c ≠ byteOrderMark := by
  cases item with
  | blanks chars filled blank =>
    obtain ⟨c, more, rfl⟩ := List.exists_cons_of_ne_nil filled
    refine ⟨c, rfl, ?_⟩
    rintro rfl
    exact absurd (blank byteOrderMark (by simp)) (by decide)
  | instruction | comment | doctype => exact ⟨'<', rfl, by decide⟩

/-- No item of a prolog begins with a mark. -/
theorem Prolog.head?_itemsWritten_append (items : List PrologItem)
    (unmarked : cs.head? ≠ some byteOrderMark) :
    (itemsWritten items ++ cs).head? ≠ some byteOrderMark := by
  cases items with
  | nil => exact unmarked
  | cons item items =>
    rw [itemsWritten, List.flatMap_cons, List.append_assoc]
    obtain ⟨c, first, other⟩ := item.head?_written_append (itemsWritten items ++ cs)
    intro mark
    exact other (Option.some.inj (first.symm.trans mark))

theorem withoutMark_of_head? (unmarked : cs.head? ≠ some byteOrderMark) : withoutMark cs = cs := by
  cases cs with
  | nil => rfl
  | cons c cs => simpa [withoutMark] using unmarked

theorem not_isPrefix_mark (unmarked : cs.head? ≠ some byteOrderMark) (more : List Char) :
    ¬ byteOrderMark :: more <+: cs := by
  rintro ⟨after, rfl⟩
  exact unmarked rfl

/-- The mark that a prolog may begin with is the only one before the text. -/
theorem Prolog.withoutMark_written_append (prolog : Prolog)
    (unmarked : cs.head? ≠ some byteOrderMark) :
    ¬ [byteOrderMark, byteOrderMark] <+: prolog.written ++ cs ∧
      withoutMark (prolog.written ++ cs) = itemsWritten prolog.items ++ cs := by
  have body := head?_itemsWritten_append prolog.items unmarked
  cases marked : prolog.marked with
  | false =>
    rw [written, marked, if_neg Bool.false_ne_true, List.nil_append]
    exact ⟨not_isPrefix_mark body _, withoutMark_of_head? body⟩
  | true =>
    rw [written, marked, if_pos rfl, List.append_assoc, List.singleton_append]
    refine ⟨fun marks => ?_, by simp [withoutMark]⟩
    exact not_isPrefix_mark body _ (List.cons_prefix_cons.mp marks).2

/-! ## After the root -/

/-- The root of a document that a text holds has an end in the text: it is an empty tag, or an end
tag stands right after its content. -/
inductive RootCloses (text : List Char) (doc : Document) : Prop where
  | empty {prolog rest : List Lexeme} {tag : Tag} {lexeme : List Char}
      (first : (lexemes text).1 = prolog ++ (.emptyTag tag, lexeme) :: rest)
      (noTags : ∀ l ∈ prolog, l.1.isTag = false)
  | filled {prolog content rest : List Lexeme} {tag : Tag} {name : String}
      {lexeme endTag : List Char}
      (first : (lexemes text).1 =
        prolog ++ (.startTag tag, lexeme) :: (content ++ (.endTag name, endTag) :: rest))
      (noTags : ∀ l ∈ prolog, l.1.isTag = false)
      (inner : doc.inner = String.ofList (written content))

/-- A root that does not close has all that follows its start tag for its content, and all of the
text can be read. -/
theorem Holds.closes_or_reaches_end (holds : Holds cs doc) :
    RootCloses cs doc ∨ ∃ prolog tag lexeme content,
      lexemes cs = (prolog ++ (.startTag tag, lexeme) :: content, none) ∧
        doc.inner = String.ofList (written content) := by
  cases holds with
  | empty first noTags => exact Or.inl (.empty first noTags)
  | @filled prolog rest tag lexeme inner nodes first noTags svg content =>
    obtain ⟨inside, after, rfl, rfl, ⟨rfl, noFault⟩ | ⟨name, endTag, more, rfl⟩⟩ :=
      contentOf_stops content
    · rw [List.append_nil] at first
      exact Or.inr ⟨prolog, tag, lexeme, inside, Prod.ext first noFault, rfl⟩
    · exact Or.inl (.filled first noTags rfl)

/-- A row of lexemes has only one first tag. -/
theorem eq_of_first_tags {l l' : Lexeme} {prolog prolog' row row' : List Lexeme}
    (noTags : ∀ l ∈ prolog, l.1.isTag = false) (noTags' : ∀ l ∈ prolog', l.1.isTag = false)
    (isTag : l.1.isTag = true) (isTag' : l'.1.isTag = true)
    (eq : prolog ++ l :: row = prolog' ++ l' :: row') : prolog = prolog' ∧ l = l' ∧ row = row' := by
  induction prolog generalizing prolog' with
  | nil =>
    obtain ⟨rfl, same, rest⟩ := eq_of_first_isTag isTag noTags' eq
    exact ⟨rfl, same, rest⟩
  | cons first prolog ih =>
    obtain ⟨noTag, noTags⟩ := List.forall_mem_cons.mp noTags
    obtain ⟨more, rfl, later⟩ := exists_of_first_not_isTag noTag isTag' eq
    obtain ⟨rfl, same, rest⟩ := ih noTags (List.forall_mem_cons.mp noTags').2 later
    exact ⟨rfl, same, rest⟩

/-- There is no document in nothing. -/
theorem Holds.ne_nil (holds : Holds cs doc) : cs ≠ [] := by
  rintro rfl
  have row : (lexemes []).1 = [] := by rw [lexemes_of_done rfl]
  cases holds with
  | empty first | filled first => simp [row] at first

/-- A document whose root is closed is held by any text that goes on after it. -/
theorem Holds.followed (holds : Holds cs doc) (closes : RootCloses cs doc) (more : List Char) :
    Holds (cs ++ more) doc := by
  cases holds with
  | empty first noTags svg =>
    obtain ⟨after, followed⟩ := lexemes_followed first rfl more
    exact .empty followed noTags svg
  | @filled prolog rest tag lexeme inner nodes first noTags svg content =>
    cases closes with
    | empty first' noTags' =>
      -- the root would have two kinds of tag
      have same := (eq_of_first_tags noTags noTags' rfl rfl (first.symm.trans first')).2.1
      simp at same
    | @filled _ closed after _ name _ endTag first' noTags' isInner =>
      obtain ⟨rfl, -, rfl⟩ := eq_of_first_tags noTags noTags' rfl rfl (first.symm.trans first')
      obtain rfl : inner = written closed := String.ofList_inj.mp isInner
      have filled : ∀ l ∈ closed ++ [(.endTag name, endTag)], l.2 ≠ [] := fun l mem => by
        have here : l ∈ (lexemes cs).1 := by
          rw [first]
          rcases List.mem_append.mp mem with inside | last
          · simp [inside]
          · simp [List.mem_singleton.mp last]
        exact lexeme_ne_nil here
      -- all up to the end tag is as before, and nothing after it is read
      have upToEnd : (lexemes cs).1 =
          (prolog ++ (.startTag tag, lexeme) :: closed) ++ (.endTag name, endTag) :: after := by
        rw [first]
        simp
      obtain ⟨after', followed⟩ := lexemes_followed upToEnd rfl more
      refine .filled (by simpa using followed) noTags svg ?_
      exact contentOf_followed filled content _ after'

/-! ## Documents and their surroundings -/

/-- A text that has no mark holds a document if it is read as one. -/
theorem Document.read_eq_ok_iff {text : String}
    (unmarked : text.toList.head? ≠ some byteOrderMark) :
    Document.read text = .ok doc ↔ Holds text.toList doc := by
  rw [Document.read, Document.ofChars_ok_iff (not_isPrefix_mark unmarked _),
    withoutMark_of_head? unmarked]
  rfl

/-- A document whose root is closed is read in the same way behind a prolog and before any text
whatsoever. -/
theorem Document.read_surrounded (prolog : Prolog) {text : String} (trailing : String)
    (unmarked : text.toList.head? ≠ some byteOrderMark) (read : Document.read text = .ok doc)
    (closes : RootCloses text.toList doc) :
    Document.read (String.ofList prolog.written ++ text ++ trailing) = Document.read text := by
  have holds := (Document.read_eq_ok_iff unmarked).mp read
  have first : (text.toList ++ trailing.toList).head? ≠ some byteOrderMark := by
    rwa [List.head?_append_of_ne_nil _ holds.ne_nil]
  obtain ⟨single, body⟩ := prolog.withoutMark_written_append first
  have chars : (String.ofList prolog.written ++ text ++ trailing).toList =
      prolog.written ++ (text.toList ++ trailing.toList) := by
    simp
  rw [read, Document.read, chars, Document.ofChars_ok_iff single, body]
  exact (Prolog.holds_itemsWritten_append_iff prolog.items).mpr (holds.followed closes _)

/-- A root behind more text, closed over an open element, before markup that cannot be read, and a
prolog with a byte order mark and an item of each kind. -/
theorem Document.read_surrounded_by_markup :
    let before := "\uFEFF<?xml version='1.0'?>\n\u2003<!--<svg>->---><!docType svg> "
    let text := "& <p:svg a='>'><g>t</p:svg></svg>"
    let trailing := "<svg><![CDATA["
    ∃ prolog doc, String.ofList (Prolog.written prolog) = before ∧
      Document.read text = .ok doc ∧ doc.inner = "<g>t" ∧ RootCloses text.toList doc ∧
      Document.read (before ++ text ++ trailing) = Document.read text := by
  intro before text trailing
  let prolog : Prolog := {
    marked := true
    items := [
      .instruction ⟨"xml".toList, by decide, by simp [Tree.isNameChar]⟩ " version='1.0'".toList
        (by decide +kernel),
      .blanks "\n\u2003".toList (by decide) (by simp [isBlank]),
      .comment "<svg>->-".toList (by decide +kernel),
      .doctype "docType".toList " svg".toList (by decide +kernel) (by decide) (by decide)
        (by decide),
      .blanks " ".toList (by decide) (by simp [isBlank])] }
  have isBefore : String.ofList prolog.written = before := by decide +kernel
  let doc : Document := ⟨"p:svg", [("a", ">")], [.element "g" "<g>t" "t"], "<g>t"⟩
  have isRead : (Document.read text).toOption = some doc := by decide +kernel
  have read : Document.read text = .ok doc := by
    cases found : Document.read text with
    | error e => simp [found, Except.toOption] at isRead
    | ok other =>
      rw [found] at isRead
      exact congrArg Except.ok (Option.some.inj isRead)
  let content : List Lexeme :=
    [(.startTag ⟨"g", []⟩, "<g>".toList), (.characters, "t".toList)]
  have first : (lexemes text.toList).1 =
      [(.characters, "& ".toList)] ++ (.startTag ⟨"p:svg", " a='>'".toList⟩,
        "<p:svg a='>'>".toList) :: (content ++ (.endTag "p:svg", "</p:svg>".toList) ::
          [(.endTag "svg", "</svg>".toList)]) := by
    decide +kernel
  have closes : RootCloses text.toList doc := .filled first (by decide) rfl
  have same := Document.read_surrounded prolog trailing (by decide) read closes
  rw [isBefore] at same
  exact ⟨prolog, doc, isBefore, read, rfl, closes, same⟩

end IconForge.Markup
