import IconForge.Proofs.Markup.Tree

/-!
# What is written is scanned

Each piece that a tree is written with is read as one token, whatever comes after it. Text is the
exception: it goes on up to the next bracket or ampersand.

## Main statements

- `scan_startTag`, `scan_emptyTag`, `scan_endTag`: tags.
- `Leaf.scan_written`: what stands in a content and is neither an element nor text.
- `scan_plain`: text.
-/

namespace IconForge.Markup.Tree

open IconForge.Text

/-! ## Characters of names -/

/-- The characters with a meaning in tags. -/
def marks : List Char := [' ', '\t', '\r', '\n', '<', '>', '/', '=', '!', '?', '"', '\x27']

theorem isNameChar_marks : ∀ d ∈ marks, isNameChar d = false := by simp [marks, isNameChar]

theorem ne_of_isNameChar {c d : Char} (name : isNameChar c = true) (mark : d ∈ marks) : c ≠ d := by
  rintro rfl
  rw [isNameChar_marks c mark] at name
  exact Bool.noConfusion name

theorem isMarkupSpace_of_isNameChar {c : Char} (name : isNameChar c = true) :
    isMarkupSpace c = false := by
  have blank : c ≠ ' ' := ne_of_isNameChar name (by decide)
  have tab : c ≠ '\t' := ne_of_isNameChar name (by decide)
  have carriage : c ≠ '\r' := ne_of_isNameChar name (by decide)
  have line : c ≠ '\n' := ne_of_isNameChar name (by decide)
  simp [isMarkupSpace, blank, tab, carriage, line]

theorem isNameRest_of_isNameChar {c : Char} (name : isNameChar c = true) : isNameRest c = true := by
  have other : c ≠ '=' := ne_of_isNameChar name (by decide)
  simp [isNameRest, isMarkupSpace_of_isNameChar name, other]

theorem Name.not_mem (name : Name) {d : Char} (mark : d ∈ marks) :
    d ∉ name.chars :=
  fun mem => ne_of_isNameChar (name.allowed d mem) mark rfl

theorem dropWhile_of_takeWhile_eq_nil {p : Char → Bool} {cs : List Char}
    (h : cs.takeWhile p = []) : cs.dropWhile p = cs := by
  have parts := List.takeWhile_append_dropWhile (p := p) (l := cs)
  rwa [h, List.nil_append] at parts

/-! ## Tags -/

/-- A text that can stand in a tag: it leaves no quotes open and does not end the tag. -/
def InTag (cs : List Char) : Prop :=
  ∀ rest, tagBody? none (cs ++ rest) =
    (tagBody? none rest).map fun (body, after) => (cs ++ body, after)

theorem InTag.nil : InTag [] := by
  intro rest
  simp

theorem InTag.append {cs ds : List Char} (first : InTag cs) (second : InTag ds) :
    InTag (cs ++ ds) := by
  intro rest
  rw [List.append_assoc, first, second, Option.map_map]
  simp [Function.comp_def]

/-- Characters that are neither quotes nor brackets can stand in a tag. -/
theorem inTag_of_unquoted {cs : List Char} (double : '"' ∉ cs) (single : '\x27' ∉ cs)
    (bracket : '>' ∉ cs) : InTag cs := by
  induction cs with
  | nil => exact .nil
  | cons c cs ih =>
    simp only [List.mem_cons, not_or] at double single bracket
    intro rest
    -- the character neither ends the tag nor opens quotes
    have more := ih double.2 single.2 bracket.2 rest
    simp [tagBody?, more, Ne.symm double.1, Ne.symm single.1, Ne.symm bracket.1, Function.comp_def]

/-- What stands in quotes is passed over. -/
theorem tagBody?_quoted {quote : Char} {value : List Char} (closed : quote ∉ value)
    (rest : List Char) :
    tagBody? (some quote) (value ++ quote :: rest) =
      (tagBody? none rest).map fun (body, after) => (value ++ quote :: body, after) := by
  induction value with
  | nil => simp [tagBody?]
  | cons c cs ih =>
    simp only [List.mem_cons, not_or] at closed
    simp [tagBody?, ih closed.2, Ne.symm closed.1, Function.comp_def]

theorem Name.inTag (name : Name) : InTag name.chars :=
  inTag_of_unquoted (name.not_mem (by decide)) (name.not_mem (by decide))
    (name.not_mem (by decide))

theorem Attribute.inTag (a : Attribute) : InTag a.written := by
  have quoted : InTag (a.quote.char :: (a.value ++ [a.quote.char])) := by
    intro rest
    have passed := tagBody?_quoted a.closed rest
    cases quote : a.quote <;> simp_all [tagBody?, Quote.char, Function.comp_def]
  -- the parts before the quotes are plain
  have equals : InTag ['='] := inTag_of_unquoted (by decide) (by decide) (by decide)
  have space : InTag [' '] := inTag_of_unquoted (by decide) (by decide) (by decide)
  simpa [Attribute.written] using space.append (a.name.inTag.append (equals.append quoted))

namespace Head

variable (head : Head)

theorem inTag : InTag head.body := by
  refine head.name.inTag.append ?_
  induction head.attributes with
  | nil => exact .nil
  | cons a more ih => exact a.inTag.append ih

/-- The tag as it is read. -/
def tag : Tag := ⟨head.name.text, head.attributes.flatMap Attribute.written⟩

/-- A tag is named by what is before its attributes. -/
theorem ofBody_body : Tag.ofBody head.body = head.tag := by
  have noSpace : ∀ c ∈ head.name.chars, (!isMarkupSpace c) = true := fun c mem => by
    rw [isMarkupSpace_of_isNameChar (head.name.allowed c mem)]
    rfl
  -- the attributes are empty or begin with a space
  have stops : (head.attributes.flatMap Attribute.written).takeWhile
      (fun c => !isMarkupSpace c) = [] := by
    cases head.attributes with
    | nil => rfl
    | cons a more => simp [Attribute.written, isMarkupSpace]
  simp [Tag.ofBody, tag, body, List.takeWhile_append_of_pos noSpace,
    List.dropWhile_append_of_pos noSpace, stops, dropWhile_of_takeWhile_eq_nil stops, Name.text]

/-- No tag begins like another construct. -/
theorem body_cons : ∃ c cs, head.body = c :: cs ∧ c ≠ '!' ∧ c ≠ '?' ∧ c ≠ '/' := by
  obtain ⟨c, cs, eq⟩ := List.exists_cons_of_ne_nil head.name.filled
  have name : isNameChar c = true := head.name.allowed c (by simp [eq])
  refine ⟨c, cs ++ head.attributes.flatMap Attribute.written, by simp [body, eq], ?_, ?_, ?_⟩ <;>
  exact ne_of_isNameChar name (by decide)

/-- No start tag ends like an empty tag. -/
theorem getLast?_body : head.body.getLast? ≠ some '/' := by
  cases eq : head.attributes.getLast? with
  | none =>
    have none : head.attributes = [] := List.getLast?_eq_none_iff.mp eq
    intro last
    have mem : '/' ∈ head.name.chars := List.mem_of_getLast? (by simpa [body, none] using last)
    exact head.name.not_mem (by decide) mem
  | some a =>
    obtain ⟨before, attributes⟩ := List.getLast?_eq_some_iff.mp eq
    -- the last character is the closing quote of the last value
    have last : head.body = head.name.chars ++ before.flatMap Attribute.written ++
        (' ' :: a.name.chars ++ '=' :: a.quote.char :: a.value) ++ [a.quote.char] := by
      simp [body, attributes, Attribute.written]
    rw [last, List.getLast?_concat]
    cases a.quote <;> decide

/-- A start tag is one token. -/
theorem scan_startTag (rest : List Char) :
    scan (head.startTag ++ rest) = .token (.startTag head.tag) head.startTag rest := by
  obtain ⟨c, cs, eq, bang, question, slash⟩ := head.body_cons
  have ends : tagBody? none (head.body ++ '>' :: rest) = some (head.body, rest) := by
    simp [head.inTag _, tagBody?]
  have kind : Token.ofTagBody head.body = .startTag head.tag := by
    simp [Token.ofTagBody, head.getLast?_body, head.ofBody_body]
  have reads : scan ('<' :: (head.body ++ '>' :: rest)) =
      .token (Token.ofTagBody head.body) head.startTag rest := by
    rw [scan, scanMarkup]
    · rw [ends]
      rfl
    all_goals simp_all
  rw [← kind, ← reads]
  simp [startTag]

/-- A tag that opens and closes an element is one token. -/
theorem scan_emptyTag (rest : List Char) :
    scan (head.emptyTag ++ rest) = .token (.emptyTag head.tag) head.emptyTag rest := by
  obtain ⟨c, cs, eq, bang, question, slash⟩ := head.body_cons
  have ends : tagBody? none (head.body ++ '/' :: '>' :: rest) =
      some (head.body ++ ['/'], rest) := by
    simp [head.inTag _, tagBody?]
  have kind : Token.ofTagBody (head.body ++ ['/']) = .emptyTag head.tag := by
    simp [Token.ofTagBody, head.ofBody_body]
  have reads : scan ('<' :: (head.body ++ '/' :: '>' :: rest)) =
      .token (Token.ofTagBody (head.body ++ ['/'])) head.emptyTag rest := by
    rw [scan, scanMarkup]
    · rw [ends]
      simp [emptyTag]
    all_goals simp_all
  rw [← kind, ← reads]
  simp [emptyTag]

/-- An end tag is one token, with the name of the element. -/
theorem scan_endTag (rest : List Char) :
    scan (head.endTag ++ rest) = .token (.endTag head.name.text) head.endTag rest := by
  have ends : tagBody? none (head.name.chars ++ '>' :: rest) = some (head.name.chars, rest) := by
    simp [head.name.inTag _, tagBody?]
  have noSpace : ∀ c ∈ head.name.chars, isMarkupSpace c = false := fun c mem =>
    isMarkupSpace_of_isNameChar (head.name.allowed c mem)
  have name : endTagName head.name.chars = head.name.text := by
    have noBlank : head.name.chars.all isMarkupSpace = false := by
      obtain ⟨c, cs, eq⟩ := List.exists_cons_of_ne_nil head.name.filled
      simp [eq, noSpace c (by simp [eq])]
    -- there are no spaces to strip before the bracket
    have kept : head.name.chars.reverse.dropWhile isMarkupSpace = head.name.chars.reverse := by
      cases eq : head.name.chars.reverse with
      | nil => rfl
      | cons c cs =>
        have mem : c ∈ head.name.chars := List.mem_reverse.mp (by simp [eq])
        simp [noSpace c mem]
    simp [endTagName, noBlank, kept, Name.text]
  have reads : scan ('<' :: '/' :: (head.name.chars ++ '>' :: rest)) =
      .token (.endTag (endTagName head.name.chars)) head.endTag rest := by
    simp [scan, scanMarkup, ends, endTag]
  rw [← name, ← reads]
  simp [endTag]

end Head

/-! ## Markers -/

/-- Splitting at a marker that does not occur before, not even in part. -/
theorem splitAtFirst?_eq {marker body : List Char}
    (first : ¬ marker <:+: body ++ marker.dropLast) (rest : List Char) :
    splitAtFirst? marker (body ++ marker ++ rest) = some (body, rest) := by
  induction body with
  | nil =>
    cases marker with
    | nil => exact absurd List.nil_infix first
    | cons m marker => simp [splitAtFirst?]
  | cons c body ih =>
    have here : ¬ marker <+: c :: (body ++ marker ++ rest) := by
      intro starts
      -- what it would take up ends before the marker does
      have front : c :: body ++ marker.dropLast <+: c :: (body ++ marker ++ rest) := by
        have := (List.dropLast_prefix marker).trans (List.prefix_append marker rest)
        simpa using this
      have shorter : marker.length ≤ (c :: body ++ marker.dropLast).length := by
        simp
        omega
      exact first (List.prefix_of_prefix_length_le starts front shorter).isInfix
    have later : ¬ marker <:+: body ++ marker.dropLast := fun mem =>
      first (List.infix_cons mem)
    simp only [List.append_assoc] at here ih
    simp [splitAtFirst?, here, ih later]

/-- A marker that ends with another character is not completed by one character. -/
theorem infix_of_infix_concat {marker body : List Char} {c : Char}
    (other : marker.getLast? ≠ some c) (filled : marker ≠ []) (mem : marker <:+: body ++ [c]) :
    marker <:+: body := by
  rcases List.infix_concat_iff.mp mem with last | mem
  · rcases List.suffix_concat_iff.mp last with rfl | ⟨front, rfl, -⟩
    · exact absurd rfl filled
    · simp at other
  · exact mem

/-- A marker does not begin where its first character does not occur. -/
theorem infix_of_infix_append {m : Char} {marker front body : List Char} (none : m ∉ front)
    (mem : m :: marker <:+: front ++ body) : m :: marker <:+: body := by
  induction front with
  | nil => exact mem
  | cons c front ih =>
    simp only [List.mem_cons, not_or] at none
    rcases List.infix_cons_iff.mp mem with starts | mem
    · exact absurd (List.cons_prefix_cons.mp starts).1 none.1
    · exact ih none.2 mem

/-! ## Leaves -/

/-- The token of what is neither an element nor text. -/
def Leaf.token : Leaf → Token
  | .text .. => .characters
  | .reference .. => .reference
  | .cdata .. => .cdata
  | .comment .. => .comment
  | .instruction .. => .instruction

theorem scan_reference {name : List Char} (inside : ∀ c ∈ name, isInReference c)
    (rest : List Char) :
    scan ("&".toList ++ name ++ ";".toList ++ rest) =
      .token .reference ("&".toList ++ name ++ ";".toList) rest := by
  simp [scan, scanAmpersand, List.takeWhile_append_of_pos inside,
    List.dropWhile_append_of_pos inside, isInReference]

/-- A section ends with the first end that follows its body. -/
theorem splitAtFirst?_body {body : List Char} (inside : ¬ "]]>".toList <:+: body)
    (rest : List Char) :
    splitAtFirst? "]]>".toList (body ++ "]]>".toList ++ rest) = some (body, rest) := by
  have first : ¬ "]]>".toList <:+: body ++ "]]>".toList.dropLast := by
    intro mem
    -- the marker ends with `>`, the two characters after the body do not
    have one : "]]>".toList <:+: (body ++ [']']) ++ [']'] := by simpa using mem
    exact inside (infix_of_infix_concat (by decide) (by decide)
      (infix_of_infix_concat (by decide) (by decide) one))
  exact splitAtFirst?_eq first rest

theorem scan_cdata {body : List Char} (inside : ¬ "]]>".toList <:+: body) (rest : List Char) :
    scan ("<![CDATA[".toList ++ body ++ "]]>".toList ++ rest) =
      .token .cdata ("<![CDATA[".toList ++ body ++ "]]>".toList) rest := by
  have split := splitAtFirst?_body inside rest
  simp only [String.reduceToList, List.append_assoc, List.cons_append, List.nil_append] at split ⊢
  simp [scan, scanMarkup, scanBang, split]

theorem scan_comment {body : List Char} (inside : ¬ "--".toList <:+: body) (rest : List Char) :
    scan ("<!--".toList ++ body ++ "-->".toList ++ rest) =
      .token .comment ("<!--".toList ++ body ++ "-->".toList) rest := by
  have first : ¬ "-->".toList <:+: body ++ "-->".toList.dropLast := by
    intro mem
    have one : "-->".toList <:+: (body ++ ['-']) ++ ['-'] := by simpa using mem
    have within : "-->".toList <:+: body := infix_of_infix_concat (by decide) (by decide)
      (infix_of_infix_concat (by decide) (by decide) one)
    -- a body that holds the whole marker holds its two dashes
    exact inside (List.IsInfix.trans ⟨[], ['>'], rfl⟩ within)
  have split := splitAtFirst?_eq first rest
  simp only [String.reduceToList, List.append_assoc, List.cons_append, List.nil_append] at split ⊢
  simp [scan, scanMarkup, scanBang, split]

theorem scan_instruction (target : Name) {body : List Char} (inside : ¬ "?>".toList <:+: body)
    (rest : List Char) :
    scan ("<?".toList ++ (target.chars ++ body) ++ "?>".toList ++ rest) =
      .token .instruction ("<?".toList ++ (target.chars ++ body) ++ "?>".toList) rest := by
  have first : ¬ "?>".toList <:+: target.chars ++ body ++ "?>".toList.dropLast := by
    intro mem
    have one : "?>".toList <:+: (target.chars ++ body) ++ ['?'] := by simpa using mem
    have within : "?>".toList <:+: target.chars ++ body :=
      infix_of_infix_concat (by decide) (by decide) one
    exact inside (infix_of_infix_append (target.not_mem (by decide)) within)
  have split := splitAtFirst?_eq first rest
  -- an instruction that begins with a bracket would not be closed
  obtain ⟨c, cs, eq⟩ := List.exists_cons_of_ne_nil target.filled
  have bracket : c ≠ '>' := ne_of_isNameChar (target.allowed c (by simp [eq])) (by decide)
  simp only [String.reduceToList, List.append_assoc, List.cons_append, List.nil_append, eq]
    at split ⊢
  simp [scan, scanMarkup, scanInstruction, split, bracket]

/-- What is neither an element nor text is one token. -/
theorem Leaf.scan_written (leaf : Leaf) (noText : leaf.token ≠ .characters) (rest : List Char) :
    scan (leaf.written ++ rest) = .token leaf.token leaf.written rest := by
  cases leaf with
  | text => exact absurd rfl noText
  | reference name inside => exact scan_reference inside rest
  | cdata body inside => exact scan_cdata inside rest
  | comment body inside => exact scan_comment inside rest
  | instruction target body inside => exact scan_instruction target inside rest

theorem scan_of_isPlain {c : Char} (plain : isPlain c = true) (cs : List Char) :
    scan (c :: cs) =
      .token .characters ((c :: cs).takeWhile isPlain) ((c :: cs).dropWhile isPlain) := by
  simp only [isPlain, bne_iff_ne, ne_eq, Bool.and_eq_true] at plain
  rw [scan]
  all_goals simp_all

/-- A text that begins with plain characters gives all of them as one token. -/
theorem scan_takeWhile {cs : List Char} (filled : cs.takeWhile isPlain ≠ []) :
    scan cs = .token .characters (cs.takeWhile isPlain) (cs.dropWhile isPlain) := by
  cases cs with
  | nil => exact absurd rfl filled
  | cons c cs =>
    have plain : isPlain c = true := by
      by_contra other
      exact filled (List.takeWhile_cons_of_neg other)
    exact scan_of_isPlain plain cs

/-- Text is one token with all the plain characters that come after it. -/
theorem scan_plain {chars : List Char} (filled : chars ≠ []) (plain : ∀ c ∈ chars, isPlain c)
    (rest : List Char) :
    scan (chars ++ rest) =
      .token .characters (chars ++ rest.takeWhile isPlain) (rest.dropWhile isPlain) := by
  rw [← List.takeWhile_append_of_pos plain, ← List.dropWhile_append_of_pos plain]
  refine scan_takeWhile ?_
  rw [List.takeWhile_append_of_pos plain]
  simp [filled]

end IconForge.Markup.Tree
