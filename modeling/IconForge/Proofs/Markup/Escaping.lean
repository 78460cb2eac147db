import IconForge.Proofs.Markup.Decoding
import IconForge.Proofs.Markup.Scanning

/-!
# Attributes are read as they were meant

The attributes that a tag is written with are read one by one, and decoding the escaped value of an
attribute gives the value back.

## Main statements

- `decodeText_escape`: decoding undoes escaping.
- `Root.decodedAttributes_tag`: the attributes of a root.
-/

namespace IconForge.Markup.Tree

open IconForge.Text

/-! ## Values -/

/-- A known reference is replaced by its character. -/
theorem unescape?_reference (name : List Char) {c : Char} (inside : ∀ d ∈ name, d ≠ ';' ∧ d ≠ '&')
    (known : referenced? name = some c) (rest : List Char) :
    unescape? ('&' :: (name ++ ';' :: rest)) = (unescape? rest).map (c :: ·) := by
  rw [unescape?_named name inside, known, Option.bind_some]

/-- Replacing references undoes escaping, one character after the other. -/
theorem unescape?_escapeChar (c : Char) (rest : List Char) :
    unescape? (escapeChar c ++ rest) = (unescape? rest).map (c :: ·) := by
  unfold escapeChar
  split_ifs with amp lt gt quot apos
  · subst amp
    exact unescape?_reference "amp".toList (by simp) rfl rest
  · subst lt
    exact unescape?_reference "lt".toList (by simp) rfl rest
  · subst gt
    exact unescape?_reference "gt".toList (by simp) rfl rest
  · subst quot
    exact unescape?_reference "quot".toList (by simp) rfl rest
  · subst apos
    exact unescape?_reference "apos".toList (by simp) rfl rest
  · exact unescape?_cons amp rest

theorem unescape?_escape (cs : List Char) : unescape? (escape cs) = some cs := by
  induction cs with
  | nil => simp [escape, unescape?]
  | cons c cs ih =>
    -- escaping a text escapes its first character and then the others
    have step := unescape?_escapeChar c (escape cs)
    rw [ih] at step
    exact step

/-- Decoding undoes escaping. -/
theorem decodeText_escape (cs : List Char) : decodeText (escape cs) = cs := by
  have noTag : '<' ∉ escape cs := not_mem_escape (by simp) cs
  -- without tags the whole text is one run
  rw [decodeText_of_not_mem noTag, unescape, unescape?_escape]
  rfl

/-! ## Rows of attributes -/

/-- The value of an attribute is what stands between its quotes. -/
theorem attributeValue?_quoted (a : Attribute) (rest : List Char) :
    attributeValue? (a.quote.char :: (a.value ++ a.quote.char :: rest)) = some (a.value, rest) := by
  have first : ¬ [a.quote.char] <:+: a.value ++ [a.quote.char].dropLast := by
    intro mem
    exact a.closed (by simpa [List.singleton_infix_iff] using mem)
  have split := splitAtFirst?_eq first rest
  cases quote : a.quote <;>
  · rw [quote] at split
    simp_all [attributeValue?, Quote.char, isMarkupSpace]

/-- An attribute is read first, and leaves what comes after it. -/
theorem nextAttribute?_written (a : Attribute) (rest : List Char) :
    nextAttribute? (a.written ++ rest) = some ((a.name.chars, a.value), rest) := by
  obtain ⟨c, cs, eq⟩ := List.exists_cons_of_ne_nil a.name.filled
  have noSpace : isMarkupSpace c = false :=
    isMarkupSpace_of_isNameChar (a.name.allowed c (by simp [eq]))
  have named : ∀ d ∈ cs, isNameRest d = true := fun d mem =>
    isNameRest_of_isNameChar (a.name.allowed d (by simp [eq, mem]))
  -- the name goes up to the equals sign
  generalize value : a.quote.char :: (a.value ++ a.quote.char :: rest) = after
  have name : (cs ++ '=' :: after).takeWhile isNameRest = cs := by
    simp [List.takeWhile_append_of_pos named, isNameRest]
  have sign : ((cs ++ '=' :: after).dropWhile isNameRest).dropWhile isMarkupSpace =
      '=' :: after := by
    simp [List.dropWhile_append_of_pos named, isNameRest, isMarkupSpace]
  have start : (a.written ++ rest).dropWhile isMarkupSpace = c :: (cs ++ '=' :: after) := by
    have space : isMarkupSpace ' ' = true := rfl
    simp [Attribute.written, eq, ← value, space, noSpace]
  have quoted : attributeValue? after = some (a.value, rest) := by
    rw [← value]
    exact attributeValue?_quoted a rest
  rw [nextAttribute?, start]
  simp only [name, sign, quoted, Option.map_some, eq]

/-- The attributes are read in the order in which they are written. -/
theorem attributes_written (as : List Attribute) :
    attributes (as.flatMap Attribute.written) = as.map fun a => (a.name.chars, a.value) := by
  induction as with
  | nil =>
    rw [attributes]
    rfl
  | cons a as ih =>
    have first := nextAttribute?_written a (as.flatMap Attribute.written)
    rw [List.flatMap_cons, attributes]
    split
    · rename_i ended
      exact absurd (first.symm.trans ended) (Option.some_ne_none _)
    · rename_i found
      obtain ⟨rfl, rfl⟩ := Prod.mk.inj (Option.some.inj (first.symm.trans found))
      rw [ih, List.map_cons]

/-- The attributes of a root have their names and their values, as they were meant. -/
theorem Root.decodedAttributes_tag (root : Root) :
    root.head.tag.decodedAttributes = root.attributes.map fun a => (a.name.text, a.value) := by
  simp [Tag.decodedAttributes, Head.tag, Root.head, attributes_written, RootAttribute.attribute,
    decodeText_escape, Name.text, Function.comp_def]

end IconForge.Markup.Tree
