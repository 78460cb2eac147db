import IconForge.Proofs.Component.Literal
import IconForge.Text.Search

/-!
# What an attribute decodes to

Between the quotes of an attribute an entity stands for a text, and everything else for itself. A
view box is written with all of its ampersands as `&amp;` and then all of its quotes as `&quot;`,
which comes to one code for each character. So each ampersand that is written begins an entity, and
one pass over the entities gives back the value, also one that has entities in it already.

What other entities a reader knows does not matter, as none of them is written.

## Main definitions

- `Entities.decode`: one pass from left to right.
- `WellQuoted`: what may stand between the quotes.

## Main statements

- `toList_attributeText`: replacing first ampersands and then quotes, and one code for each
  character, are the same.
- `Entities.decode_attributeChar`: one character, before anything else.
- `attributeText_decodes`: values.
-/

namespace IconForge.Component

open IconForge.Text

/-! ## Two replacements -/

/-- A text with each occurrence of a character replaced. -/
def replaceAll (c : Char) (replacement : List Char) (cs : List Char) : List Char :=
  cs.flatMap fun d => if d = c then replacement else [d]

/-- The code of a character, taken once more for its quotes, is what one code makes of it. -/
theorem replaceAll_ampersand (c : Char) :
    replaceAll '"' "&quot;".toList (if c = '&' then "&amp;".toList else [c]) = attributeChar c := by
  by_cases ampersand : c = '&'
  · subst ampersand
    rfl
  · rw [if_neg ampersand]
    unfold attributeChar
    split
    · contradiction
    · rfl
    · rename_i other
      have quote : c ≠ '"' := other
      rw [replaceAll, List.flatMap_singleton, if_neg quote]

/-- Ampersands are replaced first, so that the entities of quotes are left alone. -/
theorem toList_attributeText (value : String) :
    (attributeText value).toList =
      replaceAll '"' "&quot;".toList (replaceAll '&' "&amp;".toList value.toList) := by
  rw [attributeText, String.toList_ofList, replaceAll, replaceAll, List.flatMap_assoc]
  exact List.flatMap_congr fun c _ => (replaceAll_ampersand c).symm

-- in the other order the ampersand of an entity is replaced too
example : replaceAll '&' "&amp;".toList (replaceAll '"' "&quot;".toList ['"']) =
    "&amp;quot;".toList := by
  decide

/-! ## Decoding -/

/-- The entities that a reader knows, each by its name. -/
structure Entities where
  text? : List Char → Option (List Char)
  amp : text? "amp".toList = some ['&']
  quot : text? "quot".toList = some ['"']

/-- The two entities that are written are enough. -/
instance : Inhabited Entities where
  default :=
    { text? name :=
        if name = "amp".toList then some ['&']
        else if name = "quot".toList then some ['"']
        else none
      amp := rfl
      quot := rfl }

/-- A character that the name of an entity can go on with. -/
def isInEntity (c : Char) : Bool := c != ';' && c != '&'

/-- A text with its entities replaced, in one pass from left to right: an ampersand that begins no
entity that is known stands for itself. -/
def Entities.decode (entities : Entities) : List Char → List Char
  | [] => []
  | c :: cs =>
    if c = '&' then
      match h : cs.dropWhile isInEntity with
      | ';' :: rest =>
        match entities.text? (cs.takeWhile isInEntity) with
        | some text =>
          have := length_lt_of_dropWhile_eq h
          text ++ decode entities rest
        | none => '&' :: decode entities cs
      | _ => '&' :: decode entities cs
    else c :: decode entities cs
termination_by cs => cs.length
decreasing_by
  · exact Nat.lt_succ_of_lt this
  all_goals exact Nat.lt_succ_self cs.length

/-- An entity that is known is replaced. -/
theorem Entities.decode_entity (entities : Entities) (name : List Char) {text : List Char}
    (inside : ∀ c ∈ name, isInEntity c = true) (known : entities.text? name = some text)
    (rest : List Char) :
    entities.decode ('&' :: (name ++ ';' :: rest)) = text ++ entities.decode rest := by
  have stop : isInEntity ';' = false := rfl
  have before : (name ++ ';' :: rest).takeWhile isInEntity = name := by
    simp [List.takeWhile_append_of_pos inside, stop]
  have after : (name ++ ';' :: rest).dropWhile isInEntity = ';' :: rest := by
    simp [List.dropWhile_append_of_pos inside, stop]
  rw [decode, if_pos rfl]
  -- the name ends at its semicolon, so that the first case is the one that is taken
  split
  · rename_i rest' eq
    obtain rfl : rest' = rest := by
      rw [after] at eq
      exact (List.cons.inj eq).2.symm
    rw [before, known]
  · rename_i other
    exact absurd after (other rest)

/-- A character that is written into an attribute is decoded to itself. -/
theorem Entities.decode_attributeChar (entities : Entities) (c : Char) (rest : List Char) :
    entities.decode (attributeChar c ++ rest) = c :: entities.decode rest := by
  unfold attributeChar
  split
  · exact entities.decode_entity "amp".toList (by simp [isInEntity]) entities.amp rest
  · exact entities.decode_entity "quot".toList (by simp [isInEntity]) entities.quot rest
  · rename_i ampersand _
    rw [List.singleton_append, decode, if_neg ampersand]

theorem Entities.decode_flatMap (entities : Entities) (cs : List Char) :
    entities.decode (cs.flatMap attributeChar) = cs := by
  induction cs with
  | nil => rw [List.flatMap_nil, decode]
  | cons c cs ih => rw [List.flatMap_cons, decode_attributeChar, ih]

/-! ## Between the quotes -/

/-- A text that can stand between two quotes and holds no ampersand that begins no entity. -/
structure WellQuoted (cs : List Char) : Prop where
  noQuote : '"' ∉ cs
  ampersands : ∀ before after, cs = before ++ '&' :: after →
    "amp;".toList <+: after ∨ "quot;".toList <+: after

theorem wellQuoted_nil : WellQuoted [] where
  noQuote := List.not_mem_nil
  ampersands before after eq := by simp at eq

theorem WellQuoted.append {cs ds : List Char} (first : WellQuoted cs) (second : WellQuoted ds) :
    WellQuoted (cs ++ ds) where
  noQuote := by simp [first.noQuote, second.noQuote]
  ampersands before after eq := by
    rcases List.append_eq_append_iff.mp eq with ⟨more, -, later⟩ | ⟨more, here, later⟩
    · exact second.ampersands more after later
    · cases more with
      | nil => exact second.ampersands [] after later.symm
      | cons c more =>
        -- what follows the ampersand in the first text is what it was before
        obtain ⟨rfl, rfl⟩ := List.cons.inj later
        have goesOn : more <+: more ++ ds := List.prefix_append _ _
        exact (first.ampersands before more here).imp (·.trans goesOn) (·.trans goesOn)

theorem wellQuoted_entity {inside : List Char} (noQuote : '"' ∉ inside) (noMore : '&' ∉ inside)
    (entity : "amp;".toList <+: inside ∨ "quot;".toList <+: inside) :
    WellQuoted ('&' :: inside) where
  noQuote := by simp [noQuote]
  ampersands before after eq := by
    -- there is one ampersand only, which is the first character
    cases before with
    | nil =>
      obtain rfl := (List.cons.inj eq).2
      exact entity
    | cons c before =>
      rw [(List.cons.inj eq).2] at noMore
      exact absurd (List.mem_append_right before List.mem_cons_self) noMore

theorem wellQuoted_attributeChar (c : Char) : WellQuoted (attributeChar c) := by
  unfold attributeChar
  split
  · exact wellQuoted_entity (by decide) (by decide) (Or.inl (List.prefix_refl _))
  · exact wellQuoted_entity (by decide) (by decide) (Or.inr (List.prefix_refl _))
  · rename_i ampersand quote
    refine ⟨by simpa using fun eq : '"' = c => quote eq.symm, fun before after eq => ?_⟩
    have mem : '&' ∈ [c] := by simp [eq]
    exact absurd (List.mem_singleton.mp mem).symm ampersand

theorem wellQuoted_flatMap (cs : List Char) : WellQuoted (cs.flatMap attributeChar) := by
  induction cs with
  | nil => exact wellQuoted_nil
  | cons c cs ih => exact (wellQuoted_attributeChar c).append ih

/-! ## Values -/

/-- A value is written by replacing its ampersands and then its quotes, so that no quote is left and
every ampersand begins an entity, and decoding gives the value back. -/
theorem attributeText_decodes (value : String) :
    (attributeText value).toList =
        replaceAll '"' "&quot;".toList (replaceAll '&' "&amp;".toList value.toList) ∧
      WellQuoted (attributeText value).toList ∧
      ∀ entities : Entities,
        String.ofList (entities.decode (attributeText value).toList) = value := by
  have written : (attributeText value).toList = value.toList.flatMap attributeChar := by
    rw [attributeText, String.toList_ofList]
  refine ⟨toList_attributeText value, ?_, fun entities => ?_⟩
  · rw [written]
    exact wellQuoted_flatMap _
  · rw [written, entities.decode_flatMap, String.ofList_toList]

end IconForge.Component
