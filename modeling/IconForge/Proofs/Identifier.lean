import IconForge.Icon.Identifier
import IconForge.Proofs.Text.Pieces

/-!
# The shape of names

Every name that an icon asks for begins with an ASCII upper-case letter, whether it comes from a
text or from the fallback sequence, and whatever its suffix. What else it holds depends on the
suffix; `isIdentifier` is the check that decides.

## Main statements

- `words_spec`: a word is not empty and holds ASCII letters and digits only.
- `camelCase_spec`: so does a text in camel case, and it begins with a capital or a digit.
- `camelCase_eq_self`: and camel case leaves such a text as it is.
- `camelCase_isEmpty`: it is empty if the text holds no letter or digit.
- `startsUpper_normalizedName?`, `startsUpper_fallbackName`: names begin with a capital.
- `word_of_isIdentifier`: an identifier holds ASCII letters and digits only.
-/

namespace IconForge

open IconForge.Text

/-! ## Letters and digits -/

/-- Capitals and digits have no other upper case. -/
theorem toUpper_eq_self {c : Char} (h : c.isUpper = true ∨ c.isDigit = true) : c.toUpper = c := by
  apply Char.toUpper_eq_of_not_isLower
  intro lower
  simp only [Char.isUpper, Char.isDigit, Char.isLower, Bool.and_eq_true,
    decide_eq_true_eq] at h lower
  rcases h with capital | digit
  · exact absurd (UInt32.le_trans lower.1 capital.2) (by decide)
  · exact absurd (UInt32.le_trans lower.1 digit.2) (by decide)

/-- A letter or digit in upper case is a capital or a digit. -/
theorem isUpper_or_isDigit_toUpper {c : Char} (h : isWordChar c = true) :
    c.toUpper.isUpper = true ∨ c.toUpper.isDigit = true := by
  rw [isWordChar, Char.isAlphanum, Bool.or_eq_true] at h
  rcases h with letter | digit
  · exact Or.inl (by rw [Char.isUpper_toUpper_eq_isAlpha, letter])
  · exact Or.inr (by rw [toUpper_eq_self (Or.inr digit), digit])

theorem isWordChar_of_isUpper {c : Char} (h : c.isUpper = true) : isWordChar c = true := by
  simp [isWordChar, Char.isAlphanum, Char.isAlpha, h]

/-- Letters and digits stay letters and digits in upper case. -/
theorem isWordChar_toUpper {c : Char} (h : isWordChar c = true) :
    isWordChar c.toUpper = true := by
  rcases isUpper_or_isDigit_toUpper h with upper | digit
  · exact isWordChar_of_isUpper upper
  · simp [isWordChar, Char.isAlphanum, digit]

/-! ## Words -/

/-- A word is not empty, and holds letters and digits only. -/
theorem words_spec {cs word : List Char} (mem : word ∈ words cs) :
    word ≠ [] ∧ ∀ c ∈ word, isWordChar c = true := by
  rw [words, List.mem_filter] at mem
  refine ⟨by simpa using mem.2, ?_⟩
  intro c hc
  simpa using not_of_mem_splitWhere mem.1 c hc

/-- The words of a text in a row are its letters and digits. -/
theorem flatten_words (cs : List Char) : (words cs).flatten = cs.filter isWordChar := by
  rw [words, List.flatten_filter_not_isEmpty, flatten_splitWhere]
  simp

/-- Letters and digits in a row are one word. -/
theorem words_of_forall {cs : List Char} (filled : cs ≠ [])
    (letters : ∀ c ∈ cs, isWordChar c = true) : words cs = [cs] := by
  have none : ∀ c ∈ cs, (!isWordChar c) = false := by simpa using letters
  rw [words, splitWhere_of_forall none]
  simp [filled]

/-- A word with a capital first letter holds letters and digits only. -/
theorem isWordChar_capitalized {word : List Char} (h : ∀ c ∈ word, isWordChar c = true) :
    ∀ c ∈ capitalized word, isWordChar c = true := by
  cases word with
  | nil => simp [capitalized]
  | cons c cs =>
    rw [List.forall_mem_cons] at h
    exact List.forall_mem_cons.mpr ⟨isWordChar_toUpper h.1, h.2⟩

/-- A text in camel case holds letters and digits only, and does not begin with a small letter. -/
theorem camelCase_spec (s : String) :
    (∀ c ∈ (camelCase s).toList, isWordChar c = true) ∧
      ∀ c ∈ (camelCase s).toList.head?, c.isUpper = true ∨ c.isDigit = true := by
  rw [camelCase, String.toList_ofList]
  constructor
  · intro c hc
    obtain ⟨word, mem, hc⟩ := List.mem_flatMap.mp hc
    exact isWordChar_capitalized (words_spec mem).2 c hc
  · intro c hc
    -- the first character is that of the first word, in upper case
    cases eq : words s.toList with
    | nil => simp [eq] at hc
    | cons word more =>
      have spec := words_spec (eq ▸ List.mem_cons_self : word ∈ words s.toList)
      cases word with
      | nil => exact absurd rfl spec.1
      | cons d ds =>
        obtain rfl : d.toUpper = c := by simpa [eq, capitalized] using hc
        exact isUpper_or_isDigit_toUpper (spec.2 d List.mem_cons_self)

/-- Camel case leaves such a text as it is. -/
theorem camelCase_eq_self {s : String} (letters : ∀ c ∈ s.toList, isWordChar c = true)
    (first : ∀ c ∈ s.toList.head?, c.isUpper = true ∨ c.isDigit = true) : camelCase s = s := by
  rw [← String.toList_inj, camelCase, String.toList_ofList]
  cases chars : s.toList with
  | nil => rfl
  | cons c cs =>
    rw [chars] at letters first
    rw [words_of_forall (by simp) letters, List.flatMap_singleton, capitalized,
      toUpper_eq_self (first c rfl)]

theorem capitalized_eq_nil_iff {word : List Char} : capitalized word = [] ↔ word = [] := by
  cases word <;> simp [capitalized]

/-- A text holds a letter or digit. -/
def hasWordChar (s : String) : Bool := s.toList.any isWordChar

/-- A text in camel case is empty if the text holds no letter or digit. -/
theorem camelCase_isEmpty (s : String) : (camelCase s).isEmpty = !hasWordChar s := by
  -- camel case has a character for each one that the words have
  have noWords : (words s.toList).flatMap capitalized = [] ↔ s.toList.filter isWordChar = [] := by
    rw [← flatten_words, List.flatMap_eq_nil_iff, List.flatten_eq_nil_iff]
    simp only [capitalized_eq_nil_iff]
  rw [Bool.eq_iff_iff, String.isEmpty_iff, camelCase, String.ofList_eq_empty_iff, noWords,
    hasWordChar, List.filter_eq_nil_iff]
  simp

/-! ## First letters -/

/-- A text begins with an ASCII upper-case letter. -/
def startsUpper (s : String) : Bool := s.toList.head?.any Char.isUpper

/-- What follows a first letter does not matter. -/
theorem startsUpper_append {s : String} (h : startsUpper s = true) (t : String) :
    startsUpper (s ++ t) = true := by
  unfold startsUpper at h ⊢
  rw [String.toList_append, List.head?_append]
  cases first : s.toList.head? with
  | none => simp [first] at h
  | some c => simpa [first] using h

theorem startsUpper_fallbackStem_append (t : String) : startsUpper (fallbackStem ++ t) = true :=
  startsUpper_append (by decide) t

theorem startsUpper_withSuffix {name : String} (h : startsUpper name = true) (suffix : String) :
    startsUpper (withSuffix name suffix) = true := by
  unfold withSuffix
  split
  · exact h
  · exact startsUpper_append h suffix

/-- A text in camel case that is not empty begins with a capital once it does not begin with a
digit any more. -/
theorem startsUpper_startingWithLetter {s : String} (h : (camelCase s).isEmpty = false) :
    startsUpper (startingWithLetter (camelCase s)) = true := by
  unfold startingWithLetter
  split
  · exact startsUpper_fallbackStem_append _
  · -- without a digit in front, camel case begins with a capital of its own
    rename_i noDigit
    unfold startsUpper
    cases first : (camelCase s).toList.head? with
    | none =>
      have : camelCase s = "" := by simpa using first
      simp [this] at h
    | some c =>
      have := (camelCase_spec s).2 c (by rw [first]; rfl)
      simp_all

/-- The name that a text suggests begins with a capital. -/
theorem startsUpper_normalizedName? {text suffix name : String}
    (h : normalizedName? text suffix = some name) : startsUpper name = true := by
  unfold normalizedName? at h
  dsimp only at h
  split at h
  · simp at h
  · rename_i notEmpty
    obtain rfl := Option.some.inj h
    exact startsUpper_withSuffix (startsUpper_startingWithLetter (by simpa using notEmpty)) suffix

/-- The names that need no text begin with a capital. -/
theorem startsUpper_fallbackName (n : Nat) (suffix : String) :
    startsUpper (fallbackName n suffix) = true :=
  startsUpper_withSuffix (startsUpper_fallbackStem_append _) suffix

/-! ## Identifiers -/

/-- An identifier holds letters and digits only. -/
theorem word_of_isIdentifier {name : String} (h : isIdentifier name = true) :
    ∀ c ∈ name.toList, isWordChar c = true := by
  unfold isIdentifier at h
  split at h
  · simp at h
  · rename_i c cs eq
    rw [Bool.and_eq_true, List.all_eq_true] at h
    rw [eq]
    refine List.forall_mem_cons.mpr ⟨?_, h.2⟩
    simp [isWordChar, Char.isAlphanum, h.1]

/-- The text of an identifier is what it was made from. -/
theorem text_of_ofString {name : String} {id : Identifier}
    (h : Identifier.ofString name = .ok id) : id.text = name := by
  unfold Identifier.ofString at h
  split at h
  · obtain rfl := Except.ok.inj h
    rfl
  · simp at h

/-- Identifiers with the same text are the same. -/
theorem Identifier.text_injective : Function.Injective Identifier.text := by
  rintro ⟨s, hs⟩ ⟨t, ht⟩ h
  cases h
  rfl

end IconForge
