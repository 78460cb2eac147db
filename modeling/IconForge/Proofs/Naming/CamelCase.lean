import IconForge.Proofs.Identifier

/-!
# Camel case in one pass

Camel case cuts a text into words, gives each of them a capital first letter and puts them together
again. The same comes of reading the text once, character by character, with nothing kept in mind
but the character before: what is no letter or digit is dropped, and what a word starts with is put
into upper case. So two texts with something between them that is dropped do not touch each other.

## Main statements

- `camelCase_eq_scanWords`: camel case in one pass.
- `camelCase_append_separated`: camel case of two texts that are kept apart.
- `camelCase_one_pass`: what camel case does to any text.
-/

namespace IconForge

open IconForge.Text

/-! ## One pass -/

/-- A word can start after this character, or at the beginning of a text. -/
def startsWord (before : Option Char) : Bool := before.all fun c => !isWordChar c

/-- The letters and digits of a text that goes on after the character `before`, those in upper case
that a word starts with. -/
def scanWords : (before : Option Char) → List Char → List Char
  | _, [] => []
  | before, c :: cs =>
    if isWordChar c then
      (if startsWord before then c.toUpper else c) :: scanWords (some c) cs
    else scanWords (some c) cs

/-- The pieces of a text in one pass. The first one goes on with a word, or it starts one. -/
theorem scanWords_eq (before : Option Char) {cs piece : List Char} {pieces : List (List Char)}
    (cut : splitWhere (fun c => !isWordChar c) cs = piece :: pieces) :
    scanWords before cs =
      (if startsWord before then capitalized piece else piece) ++ pieces.flatMap capitalized := by
  induction cs generalizing before piece pieces with
  | nil =>
    obtain ⟨rfl, rfl⟩ : piece = [] ∧ pieces = [] := by simpa [splitWhere, eq_comm] using cut
    simp [scanWords, capitalized]
  | cons c cs ih =>
    obtain ⟨next, later, eq⟩ :=
      List.exists_cons_of_ne_nil (splitWhere_ne_nil (fun c => !isWordChar c) cs)
    have rest := ih (some c) eq
    rw [splitWhere, eq] at cut
    by_cases kept : isWordChar c = true
    · -- the word goes on
      obtain ⟨rfl, rfl⟩ : c :: next = piece ∧ later = pieces := by simpa [kept] using cut
      have inside : startsWord (some c) = false := by simp [startsWord, kept]
      rw [inside] at rest
      rw [scanWords, if_pos kept, rest]
      cases startsWord before <;> rfl
    · -- the piece ends here, and the next one starts a word
      obtain ⟨rfl, rfl⟩ : [] = piece ∧ next :: later = pieces := by simpa [kept] using cut
      have outside : startsWord (some c) = true := by simp [startsWord, kept]
      rw [outside, if_pos rfl] at rest
      rw [scanWords, if_neg kept, rest]
      simp [capitalized]

/-- Empty pieces are written as nothing. -/
theorem flatMap_capitalized_filter (pieces : List (List Char)) :
    (pieces.filter fun piece => !piece.isEmpty).flatMap capitalized =
      pieces.flatMap capitalized := by
  induction pieces with
  | nil => rfl
  | cons piece pieces ih => cases piece <;> simp [capitalized, ih]

theorem camelCase_eq_scanWords (s : String) :
    camelCase s = String.ofList (scanWords none s.toList) := by
  obtain ⟨piece, pieces, cut⟩ :=
    List.exists_cons_of_ne_nil (splitWhere_ne_nil (fun c => !isWordChar c) s.toList)
  have first : startsWord none = true := rfl
  rw [scanWords_eq none cut, first, if_pos rfl, camelCase, words, flatMap_capitalized_filter, cut,
    List.flatMap_cons]

/-! ## Texts kept apart -/

/-- Characters that are dropped keep words apart. -/
theorem words_append_separated {separator : List Char} (filled : separator ≠ [])
    (dropped : ∀ c ∈ separator, isWordChar c = false) (before after : List Char) :
    words (before ++ separator ++ after) = words before ++ words after := by
  obtain ⟨c, more, rfl⟩ := List.exists_cons_of_ne_nil filled
  obtain ⟨here, later⟩ := List.forall_mem_cons.mp dropped
  have cut : splitWhere (fun c => !isWordChar c) (before ++ (c :: more) ++ after) =
      splitWhere (fun c => !isWordChar c) before ++
        splitWhere (fun c => !isWordChar c) (more ++ after) := by
    rw [List.append_assoc, List.cons_append, splitWhere_append_cons (by simp [here])]
  rw [words, cut, List.filter_append, filter_splitWhere_append (by simpa using later)]
  rfl

theorem camelCase_append_separated {separator : String} (filled : separator ≠ "")
    (dropped : ∀ c ∈ separator.toList, isWordChar c = false) (before after : String) :
    camelCase (before ++ separator ++ after) = camelCase before ++ camelCase after := by
  have filled : separator.toList ≠ [] := by simpa using filled
  rw [camelCase, String.toList_append, String.toList_append,
    words_append_separated filled dropped, List.flatMap_append, String.ofList_append]
  rfl

/-! ## Camel case of any text -/

/-- Camel case drops all but ASCII letters and digits, and puts into upper case what is the first
character or follows one that is dropped; that is, it cuts a text at the longest runs of characters
that are dropped, and gives the pieces that are not empty a capital first letter. A second time it
changes nothing. It leaves nothing if and only if there is no letter or digit. And two texts with
something between them that is dropped do not touch each other. -/
theorem camelCase_one_pass (s : String) :
    camelCase s = String.ofList (scanWords none s.toList) ∧
      camelCase s = String.ofList
        (((splitAtRuns (fun c => !isWordChar c) s.toList).filter fun piece =>
          !piece.isEmpty).flatMap capitalized) ∧
      camelCase (camelCase s) = camelCase s ∧
      (camelCase s = "" ↔ ∀ c ∈ s.toList, isWordChar c = false) ∧
      ∀ separator : String, separator ≠ "" → (∀ c ∈ separator.toList, isWordChar c = false) →
        ∀ after, camelCase (s ++ separator ++ after) = camelCase s ++ camelCase after := by
  obtain ⟨letters, first⟩ := camelCase_spec s
  refine ⟨camelCase_eq_scanWords s, ?_, camelCase_eq_self letters first, ?_, ?_⟩
  · rw [filter_splitAtRuns]
    rfl
  · rw [← String.isEmpty_iff, camelCase_isEmpty, hasWordChar]
    simp
  · intro separator filled dropped after
    exact camelCase_append_separated filled dropped s after

/-- A text with separators at both ends and several of them in the middle, one of them a letter that
is not ASCII. -/
theorem camelCase_one_pass_over_separators :
    scanWords none "-arrow é_9x-".toList = "Arrow9x".toList ∧
      camelCase ("-arrow" ++ " é_" ++ "9x-") = "Arrow9x" ∧
      camelCase (camelCase "-arrow") = "Arrow" := by
  obtain ⟨-, -, twice, -, apart⟩ := camelCase_one_pass "-arrow"
  have dropped : (" é_".toList.all fun c => !isWordChar c) = true := by decide
  refine ⟨by decide, ?_, ?_⟩
  · rw [apart " é_" (by decide) (by simpa using dropped) "9x-"]
    decide
  · rw [twice]
    decide

end IconForge
