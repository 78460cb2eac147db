import IconForge.Proofs.Registry

/-!
# Which icons get a name

Every name that an icon asks for is a word of letters and digits with the suffix at its end. So
whether it gets one does not depend on the names given before: its title, if it has one, has to hold
a letter or digit, and the suffix has to hold nothing else. With such a suffix a request that is
refused leaves no trace in the registry.

## Main statements

- `baseName_eq_withSuffix`: the shape of the names that icons ask for.
- `Registry.isOk_synthesize`: which requests get a name.
- `Registry.synthesize_eq_invalid_iff`: which of the others lead to a name that is no identifier.
- `Registry.synthesize_of_baseName`: what name a request gets.
- `Registry.baseName_of_fallsBack`, `Registry.nextFallback_synthesize`: which requests draw a
  number.
- `Registry.synthesize_of_not_isOk`: what the other requests do to the registry.
-/

namespace IconForge

open IconForge.Text

/-! ## Words -/

/-- A text holds letters and digits only. -/
def isWord (s : String) : Bool := s.toList.all isWordChar

theorem isWord_append (s t : String) : isWord (s ++ t) = (isWord s && isWord t) := by
  simp [isWord]

theorem isDigit_of_mem_toString {n : Nat} {c : Char} (mem : c ∈ (toString n).toList) :
    c.isDigit = true :=
  Nat.isDigit_of_mem_toDigits (by decide) le_rfl
    (show c ∈ Nat.toDigits 10 n by simpa using mem)

theorem isWord_toString (n : Nat) : isWord (toString n) = true := by
  rw [isWord, List.all_eq_true]
  intro c mem
  simp [isWordChar, Char.isAlphanum, isDigit_of_mem_toString mem]

theorem isWord_camelCase (s : String) : isWord (camelCase s) = true :=
  List.all_eq_true.mpr (camelCase_spec s).1

theorem isWord_startingWithLetter {s : String} (h : isWord s = true) :
    isWord (startingWithLetter s) = true := by
  unfold startingWithLetter
  split
  · rw [isWord_append, h]
    rfl
  · exact h

/-- A word with a suffix is a word if the suffix is one. -/
theorem isWord_withSuffix {word : String} (h : isWord word = true) (suffix : String) :
    isWord (withSuffix word suffix) = isWord suffix := by
  unfold withSuffix
  split
  · -- what a word ends with is a word
    rename_i ends
    rw [h, eq_comm, isWord, List.all_eq_true]
    intro c mem
    exact List.all_eq_true.mp h c ((List.isSuffixOf_iff_suffix.mp ends).subset mem)
  · rw [isWord_append, h, Bool.true_and]

/-- An identifier is a word that begins with a capital, among the names that begin with one. -/
theorem isIdentifier_of_startsUpper {name : String} (capital : startsUpper name = true) :
    isIdentifier name = isWord name := by
  unfold startsUpper at capital
  unfold isIdentifier isWord
  cases chars : name.toList with
  | nil => simp [chars] at capital
  | cons c cs =>
    have capital : c.isUpper = true := by simpa [chars] using capital
    simp [List.all_cons, isWordChar_of_isUpper capital, Char.isAlpha, capital]

namespace Registry

variable {r : Registry} {title : Option String} {stem : String} {policy : NamingPolicy}

/-! ## The names that icons ask for -/

theorem normalizedName?_eq (text suffix : String) :
    normalizedName? text suffix =
      if (camelCase text).isEmpty then none
      else some (withSuffix (startingWithLetter (camelCase text)) suffix) := rfl

/-- A name that an icon asks for is a word with the suffix. -/
theorem baseName_eq_withSuffix {base : String} {next : Nat}
    (h : r.baseName title stem policy = .ok (base, next)) :
    ∃ word, isWord word = true ∧ base = withSuffix word policy.suffix := by
  have suggested {text name : String} (h : normalizedName? text policy.suffix = some name) :
      ∃ word, isWord word = true ∧ name = withSuffix word policy.suffix := by
    rw [normalizedName?_eq] at h
    split at h
    · simp at h
    · exact ⟨_, isWord_startingWithLetter (isWord_camelCase text), (Option.some.inj h).symm⟩
  unfold baseName at h
  split at h
  · -- by its title
    split at h
    · obtain ⟨rfl, -⟩ := Prod.mk.inj (Except.ok.inj h)
      exact suggested ‹_›
    · simp at h
  · split at h
    · -- by its file name
      rename_i byStem
      obtain ⟨rfl, -⟩ := Prod.mk.inj (Except.ok.inj h)
      split at byStem
      · exact suggested byStem
      · simp at byStem
    · -- by a number
      obtain ⟨k, -, -, -, eq⟩ := nextFallbackName_spec r policy.suffix
      obtain ⟨rfl, -⟩ := Prod.mk.inj (eq.symm.trans (Except.ok.inj h))
      refine ⟨fallbackStem ++ toString k, ?_, rfl⟩
      rw [isWord_append, isWord_toString]
      rfl

/-- An icon asks for no name if and only if its title holds no letter or digit. -/
theorem baseName_isOk (r : Registry) (title : Option String) (stem : String)
    (policy : NamingPolicy) :
    (r.baseName title stem policy).isOk = title.all fun t => !(camelCase t).isEmpty := by
  unfold baseName
  cases title with
  | some t =>
    have suggested := normalizedName?_eq t policy.suffix
    cases empty : (camelCase t).isEmpty <;>
      simp [suggested, empty, Except.isOk, Except.toBool]
  | none =>
    split
    · contradiction
    · split <;> rfl

/-- Only a title can be the reason that an icon asks for no name. -/
theorem baseName_error {e : NamingError} (h : r.baseName title stem policy = .error e) :
    ∃ t, title = some t ∧ e = .emptyIdentifier t := by
  unfold baseName at h
  split at h
  · split at h
    · simp at h
    · exact ⟨_, rfl, (Except.error.inj h).symm⟩
  · split at h <;> simp at h

/-- A number at the end of a name does not spoil a word and does not make one. -/
theorem isWord_disambiguate (r : Registry) (base : String) :
    isWord (r.disambiguate base) = isWord base := by
  rcases disambiguate_cases r base with ⟨-, eq⟩ | ⟨-, n, -, eq⟩
  · rw [eq]
  · rw [eq, isWord_append, isWord_toString, Bool.and_true]

/-- The name that is tried in the end is an identifier if and only if the suffix is a word. -/
theorem isIdentifier_disambiguate {base : String} {next : Nat}
    (h : r.baseName title stem policy = .ok (base, next)) :
    isIdentifier (r.disambiguate base) = isWord policy.suffix := by
  obtain ⟨word, isWord, rfl⟩ := baseName_eq_withSuffix h
  rw [isIdentifier_of_startsUpper (startsUpper_disambiguate (baseName_spec h).1 r),
    isWord_disambiguate, isWord_withSuffix isWord]

/-! ## Requests that get a name -/

/-- A request gets a name if its title, should it have one, holds a letter or digit, and its suffix
holds nothing else. -/
def isNameable (title : Option String) (policy : NamingPolicy) : Bool :=
  (title.all fun t => !(camelCase t).isEmpty) && isWord policy.suffix

/-- Which requests get a name does not depend on the names given before. -/
theorem isOk_synthesize (r : Registry) (title : Option String) (stem : String)
    (policy : NamingPolicy) :
    (r.synthesize title stem policy).1.isOk = isNameable title policy := by
  have asked := baseName_isOk r title stem policy
  rcases synthesize_cases r title stem policy with
    ⟨e, refused, eq⟩ | ⟨base, next, ok, checked⟩
  · rw [refused] at asked
    rw [eq, isNameable, ← asked]
    rfl
  · rw [ok] at asked
    have valid := isIdentifier_disambiguate ok
    rw [isNameable, ← asked, ← valid]
    rcases checked with ⟨id, made, eq⟩ | ⟨e, failed, eq⟩
    · rw [eq, ← text_of_ofString made, id.isIdentifier_text]
      rfl
    · have notValid : isIdentifier (r.disambiguate base) = false := by
        by_contra h
        simp [Identifier.ofString, Bool.of_not_eq_false h] at failed
      rw [eq, notValid]
      rfl

/-- A request leads to a name that is no identifier if and only if it leads to a name and its suffix
holds something other than letters and digits. -/
theorem synthesize_eq_invalid_iff :
    (∃ name, (r.synthesize title stem policy).1 = .error (.invalidIdentifier name)) ↔
      (title.all fun t => !(camelCase t).isEmpty) = true ∧ isWord policy.suffix = false := by
  have asked := baseName_isOk r title stem policy
  rcases synthesize_cases r title stem policy with
    ⟨e, refused, eq⟩ | ⟨base, next, ok, ⟨id, made, eq⟩ | ⟨e, failed, eq⟩⟩
  · -- it asks for no name, and fails for another reason
    obtain ⟨t, -, rfl⟩ := baseName_error refused
    rw [refused] at asked
    simp [eq, ← asked, Except.isOk, Except.toBool]
  · have valid := isIdentifier_disambiguate ok
    rw [← text_of_ofString made, id.isIdentifier_text] at valid
    simp [eq, ← valid]
  · have valid := isIdentifier_disambiguate ok
    unfold Identifier.ofString at failed
    split at failed
    · simp at failed
    · rename_i invalid
      obtain rfl := Except.error.inj failed
      rw [ok] at asked
      simp [eq, ← asked, ← valid, invalid, Except.isOk, Except.toBool]

/-- With a suffix that is a word, a request that asks for a name gets it, or it with a number. -/
theorem synthesize_of_baseName {base : String} {next : Nat} (word : isWord policy.suffix = true)
    (asked : r.baseName title stem policy = .ok (base, next)) :
    ∃ id : Identifier, id.text = r.disambiguate base ∧
      r.synthesize title stem policy = (.ok id, r.register id next) := by
  have valid := isIdentifier_disambiguate asked
  rcases synthesize_cases r title stem policy with
    ⟨e, refused, -⟩ | ⟨base', next', ok, checked⟩
  · rw [asked] at refused
    contradiction
  · obtain ⟨rfl, rfl⟩ := Prod.mk.inj (Except.ok.inj (asked.symm.trans ok))
    rcases checked with ⟨id, made, eq⟩ | ⟨e, failed, -⟩
    · exact ⟨id, text_of_ofString made, eq⟩
    · rw [word] at valid
      simp [Identifier.ofString, valid] at failed

/-- With a suffix that is a word, a request that gets no name leaves no trace. -/
theorem synthesize_of_not_isOk (word : isWord policy.suffix = true)
    (h : (r.synthesize title stem policy).1.isOk = false) :
    (r.synthesize title stem policy).2 = r := by
  rcases synthesize_cases r title stem policy with
    ⟨e, -, eq⟩ | ⟨base, next, ok, ⟨id, -, eq⟩ | ⟨e, failed, eq⟩⟩
  · rw [eq]
  · simp [eq, Except.isOk, Except.toBool] at h
  · -- the name that is tried is an identifier, so it is not refused
    have valid := isIdentifier_disambiguate ok
    rw [word] at valid
    simp [Identifier.ofString, valid] at failed

/-! ## Requests that fall back -/

/-- A request takes its name from the fallback sequence: it has no title, and its file name is not
asked for or holds no letter or digit. -/
def fallsBack (title : Option String) (stem : String) (policy : NamingPolicy) : Bool :=
  title.isNone && !(policy.useFileNames && hasWordChar stem)

/-- A text suggests a name if it holds a letter or digit. -/
theorem normalizedName?_isSome (text suffix : String) :
    (normalizedName? text suffix).isSome = hasWordChar text := by
  rw [normalizedName?_eq, camelCase_isEmpty]
  cases hasWordChar text <;> rfl

theorem baseName_of_fallsBack (r : Registry) (h : fallsBack title stem policy = true) :
    r.baseName title stem policy = .ok (r.nextFallbackName policy.suffix) := by
  have suggested := normalizedName?_isSome stem policy.suffix
  cases title with
  | some t => simp [fallsBack] at h
  | none =>
    have byNumber : (if policy.useFileNames then normalizedName? stem policy.suffix else none) =
        none := by
      split
      · rename_i named
        rw [← Option.not_isSome_iff_eq_none, suggested]
        simpa [fallsBack, named] using h
      · rfl
    rw [baseName, byNumber]

/-- No other request draws a number. -/
theorem next_of_not_fallsBack {base : String} {next : Nat} (h : fallsBack title stem policy = false)
    (asked : r.baseName title stem policy = .ok (base, next)) : next = r.nextFallback := by
  have suggested := normalizedName?_isSome stem policy.suffix
  unfold baseName at asked
  split at asked
  · split at asked
    · exact (Prod.mk.inj (Except.ok.inj asked)).2.symm
    · simp at asked
  · split at asked
    · exact (Prod.mk.inj (Except.ok.inj asked)).2.symm
    · -- without a title and a name from its stem, it would fall back
      rename_i none
      obtain ⟨named, filled⟩ : policy.useFileNames = true ∧ hasWordChar stem = true := by
        simpa [fallsBack] using h
      rw [named, if_pos rfl] at none
      rw [none, filled] at suggested
      contradiction

theorem nextFallback_synthesize (h : fallsBack title stem policy = false) :
    (r.synthesize title stem policy).2.nextFallback = r.nextFallback := by
  rcases synthesize_cases r title stem policy with
    ⟨e, -, eq⟩ | ⟨base, next, asked, ⟨id, -, eq⟩ | ⟨e, -, eq⟩⟩
  · rw [eq]
  · rw [eq]
    exact next_of_not_fallsBack h asked
  · rw [eq]
    exact next_of_not_fallsBack h asked

end Registry

end IconForge
