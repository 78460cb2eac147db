import IconForge.Proofs.Registry.Turns

/-!
# Names name themselves

A name that has been given is a word that begins with a capital. As a title such a word suggests
itself: camel case leaves it as it is, it needs no letter in front, and no suffix is asked for. So
icons that take the names of a batch for their titles, in whatever order, get just these names, as
long as no two of the names are the same; and no two are.

## Main statements

- `normalizedName?_of_startsUpper`: a word that begins with a capital suggests itself.
- `synthesize_titled`: one request that is titled by a free name.
- `Sound.answers_titled`: a row of them.
- `names_name_themselves`: the names of a batch as the titles of another.
-/

namespace IconForge

open IconForge.Text

/-! ## Words that begin with a capital -/

/-- A text that begins with a capital, taken apart. -/
theorem exists_of_startsUpper {name : String} (capital : startsUpper name = true) :
    ∃ c cs, name.toList = c :: cs ∧ c.isUpper = true := by
  unfold startsUpper at capital
  cases chars : name.toList with
  | nil => simp [chars] at capital
  | cons c cs => exact ⟨c, cs, rfl, by simpa [chars] using capital⟩

variable {name : String}

/-- Camel case leaves a word as it is that begins with a capital. -/
theorem camelCase_of_startsUpper (capital : startsUpper name = true) (word : isWord name = true) :
    camelCase name = name := by
  refine camelCase_eq_self (List.all_eq_true.mp word) fun c first => Or.inl ?_
  rw [startsUpper, Option.mem_def.mp first] at capital
  exact capital

/-- It needs no letter in front. -/
theorem startingWithLetter_of_startsUpper (capital : startsUpper name = true) :
    startingWithLetter name = name := by
  obtain ⟨c, cs, chars, upper⟩ := exists_of_startsUpper capital
  have noDigit : c.isDigit = false := by
    by_contra digit
    simp only [Bool.not_eq_false, Char.isUpper, Char.isDigit, Bool.and_eq_true,
      decide_eq_true_eq] at upper digit
    exact absurd (UInt32.le_trans upper.1 digit.2) (by decide)
  simp [startingWithLetter, chars, noDigit]

/-- So a word that begins with a capital suggests itself, if no suffix is asked for. -/
theorem normalizedName?_of_startsUpper (capital : startsUpper name = true)
    (word : isWord name = true) : normalizedName? name "" = some name := by
  obtain ⟨c, cs, chars, -⟩ := exists_of_startsUpper capital
  have filled : name.isEmpty = false := by
    by_contra empty
    simp [show name = "" by simpa using empty] at chars
  have asIs : withSuffix name "" = name := by simp [withSuffix]
  rw [Registry.normalizedName?_eq, camelCase_of_startsUpper capital word, filled,
    startingWithLetter_of_startsUpper capital, asIs]
  rfl

namespace Registry

variable {r : Registry}

/-! ## Requests titled by names -/

/-- A request whose title is a name, and that asks for no suffix. -/
structure TitledBy (id : Identifier) (q : Request) : Prop where
  title : q.title = some id.text
  noSuffix : q.policy.suffix = ""

/-- A request that is titled by a free name that begins with a capital takes that name, and draws
no number. -/
theorem synthesize_titled {id : Identifier} {q : Request} (titled : TitledBy id q)
    (capital : startsUpper id.text = true) (free : r.isUsed id.text = false) :
    r.answer q = .ok id ∧ r.next q = r.register id r.nextFallback := by
  have word : isWord id.text = true :=
    List.all_eq_true.mpr (word_of_isIdentifier id.isIdentifier_text)
  have asked : r.baseName q.title q.stem q.policy = .ok (id.text, r.nextFallback) := by
    unfold baseName
    rw [titled.title, titled.noSuffix]
    simp only [normalizedName?_of_startsUpper capital word]
  have noSuffix : isWord q.policy.suffix = true := by
    rw [titled.noSuffix]
    rfl
  obtain ⟨id', text, eq⟩ := synthesize_of_baseName noSuffix asked
  obtain rfl : id' = id := by
    apply Identifier.text_injective
    rw [text, disambiguate, free]
    rfl
  exact ⟨by rw [answer, eq], by rw [next, eq]⟩

theorem identifiers_register (r : Registry) (id : Identifier) (counter : Nat) :
    (r.register id counter).identifiers = r.identifiers ++ [id] := rfl

/-- Requests in a row that are titled by names take them one after the other, if no name has been
given before and no two are the same. -/
theorem Sound.answers_titled (sound : Sound r) {names : List Identifier} {requests : List Request}
    (titled : List.Forall₂ TitledBy names requests)
    (capital : ∀ id ∈ names, startsUpper id.text = true)
    (distinct : (r.identifiers ++ names).Nodup) :
    (turns r requests).map Turn.answer = names.map .ok ∧
      (requests.foldl next r).identifiers = r.identifiers ++ names ∧
      (requests.foldl next r).nextFallback = r.nextFallback := by
  induction titled generalizing r with
  | nil => simp [turns]
  | @cons id q names requests here _ ih =>
    obtain ⟨upper, capital⟩ := List.forall_mem_cons.mp capital
    have new : id ∉ r.identifiers := fun mem =>
      List.disjoint_of_nodup_append distinct mem List.mem_cons_self
    -- what is no name of the registry is not taken
    have free : r.isUsed id.text = false := by
      by_contra taken
      obtain ⟨id', mem, text⟩ := List.mem_map.mp ((sound.taken id.text).mp (by simpa using taken))
      obtain rfl := Identifier.text_injective text
      exact new mem
    obtain ⟨answered, after⟩ := synthesize_titled here upper free
    have distinct : ((r.register id r.nextFallback).identifiers ++ names).Nodup := by
      rwa [identifiers_register, List.append_assoc]
    obtain ⟨answers, given, counter⟩ := ih (sound.register free upper _) capital distinct
    rw [turns, List.map_cons, List.foldl_cons, after, answers, given, counter, Turn.answer,
      answered, identifiers_register, List.append_assoc]
    exact ⟨rfl, rfl, rfl⟩

/-! ## The names of a batch as titles -/

/-- If the names that a row of requests has been given are the titles of another row, in whatever
order, and that one asks for no suffix, then it is given the same names in that order, and no number
is drawn. -/
theorem names_name_themselves {requests again : List Request} {names : List Identifier}
    (same : names.Perm (after requests).identifiers)
    (titled : List.Forall₂ TitledBy names again) :
    (turns .empty again).map Turn.answer = names.map .ok ∧
      (after again).identifiers = names ∧ (after again).nextFallback = 1 := by
  have sound := sound_after requests
  have capital : ∀ id ∈ names, startsUpper id.text = true := fun id mem =>
    sound.capital id (same.mem_iff.mp mem)
  have distinct : (Registry.empty.identifiers ++ names).Nodup := same.nodup_iff.mpr sound.nodup
  exact sound_empty.answers_titled titled capital distinct

/-- Names of all kinds, given back in the opposite order: one with letters put in front and a
suffix, one from the fallback sequence, one from a file and, last of all, one with a number. -/
theorem names_name_themselves_in_reverse :
    let earlier : List Request := [⟨some "3d-box", "", { suffix := "Icon" }⟩, ⟨none, "", {}⟩,
      ⟨some "!", "", {}⟩, ⟨none, "a-b", { useFileNames := true }⟩]
    let requests := earlier ++ [⟨some "icon 1", "", {}⟩]
    let names := (after requests).identifiers.reverse
    let again := names.map fun id => (⟨some id.text, "x", { useFileNames := true }⟩ : Request)
    names.Perm (after requests).identifiers ∧ List.Forall₂ TitledBy names again ∧
      names.map Identifier.text = ["Icon12", "AB", "Icon1", "Icon3dBoxIcon"] ∧
      (turns .empty again).map Turn.answer = names.map .ok ∧
      (after again).identifiers = names ∧ (after again).nextFallback = 1 := by
  intro earlier requests names again
  have same : names.Perm (after requests).identifiers := List.reverse_perm _
  have titled : List.Forall₂ TitledBy names again :=
    List.forall₂_map_right_iff.mpr (List.forall₂_same.mpr fun id _ => ⟨rfl, rfl⟩)
  have texts : names.map Identifier.text = ["Icon12", "AB", "Icon1", "Icon3dBoxIcon"] := by
    have asked : (after earlier).baseName (some "icon 1") "" {} = .ok ("Icon1", 2) := by
      decide +kernel
    obtain ⟨id, text, eq⟩ := synthesize_of_baseName (by decide) asked
    have number : (after earlier).disambiguate "Icon1" = "Icon12" := by
      rw [disambiguate, freeNumber?_eq]
      decide +kernel
    have given : (after requests).identifiers = (after earlier).identifiers ++ [id] := by
      rw [after_concat, next, eq, identifiers_register]
    have before : (after earlier).identifiers.map Identifier.text =
        ["Icon3dBoxIcon", "Icon1", "AB"] := by
      decide +kernel
    rw [List.map_reverse, given, List.map_append, before, List.map_singleton, text, number]
    rfl
  exact ⟨same, titled, texts, names_name_themselves same titled⟩

end Registry

end IconForge
