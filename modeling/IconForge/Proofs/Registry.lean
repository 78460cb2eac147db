import IconForge.Icon.Registry
import IconForge.Proofs.Identifier

/-!
# Names are kept apart

What a registry holds after any row of requests: the names given are pairwise different, they are
words that begin with a capital, and the names that are taken are just those.

A name can come from a title, from a file name or from the fallback sequence, and a taken name gets
a number. `synthesize_cases` says once what a request can do; `Sound` is the invariant that every
request keeps.

## Main statements

- `isUsed_disambiguate`: the name that is tried in the end is free.
- `nextFallbackName_spec`: the fallback sequence goes on with the first number that gives a free
  name, and there is one among those that are drawn.
- `Sound.synthesize`: one request keeps the names apart.
- `sound_after`: so does a row of requests.
- `names_after_request`: what a request adds to the names, and what it leaves alone.
-/

namespace IconForge

open IconForge.Text

namespace Registry

variable {r : Registry}

/-! ## Free names -/

theorem isUsed_iff_mem (r : Registry) (name : String) : r.isUsed name = true ↔ name ∈ r.used := by
  simp [isUsed]

/-- How many names are taken, each counted once. -/
def usedCount (r : Registry) : Nat := r.used.toFinset.card

theorem usedCount_le (r : Registry) : r.usedCount ≤ r.used.length :=
  List.toFinset_card_le r.used

/-- Of more names than are taken one is free. -/
theorem exists_unused (r : Registry) {names : List String} (distinct : names.Nodup)
    (more : r.usedCount < names.length) : ∃ name ∈ names, r.isUsed name = false := by
  by_contra all
  push Not at all
  have subset : names.toFinset ⊆ r.used.toFinset := by
    intro name mem
    rw [List.mem_toFinset] at mem ⊢
    exact (isUsed_iff_mem r name).mp (by simpa using all name mem)
  -- different names that are all taken are no more than the names taken
  have fewer : names.length ≤ r.usedCount := by
    rw [← List.toFinset_card_of_nodup distinct]
    exact Finset.card_le_card subset
  omega

/-- A name followed by different numbers gives different names. -/
theorem append_toString_injective (base : String) :
    Function.Injective fun n : Nat => base ++ toString n := by
  intro m n h
  exact Nat.repr_injective (String.append_right_inj base |>.mp h)

/-- There is a number that makes a name free. -/
theorem freeNumber?_isSome (r : Registry) (base : String) : (r.freeNumber? base).isSome = true := by
  rw [freeNumber?_eq, List.find?_isSome]
  -- the numbers that are tried give one name more than are taken
  have distinct : ((List.range' 2 (r.used.length + 1)).map fun n => base ++ toString n).Nodup :=
    List.Nodup.map (append_toString_injective base) List.nodup_range'
  have more : r.usedCount < r.used.length + 1 := Nat.lt_succ_of_le r.usedCount_le
  obtain ⟨name, mem, free⟩ := exists_unused r distinct (by simpa using more)
  obtain ⟨n, inRange, rfl⟩ := List.mem_map.mp mem
  exact ⟨n, inRange, by rw [free]; rfl⟩

/-- A free name stays as it is; a taken one gets a number that makes it free. -/
theorem disambiguate_cases (r : Registry) (base : String) :
    (r.isUsed base = false ∧ r.disambiguate base = base) ∨
      (r.isUsed base = true ∧ ∃ n, r.freeNumber? base = some n ∧
        r.disambiguate base = base ++ toString n) := by
  unfold disambiguate
  cases taken : r.isUsed base with
  | false => exact Or.inl ⟨rfl, by simp⟩
  | true =>
    obtain ⟨n, free⟩ := Option.isSome_iff_exists.mp (freeNumber?_isSome r base)
    exact Or.inr ⟨rfl, n, free, by simp [free]⟩

/-- The name that is tried in the end is free. -/
theorem isUsed_disambiguate (r : Registry) (base : String) :
    r.isUsed (r.disambiguate base) = false := by
  rcases disambiguate_cases r base with ⟨free, eq⟩ | ⟨-, n, free, eq⟩
  · rw [eq, free]
  · rw [eq]
    rw [freeNumber?_eq] at free
    simpa using List.find?_some free

theorem startsUpper_disambiguate {base : String} (h : startsUpper base = true) (r : Registry) :
    startsUpper (r.disambiguate base) = true := by
  rcases disambiguate_cases r base with ⟨-, eq⟩ | ⟨-, n, -, eq⟩
  · rw [eq, h]
  · rw [eq, startsUpper_append h]

/-! ## The fallback sequence -/

/-- A number makes a name that ends with the suffix of itself. -/
def endsItself (suffix : String) (n : Nat) : Bool :=
  suffix.toList.isSuffixOf (fallbackStem ++ toString n).toList

/-- Of the numbers whose names need the suffix no two share a name, and neither do two of those
whose names end with it of themselves. -/
theorem eq_of_fallbackName_eq {suffix : String} {m n : Nat}
    (alike : endsItself suffix m = endsItself suffix n)
    (same : fallbackName m suffix = fallbackName n suffix) : m = n := by
  have formed (k : Nat) : fallbackName k suffix =
      if endsItself suffix k then fallbackStem ++ toString k
      else fallbackStem ++ toString k ++ suffix := rfl
  rw [formed, formed, alike] at same
  apply append_toString_injective fallbackStem
  cases ends : endsItself suffix n with
  | true => simpa [ends] using same
  | false => exact (String.append_left_inj suffix).mp (by simpa [ends] using same)

/-- Among more numbers of one of these kinds than there are names taken, one gives a free
name. -/
theorem exists_free_of_alike (r : Registry) (suffix : String) (ends : Bool) {numbers : List Nat}
    (distinct : numbers.Nodup) (alike : ∀ n ∈ numbers, endsItself suffix n = ends)
    (more : r.usedCount < numbers.length) :
    ∃ n ∈ numbers, r.isUsed (fallbackName n suffix) = false := by
  have names : (numbers.map fun n => fallbackName n suffix).Nodup := by
    apply distinct.map_on
    intro m inNumbers n inNumbers' same
    exact eq_of_fallbackName_eq ((alike m inNumbers).trans (alike n inNumbers').symm) same
  obtain ⟨name, mem, free⟩ := exists_unused r names (by simpa using more)
  obtain ⟨n, inNumbers, rfl⟩ := List.mem_map.mp mem
  exact ⟨n, inNumbers, free⟩

/-- Among one more than twice as many numbers in a row as there are names taken, one gives a free
name. -/
theorem exists_free_fallbackName (r : Registry) (suffix : String) (start : Nat) :
    ∃ n, start ≤ n ∧ n ≤ start + 2 * r.usedCount ∧
      r.isUsed (fallbackName n suffix) = false := by
  let numbers := List.range' start (2 * r.usedCount + 1)
  have distinct : numbers.Nodup := List.nodup_range'
  -- of the two kinds of numbers, one has more members than there are names taken
  have parts : numbers.length = (numbers.filter (endsItself suffix)).length +
      (numbers.filter fun n => !endsItself suffix n).length :=
    List.length_eq_length_filter_add _
  have size : numbers.length = 2 * r.usedCount + 1 := List.length_range'
  have found : ∃ n ∈ numbers, r.isUsed (fallbackName n suffix) = false := by
    by_cases more : r.usedCount < (numbers.filter (endsItself suffix)).length
    · obtain ⟨n, mem, free⟩ := exists_free_of_alike r suffix true
        (distinct.filter _) (fun n mem => (List.mem_filter.mp mem).2) more
      exact ⟨n, List.mem_of_mem_filter mem, free⟩
    · obtain ⟨n, mem, free⟩ := exists_free_of_alike r suffix false
        (distinct.filter fun n => !endsItself suffix n)
        (fun n mem => by simpa using (List.mem_filter.mp mem).2) (by omega)
      exact ⟨n, List.mem_of_mem_filter mem, free⟩
  obtain ⟨n, mem, free⟩ := found
  obtain ⟨above, below⟩ := List.mem_range'_1.mp mem
  exact ⟨n, above, by omega, free⟩

/-- Drawing stops at the first number whose name is free, if it comes within the draws. -/
theorem drawFallback?_of_first {suffix : String} {draws n k : Nat} (above : n ≤ k)
    (within : k < n + draws)
    (taken : ∀ m, n ≤ m → m < k → r.isUsed (fallbackName m suffix) = true)
    (free : r.isUsed (fallbackName k suffix) = false) :
    r.drawFallback? suffix draws n = some (fallbackName k suffix, k + 1) := by
  induction draws generalizing n with
  | zero => omega
  | succ draws ih =>
    rw [drawFallback?]
    by_cases here : n = k
    · subst here
      simp [free]
    · -- the name of the first number is taken, and the next one is drawn
      simp only [taken n le_rfl (by omega), if_true]
      apply ih (by omega) (by omega)
      intro m next below
      exact taken m (by omega) below

/-- The fallback sequence goes on with the first number, from its own on, whose name is free. -/
theorem nextFallbackName_spec (r : Registry) (suffix : String) :
    ∃ k, r.nextFallback ≤ k ∧
      (∀ m, r.nextFallback ≤ m → m < k → r.isUsed (fallbackName m suffix) = true) ∧
      r.isUsed (fallbackName k suffix) = false ∧
      r.nextFallbackName suffix = (fallbackName k suffix, k + 1) := by
  obtain ⟨n, above, below, free⟩ := exists_free_fallbackName r suffix r.nextFallback
  have exists_free : ∃ n, r.nextFallback ≤ n ∧ r.isUsed (fallbackName n suffix) = false :=
    ⟨n, above, free⟩
  classical
  let k := Nat.find exists_free
  obtain ⟨reached, isFree⟩ : r.nextFallback ≤ k ∧ r.isUsed (fallbackName k suffix) = false :=
    Nat.find_spec exists_free
  have first : k ≤ n := Nat.find_min' exists_free ⟨above, free⟩
  have within : k < r.nextFallback + r.drawBound := by
    have := r.usedCount_le
    rw [drawBound]
    omega
  have taken : ∀ m, r.nextFallback ≤ m → m < k → r.isUsed (fallbackName m suffix) = true := by
    intro m above before
    by_contra unused
    exact Nat.find_min exists_free before ⟨above, by simpa using unused⟩
  refine ⟨k, reached, taken, isFree, ?_⟩
  rw [nextFallbackName, drawFallback?_of_first reached within taken isFree]
  rfl

/-! ## The names that icons ask for -/

/-- The name that an icon asks for begins with a capital, and the fallback sequence does not go
back. -/
theorem baseName_spec {title : Option String} {stem base : String} {policy : NamingPolicy}
    {next : Nat} (h : r.baseName title stem policy = .ok (base, next)) :
    startsUpper base = true ∧ r.nextFallback ≤ next := by
  unfold baseName at h
  split at h
  · -- by its title
    split at h
    · rename_i name suggested
      obtain ⟨rfl, rfl⟩ := Prod.mk.inj (Except.ok.inj h)
      exact ⟨startsUpper_normalizedName? suggested, le_rfl⟩
    · simp at h
  · split at h
    · -- by its file name
      rename_i name suggested
      obtain ⟨rfl, rfl⟩ := Prod.mk.inj (Except.ok.inj h)
      have suggested : normalizedName? stem policy.suffix = some name := by
        split at suggested
        · exact suggested
        · simp at suggested
      exact ⟨startsUpper_normalizedName? suggested, le_rfl⟩
    · -- by a number
      obtain ⟨k, le, -, -, eq⟩ := nextFallbackName_spec r policy.suffix
      rw [eq] at h
      obtain ⟨rfl, rfl⟩ := Prod.mk.inj (Except.ok.inj h)
      exact ⟨startsUpper_fallbackName k policy.suffix, by omega⟩

/-! ## What a request does -/

/-- A request gives no name at all, or it takes the free name that it leads to, or it takes no name
because that one is not an identifier. -/
theorem synthesize_cases (r : Registry) (title : Option String) (stem : String)
    (policy : NamingPolicy) :
    (∃ e, r.baseName title stem policy = .error e ∧
      r.synthesize title stem policy = (.error e, r)) ∨
    ∃ base next, r.baseName title stem policy = .ok (base, next) ∧
      ((∃ id, Identifier.ofString (r.disambiguate base) = .ok id ∧
        r.synthesize title stem policy = (.ok id, r.register id next)) ∨
      ∃ e, Identifier.ofString (r.disambiguate base) = .error e ∧
        r.synthesize title stem policy = (.error e, { r with nextFallback := next })) := by
  unfold synthesize
  cases asked : r.baseName title stem policy with
  | error e => exact Or.inl ⟨e, rfl, rfl⟩
  | ok pair =>
    obtain ⟨base, next⟩ := pair
    refine Or.inr ⟨base, next, rfl, ?_⟩
    cases checked : Identifier.ofString (r.disambiguate base) with
    | error e => exact Or.inr ⟨e, rfl, by simp [checked]⟩
    | ok id => exact Or.inl ⟨id, rfl, by simp [checked]⟩

/-- A name that is given was free and begins with a capital. -/
theorem synthesize_ok {title : Option String} {stem : String} {policy : NamingPolicy}
    {id : Identifier} (h : (r.synthesize title stem policy).1 = .ok id) :
    r.isUsed id.text = false ∧ startsUpper id.text = true ∧
      ∃ next, r.nextFallback ≤ next ∧ (r.synthesize title stem policy).2 = r.register id next := by
  rcases synthesize_cases r title stem policy with
    ⟨e, -, eq⟩ | ⟨base, next, asked, ⟨id', checked, eq⟩ | ⟨e, -, eq⟩⟩
  · simp [eq] at h
  · obtain rfl : id' = id := by simpa [eq] using h
    have capital := (baseName_spec asked).1
    rw [text_of_ofString checked, eq]
    exact ⟨isUsed_disambiguate r base, startsUpper_disambiguate capital r, next,
      (baseName_spec asked).2, rfl⟩
  · simp [eq] at h

/-- A request that gives no name takes none. -/
theorem synthesize_error {title : Option String} {stem : String} {policy : NamingPolicy}
    {e : NamingError} (h : (r.synthesize title stem policy).1 = .error e) :
    ∃ next, r.nextFallback ≤ next ∧
      (r.synthesize title stem policy).2 = { r with nextFallback := next } := by
  rcases synthesize_cases r title stem policy with
    ⟨e, -, eq⟩ | ⟨base, next, asked, ⟨id, -, eq⟩ | ⟨e, -, eq⟩⟩
  · exact ⟨r.nextFallback, le_rfl, by rw [eq]⟩
  · simp [eq] at h
  · exact ⟨next, (baseName_spec asked).2, by rw [eq]⟩

/-! ## The invariant -/

/-- The names given are pairwise different and begin with a capital, and just they are taken. -/
structure Sound (r : Registry) : Prop where
  nodup : r.identifiers.Nodup
  capital : ∀ id ∈ r.identifiers, startsUpper id.text = true
  taken : ∀ name, r.isUsed name = true ↔ name ∈ r.names

theorem sound_empty : Sound .empty where
  nodup := List.nodup_nil
  capital := by simp [empty]
  taken := by simp [empty, isUsed, names]

/-- What is free is the name of nothing. -/
theorem Sound.not_mem_of_free (sound : Sound r) {id : Identifier}
    (free : r.isUsed id.text = false) : id ∉ r.identifiers := by
  intro mem
  have := (sound.taken id.text).mpr (List.mem_map_of_mem mem)
  simp [free] at this

/-- Taking a free name keeps the names apart. -/
theorem Sound.register (sound : Sound r) {id : Identifier} (free : r.isUsed id.text = false)
    (capital : startsUpper id.text = true) (next : Nat) : Sound (r.register id next) where
  nodup := List.Nodup.append sound.nodup (List.nodup_singleton id)
    (List.disjoint_singleton.mpr (sound.not_mem_of_free free))
  capital := by
    intro other mem
    rcases List.mem_append.mp mem with mem | mem
    · exact sound.capital other mem
    · rw [List.mem_singleton.mp mem, capital]
  taken := by
    intro name
    have before := sound.taken name
    rw [isUsed_iff_mem] at before ⊢
    simp only [Registry.register, names, List.mem_cons, List.map_append, List.mem_append] at before ⊢
    rw [before, or_comm]
    simp

/-- One request keeps the names apart. -/
theorem Sound.synthesize (sound : Sound r) (title : Option String) (stem : String)
    (policy : NamingPolicy) : Sound (r.synthesize title stem policy).2 := by
  cases answer : (r.synthesize title stem policy).1 with
  | ok id =>
    obtain ⟨free, capital, next, -, eq⟩ := synthesize_ok answer
    rw [eq]
    exact sound.register free capital next
  | error e =>
    -- only the fallback sequence has gone on, and the invariant does not speak of it
    obtain ⟨next, -, eq⟩ := synthesize_error answer
    rw [eq]
    exact ⟨sound.nodup, sound.capital, sound.taken⟩

/-! ## Rows of requests -/

/-- What an icon brings to its naming. The suffix may differ from icon to icon. -/
structure Request where
  title : Option String
  stem : String
  policy : NamingPolicy

/-- The answer to a request. -/
def answer (r : Registry) (q : Request) : Except NamingError Identifier :=
  (r.synthesize q.title q.stem q.policy).1

/-- The registry after a request. -/
def next (r : Registry) (q : Request) : Registry := (r.synthesize q.title q.stem q.policy).2

/-- The registry after a row of requests to one that has not begun. -/
def after (requests : List Request) : Registry := requests.foldl next .empty

theorem after_concat (requests : List Request) (q : Request) :
    after (requests ++ [q]) = (after requests).next q := by
  simp [after]

/-- Requests keep the names apart. -/
theorem sound_after (requests : List Request) : Sound (after requests) := by
  -- the last request is the one that is added
  induction requests using List.reverseRecOn with
  | nil => exact sound_empty
  | append_singleton requests q ih =>
    rw [after_concat]
    exact ih.synthesize q.title q.stem q.policy

/-- After any row of requests and one more, the names given are pairwise different words that begin
with a capital, and just they are taken. The last request has added the free name that it was
answered with, or nothing, and the fallback sequence has not gone back. -/
theorem names_after_request (requests : List Request) (q : Request) :
    let before := after requests
    let now := after (requests ++ [q])
    now.identifiers.Nodup ∧
      (∀ id ∈ now.identifiers,
        startsUpper id.text = true ∧ ∀ c ∈ id.text.toList, isWordChar c = true) ∧
      (∀ name, now.isUsed name = true ↔ name ∈ now.names) ∧
      (match before.answer q with
        | .ok id => now.identifiers = before.identifiers ++ [id] ∧ before.isUsed id.text = false
        | .error _ => now.identifiers = before.identifiers ∧ now.used = before.used) ∧
      before.nextFallback ≤ now.nextFallback := by
  intro before now
  have sound : Sound now := sound_after (requests ++ [q])
  have step : now = before.next q := after_concat requests q
  refine ⟨sound.nodup, ?shape, sound.taken, ?last⟩
  case shape =>
    intro id mem
    exact ⟨sound.capital id mem, word_of_isIdentifier id.isIdentifier_text⟩
  case last =>
    rw [step]
    cases answered : before.answer q with
    | ok id =>
      obtain ⟨free, -, next, le, eq⟩ := synthesize_ok answered
      have eq : before.next q = before.register id next := eq
      rw [eq]
      exact ⟨⟨rfl, free⟩, le⟩
    | error e =>
      obtain ⟨next, le, eq⟩ := synthesize_error answered
      have eq : before.next q = { before with nextFallback := next } := eq
      rw [eq]
      exact ⟨⟨rfl, rfl⟩, le⟩

end Registry

end IconForge
