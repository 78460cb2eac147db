import IconForge.Proofs.Registry.Turns
import Mathlib.Data.List.DropRight
import Mathlib.Order.Bounds.Defs

/-!
# Numbers that tell icons apart

An icon that asks for a taken name gets it with the least number from two on that makes it free.
The numbered names of a base can also be taken by icons that ask for something else, such as
`Star2`, and then a number is left out. Without such icons the ones that ask for the base are
numbered without a gap, whatever else comes between them.

All that an icon can be named, if it asks for `base`, is the same as `base` without the digits at
its end. So the names that go back to the base can be looked at apart from all others: `HoldsFirst`
is the invariant that they are the first numbered ones.

## Main statements

- `disambiguate_of_isUsed`: the number that a taken name gets.
- `HoldsFirst`: the names taken that go back to a base are its first numbered ones.
- `answer_of_apart`: the requests for a base that no other one goes back to, in a row.
- `collisions_get_least_numbers`: one request, a row of requests and a batch.
-/

namespace IconForge

open IconForge.Text

namespace Registry

variable {r : Registry} {base : String}

/-! ## One request -/

/-- A taken name gets the least number from two on that makes it free. -/
theorem disambiguate_of_isUsed (taken : r.isUsed base = true) :
    ∃ n, IsLeast {n : Nat | 2 ≤ n ∧ r.isUsed (base ++ toString n) = false} n ∧
      r.disambiguate base = base ++ toString n := by
  rcases disambiguate_cases r base with ⟨free, -⟩ | ⟨-, n, found, eq⟩
  · rw [free] at taken
    contradiction
  · refine ⟨n, ?_, eq⟩
    rw [freeNumber?_eq, List.find?_range'_eq_some] at found
    obtain ⟨free, inRange, first⟩ := found
    have above : 2 ≤ n := (List.mem_range'_1.mp inRange).1
    constructor
    · exact ⟨above, by simpa using free⟩
    · rintro m ⟨from2, isFree⟩
      by_contra below
      have taken : r.isUsed (base ++ toString m) = true := by
        simpa using first m from2 (by omega)
      rw [isFree] at taken
      contradiction

theorem disambiguate_of_isFree (free : r.isUsed base = false) : r.disambiguate base = base := by
  rw [disambiguate, free]
  rfl

/-! ## Numbered names -/

/-- What the `k`-th icon that asks for a name is called, if nothing else is in its way. -/
def numbered (base : String) (k : Nat) : String :=
  if k = 1 then base else base ++ toString k

theorem numbered_one (base : String) : numbered base 1 = base := rfl

theorem numbered_of_two_le {k : Nat} (h : 2 ≤ k) : numbered base k = base ++ toString k :=
  if_neg (by omega)

theorem numbered_injective (base : String) : Function.Injective (numbered base) := by
  have longer (k : Nat) : base ++ toString k ≠ base := by
    intro same
    have empty : toString k = "" := String.append_eq_left_iff.mp same
    exact Nat.repr_ne_empty empty
  intro j k same
  unfold numbered at same
  split at same <;> split at same
  · omega
  · exact absurd same.symm (longer k)
  · exact absurd same (longer j)
  · exact append_toString_injective base same

/-- A name without the digits at its end. -/
def withoutDigits (name : String) : String :=
  String.ofList (name.toList.rdropWhile Char.isDigit)

theorem withoutDigits_append_toString (base : String) (n : Nat) :
    withoutDigits (base ++ toString n) = withoutDigits base := by
  have digits : ∀ c ∈ (toString n).toList.reverse, c.isDigit = true := by
    intro c mem
    exact isDigit_of_mem_toString (List.mem_reverse.mp mem)
  rw [withoutDigits, String.toList_append, List.rdropWhile, List.reverse_append,
    List.dropWhile_append_of_pos digits]
  rfl

theorem withoutDigits_numbered (base : String) (k : Nat) :
    withoutDigits (numbered base k) = withoutDigits base := by
  unfold numbered
  split
  · rfl
  · exact withoutDigits_append_toString base k

/-- A number at the end of a name does not change what it goes back to. -/
theorem withoutDigits_disambiguate (r : Registry) (base : String) :
    withoutDigits (r.disambiguate base) = withoutDigits base := by
  rcases disambiguate_cases r base with ⟨-, eq⟩ | ⟨-, n, -, eq⟩
  · rw [eq]
  · rw [eq, withoutDigits_append_toString]

/-! ## The names that go back to a base -/

/-- The names taken that go back to `base` are its first `k` numbered ones. -/
def HoldsFirst (r : Registry) (base : String) (k : Nat) : Prop :=
  ∀ name, withoutDigits name = withoutDigits base →
    (r.isUsed name = true ↔ ∃ j, 1 ≤ j ∧ j ≤ k ∧ name = numbered base j)

namespace HoldsFirst

variable {r' : Registry} {k : Nat}

theorem empty (base : String) : HoldsFirst .empty base 0 := by
  intro name _
  constructor
  · intro used
    simp [Registry.empty, isUsed] at used
  · rintro ⟨j, from1, to0, -⟩
    omega

/-- So a numbered name is taken if and only if its number has been given. -/
theorem isUsed_numbered (holds : HoldsFirst r base k) {j : Nat} (from1 : 1 ≤ j) :
    r.isUsed (numbered base j) = true ↔ j ≤ k := by
  rw [holds _ (withoutDigits_numbered base j)]
  constructor
  · rintro ⟨i, -, le, same⟩
    rw [numbered_injective base same]
    exact le
  · intro le
    exact ⟨j, from1, le, rfl⟩

/-- The next icon that asks for the base gets its next number. -/
theorem disambiguate_eq (holds : HoldsFirst r base k) :
    r.disambiguate base = numbered base (k + 1) := by
  have first := holds.isUsed_numbered le_rfl
  rw [numbered_one] at first
  cases taken : r.isUsed base with
  | false =>
    have : ¬ 1 ≤ k := by simpa [taken] using first
    obtain rfl : k = 0 := by omega
    rw [disambiguate_of_isFree taken, numbered_one]
  | true =>
    have given : 1 ≤ k := first.mp taken
    obtain ⟨n, ⟨⟨from2, free⟩, least⟩, eq⟩ := disambiguate_of_isUsed taken
    have above : ¬ n ≤ k := by
      rw [← holds.isUsed_numbered (by omega), numbered_of_two_le from2, free]
      exact Bool.false_ne_true
    have below : n ≤ k + 1 := by
      apply least
      refine ⟨by omega, ?_⟩
      rw [← numbered_of_two_le (by omega), ← Bool.not_eq_true, holds.isUsed_numbered (by omega)]
      omega
    obtain rfl : n = k + 1 := by omega
    rw [eq, numbered_of_two_le from2]

/-- Taking it adds that number. -/
theorem succ (holds : HoldsFirst r base k) (added : r'.used = numbered base (k + 1) :: r.used) :
    HoldsFirst r' base (k + 1) := by
  intro name same
  rw [isUsed_iff_mem, added, List.mem_cons, ← isUsed_iff_mem, holds name same]
  constructor
  · rintro (rfl | ⟨j, from1, le, rfl⟩)
    · exact ⟨k + 1, by omega, le_rfl, rfl⟩
    · exact ⟨j, from1, by omega, rfl⟩
  · rintro ⟨j, from1, le, rfl⟩
    by_cases last : j = k + 1
    · exact Or.inl (by rw [last])
    · exact Or.inr ⟨j, from1, by omega, rfl⟩

/-- A name that goes back to something else adds none. -/
theorem of_other {other : String} (holds : HoldsFirst r base k)
    (apart : withoutDigits other ≠ withoutDigits base) (added : r'.used = other :: r.used) :
    HoldsFirst r' base k := by
  intro name same
  have different : name ≠ other := by
    rintro rfl
    exact apart same
  rw [isUsed_iff_mem, added, List.mem_cons, or_iff_right different, ← isUsed_iff_mem,
    holds name same]

end HoldsFirst

/-! ## Requests in a row -/

/-- No request of a row asks for another name that goes back to the same as `base`. -/
def Apart (row : List Turn) (base : String) : Prop :=
  ∀ other ∈ row.filterMap Turn.base?, other ≠ base → withoutDigits other ≠ withoutDigits base

theorem apart_cons {t : Turn} {row : List Turn} :
    Apart (t :: row) base ↔ Apart [t] base ∧ Apart row base := by
  unfold Apart
  rw [← List.singleton_append, List.filterMap_append, List.forall_mem_append]

/-- The requests of a row that ask for `base`. -/
def asking (row : List Turn) (base : String) : List Turn :=
  row.filter fun t => t.base? = some base

/-- A request for another name leaves the numbers of the base as they are. -/
theorem HoldsFirst.after_of_ne {t : Turn} {k : Nat} (holds : HoldsFirst t.registry base k)
    (word : isWord t.request.policy.suffix = true) (otherwise : t.base? ≠ some base)
    (apart : Apart [t] base) : HoldsFirst t.after base k := by
  cases asked : t.base? with
  | none =>
    rw [t.after_of_base?_eq_none asked]
    exact holds
  | some other =>
    have different : other ≠ base := by
      rintro rfl
      exact otherwise asked
    obtain ⟨id, -, text, added⟩ := Turn.answer_of_base? word asked
    apply holds.of_other _ added
    rw [text, withoutDigits_disambiguate]
    exact apart other (by simp [asked]) different

/-- If no other name goes back to the same, the requests for a base get its numbers one after the
other. -/
theorem answer_of_apart {requests : List Request} {k i : Nat} {t : Turn}
    (words : ∀ q ∈ requests, isWord q.policy.suffix = true)
    (apart : Apart (turns r requests) base) (holds : HoldsFirst r base k)
    (turn : (asking (turns r requests) base)[i]? = some t) :
    ∃ id : Identifier, t.answer = .ok id ∧ id.text = numbered base (k + i + 1) := by
  -- along the row: `k` numbers are given, and the request in question is `i` askings ahead
  induction requests generalizing r k i with
  | nil => simp [turns, asking] at turn
  | cons q requests ih =>
    obtain ⟨word, words⟩ := List.forall_mem_cons.mp words
    rw [turns] at apart turn
    obtain ⟨here, apart⟩ := apart_cons.mp apart
    by_cases asked : (Turn.mk r q).base? = some base
    · obtain ⟨id, answer, text, added⟩ := Turn.answer_of_base? word asked
      have text : id.text = numbered base (k + 1) := text.trans holds.disambiguate_eq
      rw [asking, List.filter_cons_of_pos (by simpa using asked)] at turn
      cases i with
      | zero =>
        obtain rfl : Turn.mk r q = t := by simpa using turn
        exact ⟨id, answer, text⟩
      | succ i =>
        rw [text] at added
        -- the rest of the row meets one number more
        obtain ⟨id, answer, text⟩ := ih words apart (holds.succ added) turn
        exact ⟨id, answer, by rw [text, Nat.add_right_comm k 1 i, Nat.add_assoc k i 1]⟩
    · rw [asking, List.filter_cons_of_neg (by simpa using asked)] at turn
      exact ih words apart (holds.after_of_ne word asked here) turn

/-- An icon that asks for a free name gets it, and one that asks for a taken name gets it with the
least number from two on that makes it free.

So in a row of requests whose suffixes are words, those that ask for a base get it with the numbers
one, two, three and so on, of which the first is not written, if no other request asks for a name
that is the same without the digits at its end. The names that a batch reports are the answers to
such a row, one suffix for all its icons: the requests of those that are read. -/
theorem collisions_get_least_numbers :
    (∀ (r : Registry) (title : Option String) (stem : String) (policy : NamingPolicy)
      (base : String) (next : Nat) (id : Identifier),
      r.baseName title stem policy = .ok (base, next) →
      (r.synthesize title stem policy).1 = .ok id →
        (r.isUsed base = false ∧ id.text = base) ∨
        r.isUsed base = true ∧
          ∃ n, IsLeast {n : Nat | 2 ≤ n ∧ r.isUsed (base ++ toString n) = false} n ∧
            id.text = base ++ toString n) ∧
    (∀ (requests : List Request) (base : String),
      (∀ q ∈ requests, isWord q.policy.suffix = true) → Apart (turns .empty requests) base →
        ∀ (k : Nat) (t : Turn), (asking (turns .empty requests) base)[k]? = some t →
          ∃ id : Identifier, t.answer = .ok id ∧
            id.text = if k = 0 then base else base ++ toString (k + 1)) ∧
    ∀ (options : Options) (skipped : List Skipped)
      (contents : List (Source × Except FileError String)),
      let requests := requestsOf options (readAll contents).1
      (∀ q ∈ requests, q.policy = options.naming) ∧
        ∀ nanoseconds,
          ((Batch.ofContents options skipped contents).report nanoseconds).identifiers =
            (turns .empty requests).filterMap fun t => t.answer.toOption := by
  refine ⟨?request, ?row, ?batch⟩
  case request =>
    intro r title stem policy base next id asked answered
    have text : id.text = r.disambiguate base := by
      rcases synthesize_cases r title stem policy with
        ⟨e, refused, -⟩ | ⟨base', next', ok, ⟨id', made, eq⟩ | ⟨e, -, eq⟩⟩
      · rw [asked] at refused
        contradiction
      · obtain ⟨rfl, rfl⟩ := Prod.mk.inj (Except.ok.inj (asked.symm.trans ok))
        obtain rfl : id' = id := by simpa [eq] using answered
        exact text_of_ofString made
      · simp [eq] at answered
    cases taken : r.isUsed base with
    | false => exact Or.inl ⟨rfl, text.trans (disambiguate_of_isFree taken)⟩
    | true =>
      obtain ⟨n, least, eq⟩ := disambiguate_of_isUsed taken
      exact Or.inr ⟨rfl, n, least, text.trans eq⟩
  case row =>
    intro requests base words apart k t turn
    obtain ⟨id, answer, text⟩ := answer_of_apart words apart (HoldsFirst.empty base) turn
    refine ⟨id, answer, ?_⟩
    rw [text, numbered, Nat.zero_add]
    simp only [Nat.add_eq_right]
  case batch =>
    intro options skipped contents requests
    refine ⟨fun q mem => policy_of_mem_requestsOf mem, fun ns => ?_⟩
    rw [Batch.identifiers_report, Batch.components]
    exact identifiers_processAll options .empty (readAll contents).1

/-- The stars of a row are numbered whatever is between them. Where a title has taken the name with
the number two, the second star gets the number three. -/
theorem collisions_get_least_numbers_of_stars :
    let titled (title : String) : Request := ⟨some title, "", {}⟩
    let requests := [titled "star", titled "Home", ⟨none, "", {}⟩, titled "Star", titled "star"]
    let crowded := after [titled "Star2", titled "star"]
    (∃ id : Identifier, crowded.answer (titled "star") = .ok id ∧ id.text = "Star3") ∧
      (asking (turns .empty requests) "Star").length = 3 ∧
      ∀ (k : Nat) (t : Turn), (asking (turns .empty requests) "Star")[k]? = some t →
        ∃ id : Identifier, t.answer = .ok id ∧
          id.text = if k = 0 then "Star" else "Star" ++ toString (k + 1) := by
  intro titled requests crowded
  obtain ⟨one, row, -⟩ := collisions_get_least_numbers
  refine ⟨?crowded, ?length, ?row⟩
  case crowded =>
    have asked : crowded.baseName (some "star") "" {} = .ok ("Star", 1) := by decide +kernel
    obtain ⟨id, -, eq⟩ := synthesize_of_baseName (by decide) asked
    have answer : crowded.answer (titled "star") = .ok id := congrArg Prod.fst eq
    refine ⟨id, answer, ?_⟩
    rcases one crowded (some "star") "" {} "Star" 1 id asked answer with
      ⟨free, -⟩ | ⟨-, n, ⟨⟨from2, free⟩, least⟩, text⟩
    · exact absurd free (by decide +kernel)
    · have below : n ≤ 3 := least ⟨by omega, by decide +kernel⟩
      have above : n ≠ 2 := by
        rintro rfl
        exact absurd free (by decide +kernel)
      obtain rfl : n = 3 := by omega
      exact text
  case length => decide +kernel
  case row =>
    have words : ∀ q ∈ requests, isWord q.policy.suffix = true := by decide +kernel
    have apart : Apart (turns .empty requests) "Star" := by
      unfold Apart
      decide +kernel
    exact row requests "Star" words apart

end Registry

end IconForge
