import IconForge.Proofs.Registry.Turns

/-!
# The numbers of the fallback sequence

The requests of a row that fall back to the sequence get its numbers in order. A number is left out
only if its name has been given before, and the name that goes with a number never gets a second
one. All other requests leave the sequence alone.

Titles may have taken names of the sequence before it reaches them, and a suffix that ends in digits
can make two numbers share a name, so that the numbers need not follow each other; they only
increase.

## Main statements

- `DrawnAfter`: what it is for a request to be given a number.
- `exists_drawnAfter`: one request that falls back.
- `fallbacks_are_numbered`: all of a row.
-/

namespace IconForge

namespace Registry

/-! ## One request -/

/-- A request is given the number `n` of the fallback sequence, of which `last` was the last number
before. -/
structure DrawnAfter (last n : Nat) (t : Turn) : Prop where
  above : last < n
  /-- Every number between is one whose name was taken. -/
  skipped : ∀ m, last < m → m < n →
    t.registry.isUsed (fallbackName m t.request.policy.suffix) = true
  /-- The request gets the name of its number as it is. -/
  named : ∃ id : Identifier, t.answer = .ok id ∧
    id.text = fallbackName n t.request.policy.suffix
  counter : t.after.nextFallback = n + 1

/-- With a suffix that is a word, a request that falls back is given the next number whose name is
free. -/
theorem exists_drawnAfter {t : Turn} {last : Nat}
    (word : isWord t.request.policy.suffix = true) (falls : t.fallsBack = true)
    (counter : t.registry.nextFallback = last + 1) : ∃ n, DrawnAfter last n t := by
  obtain ⟨n, reached, taken, free, drawn⟩ :=
    nextFallbackName_spec t.registry t.request.policy.suffix
  have asked := baseName_of_fallsBack t.registry falls
  rw [drawn] at asked
  obtain ⟨id, text, eq⟩ := synthesize_of_baseName word asked
  -- the name that is drawn is free, and so it stays as it is
  have asIs : t.registry.disambiguate (fallbackName n t.request.policy.suffix) =
      fallbackName n t.request.policy.suffix := by
    rw [disambiguate, free]
    rfl
  refine ⟨n, ?above, ?skipped, ⟨id, ?answer, text.trans asIs⟩, ?counter⟩
  case above => omega
  case skipped =>
    intro m above below
    exact taken m (by omega) below
  case answer => rw [Turn.answer, Registry.answer, eq]
  case counter =>
    rw [Turn.after, next, eq]
    rfl

/-- A request that does not fall back leaves the sequence alone. -/
theorem nextFallback_after {t : Turn} (stays : t.fallsBack = false) :
    t.after.nextFallback = t.registry.nextFallback :=
  nextFallback_synthesize stays

/-! ## Requests in a row -/

/-- Requests are given numbers of the fallback sequence one after the other, `last` being the last
number before them. -/
inductive DrawnInOrder : (last : Nat) → List Turn → List Nat → Prop
  | nil {last : Nat} : DrawnInOrder last [] []
  | cons {last n : Nat} {t : Turn} {drawing : List Turn} {numbers : List Nat} :
      DrawnAfter last n t → DrawnInOrder n drawing numbers →
        DrawnInOrder last (t :: drawing) (n :: numbers)

namespace DrawnInOrder

variable {last : Nat} {drawing : List Turn} {numbers : List Nat}

theorem length_eq (drawn : DrawnInOrder last drawing numbers) :
    numbers.length = drawing.length := by
  induction drawn with
  | nil => rfl
  | cons _ _ ih => rw [List.length_cons, List.length_cons, ih]

/-- The numbers increase. -/
theorem isChain (drawn : DrawnInOrder last drawing numbers) :
    (last :: numbers).IsChain (· < ·) := by
  induction drawn with
  | nil => exact List.isChain_singleton _
  | cons first _ ih => exact List.IsChain.cons_cons first.above ih

/-- Each request is given its number after that of the request before it. -/
theorem drawnAfter_of_getElem? (drawn : DrawnInOrder last drawing numbers) {k : Nat} {t : Turn}
    (turn : drawing[k]? = some t) :
    ∃ before n, (last :: numbers)[k]? = some before ∧ numbers[k]? = some n ∧
      DrawnAfter before n t := by
  induction drawn generalizing k with
  | nil => simp at turn
  | @cons last n first drawing numbers here _ ih =>
    cases k with
    | zero =>
      obtain rfl : first = t := by simpa using turn
      exact ⟨last, n, rfl, rfl, here⟩
    | succ k =>
      rw [List.getElem?_cons_succ] at turn ⊢
      rw [List.getElem?_cons_succ]
      exact ih turn

end DrawnInOrder

/-- Of a row of requests whose suffixes are words, those that fall back are given numbers in order,
whatever comes between them. -/
theorem exists_drawnInOrder {requests : List Request} {r : Registry} {last : Nat}
    (words : ∀ q ∈ requests, isWord q.policy.suffix = true)
    (counter : r.nextFallback = last + 1) :
    ∃ numbers, DrawnInOrder last ((turns r requests).filter Turn.fallsBack) numbers := by
  induction requests generalizing r last with
  | nil => exact ⟨[], .nil⟩
  | cons q requests ih =>
    obtain ⟨word, words⟩ := List.forall_mem_cons.mp words
    rw [turns]
    cases falls : (Turn.mk r q).fallsBack with
    | true =>
      -- the rest of the row goes on after the number that is drawn here
      obtain ⟨n, here⟩ := exists_drawnAfter word falls counter
      obtain ⟨numbers, later⟩ := ih words here.counter
      rw [List.filter_cons_of_pos falls]
      exact ⟨n :: numbers, .cons here later⟩
    | false =>
      rw [List.filter_cons_of_neg (by simp [falls])]
      exact ih words ((nextFallback_after falls).trans counter)

/-- Of a row of requests to a registry that has not begun, whose suffixes are words, those that fall
back to the sequence are given increasing numbers from one on. Each gets the name of its number as
it is; a number between it and the one before is left out because its name was taken; and the
sequence goes on with the number after it. No other request moves the sequence. -/
theorem fallbacks_are_numbered {requests : List Request}
    (words : ∀ q ∈ requests, isWord q.policy.suffix = true) :
    let row := turns .empty requests
    let drawing := row.filter Turn.fallsBack
    (∃ numbers : List Nat, numbers.length = drawing.length ∧ (0 :: numbers).Pairwise (· < ·) ∧
      ∀ (k : Nat) (t : Turn), drawing[k]? = some t →
        ∃ last n, (0 :: numbers)[k]? = some last ∧ numbers[k]? = some n ∧ DrawnAfter last n t) ∧
    ∀ t ∈ row, t.fallsBack = false → t.after.nextFallback = t.registry.nextFallback := by
  intro row drawing
  constructor
  · have counter : Registry.empty.nextFallback = 0 + 1 := rfl
    obtain ⟨numbers, drawn⟩ := exists_drawnInOrder words counter
    refine ⟨numbers, drawn.length_eq, drawn.isChain.pairwise, ?_⟩
    intro k t turn
    exact drawn.drawnAfter_of_getElem? turn
  · intro t _ stays
    exact nextFallback_after stays

/-- A title takes the second name of the sequence, another one makes no name, and the last request
has a suffix with which the fourth name is taken as well. -/
theorem fallbacks_are_numbered_around_titles :
    let request (title : Option String) (suffix : String) : Request := ⟨title, "", { suffix }⟩
    let requests := [request (some "icon 2") "", request none "", request (some "!") "",
      request none "", request (some "Icon41") "", request none "1"]
    let row := turns .empty requests
    let drawing := row.filter Turn.fallsBack
    (∀ q ∈ requests, isWord q.policy.suffix = true) ∧
      (row.map fun t => t.answer.toOption.map Identifier.text) =
        [some "Icon2", some "Icon1", none, some "Icon3", some "Icon41", some "Icon51"] ∧
      ∃ numbers : List Nat, numbers.length = 3 ∧ (0 :: numbers).Pairwise (· < ·) ∧
        ∀ (k : Nat) (t : Turn), drawing[k]? = some t →
          ∃ last n, (0 :: numbers)[k]? = some last ∧ numbers[k]? = some n ∧
            DrawnAfter last n t := by
  intro request requests row drawing
  have words : ∀ q ∈ requests, isWord q.policy.suffix = true := by decide +kernel
  obtain ⟨⟨numbers, length, increasing, drawn⟩, -⟩ := fallbacks_are_numbered words
  refine ⟨words, by decide +kernel, numbers, ?_, increasing, drawn⟩
  rw [length]
  decide +kernel

end Registry

end IconForge
