import IconForge.Proofs.Batch
import IconForge.Proofs.Naming

/-!
# Requests in their turn

The requests of a row are answered one after the other, each by the registry that the ones before
it have left. `turns` lists them together with these registries, so that what is said of the
requests of a row can be said of its turns, one by one.

Among the icons of a batch those that hold a document make a request, and the names of the batch are
the answers.

## Main definitions

- `Turn`: a request and the registry that it meets.
- `turns`: the turns of a row.
- `requestsOf`: the requests of the icons of a batch.

## Main statements

- `Turn.answer_of_base?`: what a request is answered, and what that adds to the names taken.
- `identifiers_processAll`: the names of a batch are the answers to its requests.
-/

namespace IconForge

open IconForge.Markup

namespace Registry

/-- A request and the registry that it meets. -/
structure Turn where
  registry : Registry
  request : Request

namespace Turn

def answer (t : Turn) : Except NamingError Identifier := t.registry.answer t.request

/-- The registry that the next request meets. -/
def after (t : Turn) : Registry := t.registry.next t.request

/-- The name that the request asks for, to which a number may come. -/
def base? (t : Turn) : Option String :=
  (t.registry.baseName t.request.title t.request.stem t.request.policy).toOption.map Prod.fst

/-- The request takes its name from the fallback sequence. -/
def fallsBack (t : Turn) : Bool :=
  Registry.fallsBack t.request.title t.request.stem t.request.policy

end Turn

/-- The turns of a row of requests, of which the first one meets the registry `r`. -/
def turns (r : Registry) : List Request → List Turn
  | [] => []
  | q :: requests => ⟨r, q⟩ :: turns (r.next q) requests

namespace Turn

variable {t : Turn}

theorem base?_eq_some_iff {base : String} :
    t.base? = some base ↔ ∃ next,
      t.registry.baseName t.request.title t.request.stem t.request.policy = .ok (base, next) := by
  unfold base?
  cases t.registry.baseName t.request.title t.request.stem t.request.policy with
  | error e => simp [Except.toOption]
  | ok asked =>
    obtain ⟨base', next⟩ := asked
    simp [Except.toOption]

/-- With a suffix that is a word, a request that asks for a name gets it, or it with a number, and
that name is all that is taken. -/
theorem answer_of_base? {base : String} (word : isWord t.request.policy.suffix = true)
    (asked : t.base? = some base) :
    ∃ id : Identifier, t.answer = .ok id ∧ id.text = t.registry.disambiguate base ∧
      t.after.used = id.text :: t.registry.used := by
  obtain ⟨next, asked⟩ := base?_eq_some_iff.mp asked
  obtain ⟨id, text, eq⟩ := synthesize_of_baseName word asked
  refine ⟨id, ?_, text, ?_⟩
  · rw [answer, Registry.answer, eq]
  · rw [after, Registry.next, eq]
    rfl

/-- A request that asks for no name takes none. -/
theorem after_of_base?_eq_none (asked : t.base? = none) : t.after = t.registry := by
  rcases synthesize_cases t.registry t.request.title t.request.stem t.request.policy with
    ⟨e, -, eq⟩ | ⟨base, next, ok, -⟩
  · rw [after, Registry.next, eq]
  · rw [base?_eq_some_iff.mpr ⟨next, ok⟩] at asked
    contradiction

end Turn

end Registry

/-! ## The requests of a batch -/

/-- An icon makes a request if it has a document. -/
def requestOf? (options : Options) (source : Source) (reading : Except IconError Document) :
    Option Registry.Request :=
  reading.toOption.map fun doc =>
    ⟨(IconAttributes.ofDocument doc options.sizes).title, source.stem, options.naming⟩

/-- The requests of icons in a row. -/
def requestsOf (options : Options) (readings : List (Source × Except IconError Document)) :
    List Registry.Request :=
  readings.filterMap fun (source, reading) => requestOf? options source reading

theorem requestsOf_cons (options : Options) (source : Source) (reading : Except IconError Document)
    (rest : List (Source × Except IconError Document)) :
    requestsOf options ((source, reading) :: rest) =
      (requestOf? options source reading).toList ++ requestsOf options rest := by
  cases made : requestOf? options source reading <;> simp [requestsOf, made]

/-- All icons of a batch get the same suffix. -/
theorem policy_of_mem_requestsOf {options : Options}
    {readings : List (Source × Except IconError Document)} {q : Registry.Request}
    (mem : q ∈ requestsOf options readings) : q.policy = options.naming := by
  obtain ⟨⟨source, reading⟩, -, made⟩ := List.mem_filterMap.mp mem
  obtain ⟨doc, -, rfl⟩ := Option.map_eq_some_iff.mp made
  rfl

/-- An icon that makes no request gets no name and leaves the names alone; the others get the answer
to their request. -/
theorem renderIcon_of_requestOf? (options : Options) (r : Registry) (source : Source)
    (reading : Except IconError Document) :
    let done := renderIcon options r source.stem reading
    match requestOf? options source reading with
    | none => done.1.toOption = none ∧ done.2 = r
    | some q => done.1.toOption.map Component.identifier = (r.answer q).toOption ∧
        done.2 = r.next q := by
  rcases renderIcon_cases options r source.stem reading with
    ⟨e, rfl, eq⟩ | ⟨doc, rfl, ⟨e, refused, eq⟩ | ⟨id, answered, eq⟩⟩
  · rw [eq]
    exact ⟨rfl, rfl⟩
  · rw [eq]
    refine ⟨?_, rfl⟩
    rw [Registry.answer, refused]
    rfl
  · rw [eq]
    refine ⟨?_, rfl⟩
    rw [Registry.answer, answered]
    rfl

/-- The names of a batch are the answers to its requests, in order. -/
theorem identifiers_processAll (options : Options) (r : Registry)
    (readings : List (Source × Except IconError Document)) :
    (componentsOf (processAll options r readings)).map Component.identifier =
      (Registry.turns r (requestsOf options readings)).filterMap fun t => t.answer.toOption := by
  induction readings generalizing r with
  | nil => rfl
  | cons head rest ih =>
    obtain ⟨source, reading⟩ := head
    have here := renderIcon_of_requestOf? options r source reading
    rw [processAll_cons, componentsOf_cons, List.map_append, ih, requestsOf_cons]
    cases made : requestOf? options source reading with
    | none =>
      rw [made] at here
      obtain ⟨nothing, same⟩ := here
      rw [nothing, same]
      rfl
    | some q =>
      rw [made] at here
      obtain ⟨answered, next⟩ := here
      rw [← Option.toList_map, answered, next]
      show _ = (Registry.turns r (q :: requestsOf options rest)).filterMap _
      rw [Registry.turns, List.filterMap_cons, Registry.Turn.answer]
      cases (r.answer q).toOption <;> rfl

end IconForge
