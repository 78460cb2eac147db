import IconForge.Proofs.Batch
import IconForge.Proofs.Naming

/-!
# Refused requests

A request is refused for one of two reasons: its title holds no letter or digit, or its suffix holds
something else. Which of the two it is can be told from the request alone, whatever names have been
given before, and if the suffix is a word then nothing at all becomes of a refused request, nor of
an icon that is refused on the way to its name.

## Main statements

- `synthesize_eq_empty_iff`, `exists_synthesize_eq_ok_iff`: what a request is answered with.
- `processSource_of_error`: an icon that fails leaves the names as they are.
- `Registry.synthesize_refuses_exactly`: all answers and what they change.
-/

namespace IconForge

open IconForge.Markup IconForge.Text

namespace Registry

variable {r : Registry} {title : Option String} {stem : String} {policy : NamingPolicy}

/-! ## Answers -/

/-- An icon asks for a name if its title, should it have one, holds a letter or digit. -/
theorem baseName_isOk_eq_hasWordChar (r : Registry) (title : Option String) (stem : String)
    (policy : NamingPolicy) :
    (r.baseName title stem policy).isOk = title.all hasWordChar := by
  rw [baseName_isOk]
  simp only [camelCase_isEmpty, Bool.not_not]

/-- A request has an empty title to blame just if its title holds no letter or digit. -/
theorem synthesize_eq_empty_iff {t : String} :
    (r.synthesize title stem policy).1 = .error (.emptyIdentifier t) ↔
      title = some t ∧ hasWordChar t = false := by
  have asked := baseName_isOk_eq_hasWordChar r title stem policy
  rcases synthesize_cases r title stem policy with
    ⟨e, refused, eq⟩ | ⟨base, next, ok, ⟨id, -, eq⟩ | ⟨e, failed, eq⟩⟩
  · -- no name is asked for, which only a title can bring about
    obtain ⟨t', rfl, rfl⟩ := baseName_error refused
    rw [refused] at asked
    have wordless : hasWordChar t' = false := asked.symm
    simp only [eq, Except.error.injEq, NamingError.emptyIdentifier.injEq, Option.some.injEq]
    constructor
    · rintro rfl
      exact ⟨rfl, wordless⟩
    · exact And.left
  · rw [ok] at asked
    constructor
    · simp [eq]
    · rintro ⟨rfl, wordless⟩
      exact absurd (asked.trans wordless) Bool.true_eq_false.mp
  · -- the name that is tried is no identifier, which is the other reason
    rw [ok] at asked
    unfold Identifier.ofString at failed
    split at failed
    · contradiction
    · obtain rfl := Except.error.inj failed
      constructor
      · simp [eq]
      · rintro ⟨rfl, wordless⟩
        exact absurd (asked.trans wordless) Bool.true_eq_false.mp

/-- A request gets a name just if neither its title nor its suffix is to blame. -/
theorem exists_synthesize_eq_ok_iff :
    (∃ id, (r.synthesize title stem policy).1 = .ok id) ↔
      title.all hasWordChar = true ∧ isWord policy.suffix = true := by
  have nameable := isOk_synthesize r title stem policy
  simp only [isNameable, camelCase_isEmpty, Bool.not_not] at nameable
  rw [← Bool.and_eq_true, ← nameable]
  cases (r.synthesize title stem policy).1 <;> simp [Except.isOk, Except.toBool]

end Registry

/-! ## Icons -/

/-- With a suffix that is a word, an icon that fails leaves the names as they are. -/
theorem processSource_of_error {options : Options} {r r' : Registry} {stem content : String}
    {e : IconError} (word : isWord options.naming.suffix = true)
    (failed : processSource options r stem content = .ok (.error e, r')) : r' = r := by
  unfold processSource processContent at failed
  cases reading : readIcon (.ok content) with
  | error crash => simp [reading, Except.map] at failed
  | ok reading' =>
    simp only [reading, Except.map, Except.ok.injEq] at failed
    -- naming is the last step that can fail, and the only one that reaches the names
    rcases renderIcon_cases options r stem reading' with
      ⟨e', -, eq⟩ | ⟨doc, -, ⟨e', refused, eq⟩ | ⟨id, -, eq⟩⟩
    · exact (Prod.mk.inj (failed.symm.trans eq)).2
    · rw [(Prod.mk.inj (failed.symm.trans eq)).2]
      exact Registry.synthesize_of_not_isOk word (by rw [refused]; rfl)
    · exact absurd (Prod.mk.inj (failed.symm.trans eq)).1 (by simp)

namespace Registry

/-! ## All answers -/

/-- A request is refused for its title just if that holds no letter or digit, otherwise for its
suffix just if that holds something other than letters and digits, and otherwise it gets a name. A
number is drawn only for a request without a title whose file name is not asked for or holds no
letter or digit. With a suffix that is a word, a request that is refused leaves the registry as it
was, and so does an icon that fails. -/
theorem synthesize_refuses_exactly (r : Registry) (title : Option String) (stem : String)
    (policy : NamingPolicy) :
    let done := r.synthesize title stem policy
    (∀ t, done.1 = .error (.emptyIdentifier t) ↔ title = some t ∧ hasWordChar t = false) ∧
      ((∃ name, done.1 = .error (.invalidIdentifier name)) ↔
        title.all hasWordChar = true ∧ isWord policy.suffix = false) ∧
      ((∃ id, done.1 = .ok id) ↔ title.all hasWordChar = true ∧ isWord policy.suffix = true) ∧
      (done.2.nextFallback ≠ r.nextFallback →
        title = none ∧ (policy.useFileNames = false ∨ hasWordChar stem = false)) ∧
      (isWord policy.suffix = true → ∀ e, done.1 = .error e → done.2 = r) ∧
      ∀ options content, isWord options.naming.suffix = true →
        ∀ e r', processSource options r stem content = .ok (.error e, r') → r' = r := by
  intro done
  refine ⟨fun t => synthesize_eq_empty_iff, ?suffix, exists_synthesize_eq_ok_iff, ?counter,
    ?refused, ?icon⟩
  case suffix =>
    show (∃ name, (r.synthesize title stem policy).1 = .error (.invalidIdentifier name)) ↔ _
    rw [synthesize_eq_invalid_iff]
    simp only [camelCase_isEmpty, Bool.not_not]
  case counter =>
    intro moved
    -- a request that does not fall back would not have moved it
    have falls : fallsBack title stem policy = true := by
      by_contra stays
      exact moved (nextFallback_synthesize (by simpa using stays))
    simpa [fallsBack, Classical.or_iff_not_imp_left] using falls
  case refused =>
    intro word e failed
    apply synthesize_of_not_isOk word
    rw [show (r.synthesize title stem policy).1 = .error e from failed]
    rfl
  case icon =>
    intro options content word e r' failed
    exact processSource_of_error word failed

/-- Dashes are a title that is refused without a trace, and a suffix with which nothing gets a name.
-/
theorem synthesize_refuses_dashes :
    let r := after [⟨some "Home", "", {}⟩]
    r.names = ["Home"] ∧
      r.synthesize (some "--") "" {} = (.error (.emptyIdentifier "--"), r) ∧
      ∃ name, (r.synthesize (some "Home") "" { suffix := "-" }).1 =
        .error (.invalidIdentifier name) := by
  intro r
  obtain ⟨empty, -, -, -, refused, -⟩ := synthesize_refuses_exactly r (some "--") "" {}
  obtain ⟨-, invalid, -⟩ := synthesize_refuses_exactly r (some "Home") "" { suffix := "-" }
  have dashes := (empty "--").mpr ⟨rfl, by decide +kernel⟩
  exact ⟨by decide +kernel, Prod.ext dashes (refused (by decide +kernel) _ dashes),
    invalid.mpr (by decide +kernel)⟩

end Registry

end IconForge
