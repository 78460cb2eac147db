import Mathlib

/-!
# Answers

What is done in steps is done if every step is, and each step is done with what the one before has
answered. These are the facts on `Except` by which such steps are taken apart and put together.

## Main statements

- `bind_eq_ok`: what is done in two steps.
- `isOk_bind`: two courses of which each step is done or not done alike.
- `AnsweredAlike`: two changes with one answer.
-/

namespace IconForge

variable {ε ε' α β : Type}

/-- What is done in two steps is done if both are. -/
theorem bind_eq_ok {x : Except ε α} {f : α → Except ε β} {b : β} :
    x.bind f = .ok b ↔ ∃ a, x = .ok a ∧ f a = .ok b := by
  cases x <;> simp [Except.bind]

/-- Two courses go alike if their first steps do, and then their second ones. -/
theorem isOk_bind {x x' : Except ε α} {f f' : α → Except ε β} (first : x'.isOk = x.isOk)
    (second : ∀ a a', x = .ok a → x' = .ok a' → (f' a').isOk = (f a).isOk) :
    (x'.bind f').isOk = (x.bind f).isOk := by
  cases x with
  | error e =>
    cases x' with
    | error e' => rfl
    | ok a' => contradiction
  | ok a =>
    cases x' with
    | error e' => contradiction
    | ok a' => exact second a a' rfl rfl

/-- An error that is told in other words is still one. -/
theorem isOk_mapError (f : ε → ε') (x : Except ε α) : (x.mapError f).isOk = x.isOk := by
  cases x <;> rfl

/-- Two changes are answered alike, and the states that they leave are related. -/
structure AnsweredAlike {σ τ : Type} (R : σ → τ → Prop) (done : Except ε α × σ)
    (done' : Except ε α × τ) : Prop where
  answer : done'.1 = done.1
  left : R done.2 done'.2

theorem AnsweredAlike.same {σ τ : Type} {R : σ → τ → Prop} (answer : Except ε α) {s : σ} {t : τ}
    (related : R s t) : AnsweredAlike R (answer, s) (answer, t) := ⟨rfl, related⟩

theorem AnsweredAlike.mapError {σ τ : Type} {R : σ → τ → Prop} {done : Except ε α × σ}
    {done' : Except ε α × τ} (alike : AnsweredAlike R done done') (f : ε → ε') :
    AnsweredAlike R (done.1.mapError f, done.2) (done'.1.mapError f, done'.2) :=
  ⟨congrArg (Except.mapError f) alike.answer, alike.left⟩

end IconForge
