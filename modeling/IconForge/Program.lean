/-!
# Programs that ask

A program asks for something, goes on with the answer, and asks again, until it ends with a result.
Who answers is left open. The same program is carried out on files in memory, whose answers are
computed, and by the system that it is called on, whose answers are what happens there; so what is
proved of its steps holds of it wherever it is carried out.

`interpret` hands each request to whoever answers, and `perform` is that where the answers are
computed from a state.
-/

namespace IconForge

/-- A program with a result in `α`; a request `q` has its answer in `A q`. -/
inductive Program {Q : Type} (A : Q → Type) (α : Type) where
  | done (result : α)
  | ask (request : Q) (next : A request → Program A α)

namespace Program

variable {Q : Type} {A : Q → Type} {α β : Type}

/-- Goes on with the result of a program. -/
def bind (p : Program A α) (f : α → Program A β) : Program A β :=
  match p with
  | done result => f result
  | ask request next => ask request fun answer => (next answer).bind f

instance : Monad (Program A) where
  pure := done
  bind := bind

/-- Asks for one thing. -/
def request (q : Q) : Program A (A q) := ask q done

/-- Carries a program out, with the answers that `answer` gives. -/
def interpret {m : Type → Type} [Monad m] (answer : (q : Q) → m (A q)) : Program A α → m α
  | done result => pure result
  | ask request next => do interpret answer (next (← answer request))

/-! ## Answers from a state -/

section

variable {σ : Type} (answer : (q : Q) → StateM σ (A q)) (s : σ)

/-- Carries a program out on a state: its result, and the state in the end. -/
def perform (p : Program A α) : α × σ := (p.interpret answer).run s

theorem perform_request (q : Q) : (request q).perform answer s = (answer q).run s := rfl

/-- A program that goes on with the result of another goes on from the state that this leaves. -/
theorem perform_bind (p : Program A α) (f : α → Program A β) :
    (p >>= f).perform answer s =
      (f (p.perform answer s).1).perform answer (p.perform answer s).2 := by
  induction p generalizing s with
  | done result => rfl
  | ask q next ih => exact ih ((answer q).run s).1 ((answer q).run s).2

end

end Program

end IconForge
