import IconForge.Proofs.Registry

/-!
# Drawing ends

The fallback sequence draws numbers until one gives a free name. `Draws` says so without a limit to
the numbers that are drawn. It always comes to an end, whatever names are taken, wherever the
sequence stands and whatever the suffix is: a suffix of digits can make two numbers share a name,
but never three, so that after twice as many draws as there are names taken the next one is free.
Without a suffix no two numbers share a name.

The drawing that has a limit is the one without, cut off at the limit.

## Main statements

- `Draws.unique`: drawing ends in one way only.
- `exists_draws`: it ends with the first number whose name is free.
- `drawFallback?_eq_some_iff`: drawing with a limit.
- `fallback_search_ends`: the number of draws, the name, and the number to go on with.
-/

namespace IconForge

namespace Registry

variable {r : Registry} {suffix : String}

/-! ## Drawing without a limit -/

/-- Beginning with the number `n`, as many numbers are drawn one after the other, and the last one
gives this name, which is free. -/
inductive Draws (r : Registry) (suffix : String) : (n draws : Nat) → (name : String) → Prop
  | free {n : Nat} : r.isUsed (fallbackName n suffix) = false →
      Draws r suffix n 1 (fallbackName n suffix)
  | taken {n draws : Nat} {name : String} : r.isUsed (fallbackName n suffix) = true →
      Draws r suffix (n + 1) draws name → Draws r suffix n (draws + 1) name

/-- What is drawn in the end is free. -/
theorem Draws.isUsed_eq_false {n draws : Nat} {name : String}
    (drawn : Draws r suffix n draws name) : r.isUsed name = false := by
  induction drawn with
  | free unused => exact unused
  | taken _ _ ih => exact ih

/-- Drawing ends in one way only. -/
theorem Draws.unique {n draws draws' : Nat} {name name' : String}
    (drawn : Draws r suffix n draws name) (drawn' : Draws r suffix n draws' name') :
    draws = draws' ∧ name = name' := by
  induction drawn generalizing draws' with
  | free unused =>
    cases drawn' with
    | free _ => exact ⟨rfl, rfl⟩
    | taken used _ => simp [unused] at used
  | taken used _ ih =>
    cases drawn' with
    | free unused => simp [unused] at used
    | taken _ later =>
      obtain ⟨sameDraws, sameName⟩ := ih later
      exact ⟨congrArg (· + 1) sameDraws, sameName⟩

/-- Where some number from `n` on gives a free name, drawing ends, and with no number after it. -/
theorem exists_draws {n k : Nat} (above : n ≤ k)
    (unused : r.isUsed (fallbackName k suffix) = false) :
    ∃ draws name, Draws r suffix n draws name ∧ draws ≤ k - n + 1 := by
  -- on the way to `k` there is one draw less to make after each number that is taken
  induction distance : k - n generalizing n with
  | zero =>
    have here : n = k := by omega
    subst here
    exact ⟨1, fallbackName n suffix, .free unused, le_rfl⟩
  | succ distance ih =>
    cases used : r.isUsed (fallbackName n suffix) with
    | false => exact ⟨1, fallbackName n suffix, .free used, by omega⟩
    | true =>
      obtain ⟨draws, name, drawn, few⟩ := ih (n := n + 1) (by omega) (by omega)
      exact ⟨draws + 1, name, .taken used drawn, by omega⟩

/-! ## Drawing with a limit -/

/-- Drawing with a limit gives the name with which drawing ends, if that takes no more draws. -/
theorem drawFallback?_eq_some_iff {limit n next : Nat} {name : String} :
    r.drawFallback? suffix limit n = some (name, next) ↔
      ∃ draws, draws ≤ limit ∧ Draws r suffix n draws name ∧ next = n + draws := by
  induction limit generalizing n with
  | zero =>
    constructor
    · intro none
      simp [drawFallback?] at none
    · rintro ⟨draws, few, drawn, -⟩
      -- there is at least one draw
      cases drawn <;> omega
  | succ limit ih =>
    cases used : r.isUsed (fallbackName n suffix) with
    | false =>
      simp only [drawFallback?, used, Bool.false_eq_true, if_false, Option.some.injEq,
        Prod.mk.injEq]
      constructor
      · rintro ⟨rfl, rfl⟩
        exact ⟨1, by omega, .free used, rfl⟩
      · rintro ⟨draws, -, drawn, rfl⟩
        obtain ⟨rfl, rfl⟩ := drawn.unique (.free used)
        exact ⟨rfl, rfl⟩
    | true =>
      simp only [drawFallback?, used, if_true, ih]
      constructor
      · rintro ⟨draws, few, drawn, rfl⟩
        exact ⟨draws + 1, by omega, .taken used drawn, by omega⟩
      · rintro ⟨draws, few, drawn, rfl⟩
        cases drawn with
        | free unused => simp [used] at unused
        | taken _ later => exact ⟨_, by omega, later, by omega⟩

/-- A limit that is too low gives nothing, and any other one gives the same. -/
theorem Draws.drawFallback?_eq {n draws : Nat} {name : String}
    (drawn : Draws r suffix n draws name) (limit : Nat) :
    r.drawFallback? suffix limit n = if draws ≤ limit then some (name, n + draws) else none := by
  split
  · rename_i few
    exact drawFallback?_eq_some_iff.mpr ⟨draws, few, drawn, rfl⟩
  · rename_i many
    rw [Option.eq_none_iff_forall_ne_some]
    rintro ⟨name', next⟩ found
    obtain ⟨draws', few, drawn', -⟩ := drawFallback?_eq_some_iff.mp found
    obtain ⟨same, -⟩ := drawn.unique drawn'
    omega

/-! ## How many draws there are -/

/-- Without a suffix, among one more numbers in a row than there are names taken, one gives a free
name. -/
theorem exists_free_of_noSuffix (r : Registry) (start : Nat) :
    ∃ n, start ≤ n ∧ n ≤ start + r.usedCount ∧ r.isUsed (fallbackName n "") = false := by
  -- every name ends with the empty suffix of itself
  have alike : ∀ n ∈ List.range' start (r.usedCount + 1), endsItself "" n = true := by
    intro n _
    simp [endsItself]
  obtain ⟨n, mem, free⟩ :=
    exists_free_of_alike r "" true List.nodup_range' alike (by simp)
  obtain ⟨above, below⟩ := List.mem_range'_1.mp mem
  exact ⟨n, above, by omega, free⟩

/-- Whatever names are taken, wherever the fallback sequence stands and whatever the suffix is,
drawing ends: after at most one more draws than twice the names taken, and without a suffix after at
most one more than the names taken. The name is free, it is the next one of the sequence, and the
sequence goes on after the numbers drawn. No limit changes this, unless it is lower. -/
theorem fallback_search_ends (r : Registry) (suffix : String) :
    ∃ draws name, Draws r suffix r.nextFallback draws name ∧
      draws ≤ 2 * r.usedCount + 1 ∧
      (suffix = "" → draws ≤ r.usedCount + 1) ∧
      name ∉ r.used ∧
      r.nextFallbackName suffix = (name, r.nextFallback + draws) ∧
      ∀ limit, r.drawFallback? suffix limit r.nextFallback =
        if draws ≤ limit then some (name, r.nextFallback + draws) else none := by
  obtain ⟨k, above, below, unused⟩ := exists_free_fallbackName r suffix r.nextFallback
  obtain ⟨draws, name, drawn, few⟩ := exists_draws above unused
  have bound : draws ≤ 2 * r.usedCount + 1 := by omega
  refine ⟨draws, name, drawn, bound, ?noSuffix, ?free, ?next, drawn.drawFallback?_eq⟩
  case noSuffix =>
    rintro rfl
    obtain ⟨k', above', below', unused'⟩ := exists_free_of_noSuffix r r.nextFallback
    obtain ⟨draws', name', drawn', few'⟩ := exists_draws above' unused'
    -- it is the same drawing that also ends by then
    obtain ⟨same, -⟩ := drawn.unique drawn'
    omega
  case free =>
    rw [← isUsed_iff_mem, drawn.isUsed_eq_false]
    exact Bool.false_ne_true
  case next =>
    have enough : draws ≤ r.drawBound := by
      have := r.usedCount_le
      rw [drawBound]
      omega
    rw [nextFallbackName, drawn.drawFallback?_eq, if_pos enough]
    rfl

/-- The numbers 5 and 51 share a name with this suffix, and 6 and 61 do. -/
example : Draws { used := ["Icon51", "Icon61"] } "1" 5 3 "Icon71" :=
  .taken (by decide +kernel) (.taken (by decide +kernel) (.free (by decide +kernel)))

end Registry

end IconForge
