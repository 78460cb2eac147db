import Mathlib

/-!
# First occurrences

What is left of a row in which some members come again: the first occurrence of each, in order.

## Main statements

- `eraseDups_concat`: a further member is left out if it has been there before.
- `nodup_eraseDups`: what is left has no repetitions.
- `filterMap_eraseDups`: what is read off members that it tells apart comes again where they do.
-/

namespace IconForge

variable {α β : Type} [BEq α] [LawfulBEq α] [BEq β] [LawfulBEq β]

/-- A further member is left out if it has been there before. -/
theorem eraseDups_concat (row : List α) (a : α) :
    (row ++ [a]).eraseDups = row.eraseDups ++ if a ∈ row then [] else [a] := by
  rw [List.eraseDups_append]
  by_cases known : a ∈ row
  · simp [List.removeAll, known]
  · simp [List.removeAll, known, List.eraseDups_cons]

theorem nodup_eraseDups (row : List α) : row.eraseDups.Nodup := by
  induction row using List.reverseRecOn with
  | nil => exact List.nodup_nil
  | append_singleton row a ih =>
    rw [eraseDups_concat]
    split
    · rwa [List.append_nil]
    · rename_i new
      have new : a ∉ row.eraseDups := mt List.mem_eraseDups.mp new
      simpa using List.Nodup.append ih (List.nodup_singleton a) (by simpa using new)

/-- A row without repetitions is left as it is. -/
theorem eraseDups_of_nodup {l : List α} (h : l.Nodup) : l.eraseDups = l := by
  induction l with
  | nil => rfl
  | cons a l ih =>
    obtain ⟨fresh, h⟩ := List.nodup_cons.mp h
    have others : l.filter (fun b => !b == a) = l := by
      rw [List.filter_eq_self]
      intro b mem
      have : b ≠ a := by
        rintro rfl
        exact fresh mem
      simp [this]
    rw [List.eraseDups_cons, others, ih h]

/-- What is read off the members of a row comes again just where they do, if it tells them apart. -/
theorem filterMap_eraseDups {f : α → Option β}
    (apart : ∀ a a' b, f a = some b → f a' = some b → a = a') (row : List α) :
    row.eraseDups.filterMap f = (row.filterMap f).eraseDups := by
  induction row using List.reverseRecOn with
  | nil => rfl
  | append_singleton row a ih =>
    rw [eraseDups_concat, List.filterMap_append, List.filterMap_append, ih]
    cases read : f a with
    | none =>
      -- nothing is read off the new member, whether it is one that comes again or not
      split <;> simp [read]
    | some b =>
      have again : b ∈ row.filterMap f ↔ a ∈ row := by
        rw [List.mem_filterMap]
        constructor
        · rintro ⟨a', mem, same⟩
          rwa [apart a a' b read same]
        · intro mem
          exact ⟨a, mem, read⟩
      rw [show [a].filterMap f = [b] by simp [read], eraseDups_concat, if_congr again rfl rfl]
      split <;> simp [read]

end IconForge
