/-!
# Searching and splitting text

`splitAtFirst?` finds the first place where a marker stands and gives what is before it and what
is after it; nothing is lost, by `eq_of_splitAtFirst?`. `splitWhere` cuts a text at every character
of a class, and `splitWhere_ne_nil` says that it leaves at least one piece.
-/

namespace IconForge.Text

/-- The text before and the text after the first occurrence of `marker`, if there is one. -/
def splitAtFirst? (marker : List Char) : List Char → Option (List Char × List Char)
  | [] => if marker.isEmpty then some ([], []) else none
  | c :: cs =>
    if marker.isPrefixOf (c :: cs) then some ([], (c :: cs).drop marker.length)
    else (splitAtFirst? marker cs).map fun (before, after) => (c :: before, after)

/-- The two parts and the marker between them make up the text. -/
theorem eq_of_splitAtFirst? {marker cs before after : List Char}
    (h : splitAtFirst? marker cs = some (before, after)) : cs = before ++ marker ++ after := by
  induction cs generalizing before with
  | nil =>
    rw [splitAtFirst?] at h
    split at h <;> simp_all
  | cons c cs ih =>
    rw [splitAtFirst?] at h
    split at h
    · rename_i hp
      obtain ⟨t, ht⟩ := List.isPrefixOf_iff_prefix.mp hp
      simp only [Option.some.injEq, Prod.mk.injEq] at h
      obtain ⟨rfl, rfl⟩ := h
      rw [← ht]
      simp
    · simp only [Option.map_eq_some_iff, Prod.exists, Prod.mk.injEq] at h
      obtain ⟨a, b, hab, rfl, rfl⟩ := h
      simp [ih hab]

/-- What follows the first character outside a class is shorter than the text. -/
theorem length_lt_of_dropWhile_eq {p : Char → Bool} {c : Char} {cs rest : List Char}
    (h : cs.dropWhile p = c :: rest) : rest.length < cs.length := by
  have := (List.dropWhile_sublist p (l := cs)).length_le
  rw [h, List.length_cons] at this
  exact this

/-- The pieces between the characters of a class, in order; pieces may be empty. -/
def splitWhere (p : Char → Bool) : List Char → List (List Char)
  | [] => [[]]
  | c :: cs =>
    if p c then [] :: splitWhere p cs
    else
      match splitWhere p cs with
      | [] => [[c]]
      | piece :: pieces => (c :: piece) :: pieces

theorem splitWhere_ne_nil (p : Char → Bool) (cs : List Char) : splitWhere p cs ≠ [] := by
  cases cs with
  | nil => simp [splitWhere]
  | cons c cs =>
    unfold splitWhere
    split
    · simp
    · split <;> simp

end IconForge.Text
