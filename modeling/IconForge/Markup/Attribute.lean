import IconForge.Text.Classes
import IconForge.Text.Search

/-!
# Attributes of a tag

Attributes are read leniently: a value may stand in either kind of quotes, without quotes, or be
missing, and a name may occur twice. Nothing is said about what a name or a value may hold. Reading
ends without a further attribute where a value is announced but none follows, or where its closing
quote is missing.
-/

namespace IconForge.Markup

open IconForge.Text

/-- A character that goes on with the name of an attribute. The first character of a name is taken
as it comes, even if it is an equals sign. -/
def isNameRest (c : Char) : Bool := c != '=' && !isMarkupSpace c

/-- The value after an equals sign, and what follows it. -/
def attributeValue? (cs : List Char) : Option (List Char × List Char) :=
  match cs.dropWhile isMarkupSpace with
  | [] => none
  | c :: cs =>
    if c == '"' || c == '\x27' then splitAtFirst? [c] cs
    else
      some (c :: cs.takeWhile (fun c => !isMarkupSpace c), cs.dropWhile fun c => !isMarkupSpace c)

/-- The next attribute, name and value as written, and what follows it. -/
def nextAttribute? (cs : List Char) : Option ((List Char × List Char) × List Char) :=
  match cs.dropWhile isMarkupSpace with
  | [] => none
  | c :: cs =>
    let name := c :: cs.takeWhile isNameRest
    match (cs.dropWhile isNameRest).dropWhile isMarkupSpace with
    | '=' :: after => (attributeValue? after).map fun (value, rest) => ((name, value), rest)
    | rest => some ((name, []), rest)

private theorem length_dropWhile_le' {p : Char → Bool} (cs : List Char) :
    (cs.dropWhile p).length ≤ cs.length :=
  (List.dropWhile_sublist p (l := cs)).length_le

theorem length_attributeValue?_le {cs value rest : List Char}
    (h : attributeValue? cs = some (value, rest)) : rest.length ≤ cs.length := by
  unfold attributeValue? at h
  have bound := length_dropWhile_le' (p := isMarkupSpace) cs
  split at h
  · simp at h
  · rename_i c cs' hc
    rw [hc, List.length_cons] at bound
    split at h
    · have := congrArg List.length (eq_of_splitAtFirst? h)
      simp only [List.length_append, List.length_cons, List.length_nil] at this
      omega
    · simp only [Option.some.injEq, Prod.mk.injEq] at h
      obtain ⟨-, rfl⟩ := h
      have := length_dropWhile_le' (p := fun c => !isMarkupSpace c) cs'
      omega

theorem length_nextAttribute?_lt {cs rest : List Char} {a : List Char × List Char}
    (h : nextAttribute? cs = some (a, rest)) : rest.length < cs.length := by
  unfold nextAttribute? at h
  have bound := length_dropWhile_le' (p := isMarkupSpace) cs
  split at h
  · simp at h
  · rename_i c cs' hc
    rw [hc, List.length_cons] at bound
    have inner := length_dropWhile_le' (p := isNameRest) cs'
    have outer := length_dropWhile_le' (p := isMarkupSpace) (cs'.dropWhile isNameRest)
    split at h
    · rename_i after hafter
      rw [hafter, List.length_cons] at outer
      simp only [Option.map_eq_some_iff, Prod.exists, Prod.mk.injEq] at h
      obtain ⟨value, r, hr, -, rfl⟩ := h
      have := length_attributeValue?_le hr
      omega
    · simp only [Option.some.injEq, Prod.mk.injEq] at h
      obtain ⟨-, rfl⟩ := h
      omega

/-- The attributes written in a text, in order. -/
def attributes (cs : List Char) : List (List Char × List Char) :=
  match h : nextAttribute? cs with
  | none => []
  | some (a, rest) =>
    have := length_nextAttribute?_lt h
    a :: attributes rest
termination_by cs.length

end IconForge.Markup
