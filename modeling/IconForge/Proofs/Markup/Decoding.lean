import IconForge.Markup.Document
import Mathlib

/-!
# Decoding from the front

What a text says is what its front says and then what the rest says, if its front is plain
characters, a reference or a construct in brackets. References are replaced as long as all of them
are understood, so with `unescape?` the rest has its part in whether anything is replaced.

## Main statements

- `unescape?_named`, `unescape?_append_of_isPlain`: a reference, and plain characters.
- `decodeText_append_of_isPlain`, `decodeText_bracket`: plain characters, and what begins at a
  bracket.
- `decodeText_of_not_mem`: a text without brackets is one run.
-/

namespace IconForge.Markup

open IconForge.Text

/-! ## References -/

theorem ne_of_isPlain {c : Char} (plain : isPlain c = true) : c ≠ '<' ∧ c ≠ '&' := by
  simpa [isPlain] using plain

/-- A reference is replaced by the character that its name stands for, if it stands for one. -/
theorem unescape?_named (name : List Char) (inside : ∀ d ∈ name, d ≠ ';' ∧ d ≠ '&')
    (rest : List Char) :
    unescape? ('&' :: (name ++ ';' :: rest)) =
      (referenced? name).bind fun c => (unescape? rest).map (c :: ·) := by
  have passed : ∀ d ∈ name, (d != ';' && d != '&') = true := by simpa using inside
  have before : (name ++ ';' :: rest).takeWhile (fun c => c != ';' && c != '&') = name := by
    simp [List.takeWhile_append_of_pos passed]
  have ends : (name ++ ';' :: rest).dropWhile (fun c => c != ';' && c != '&') = ';' :: rest := by
    simp [List.dropWhile_append_of_pos passed]
  rw [unescape?]
  simp only [beq_self_eq_true, if_true]
  -- the name ends at its semicolon, so that the first case is the one that is taken
  split
  · rename_i rest' eq
    obtain rfl : rest' = rest := by
      rw [ends] at eq
      exact (List.cons.inj eq).2.symm
    rw [before]
  · rename_i other
    exact absurd ends (other rest)

theorem unescape?_cons {c : Char} (plain : c ≠ '&') (rest : List Char) :
    unescape? (c :: rest) = (unescape? rest).map (c :: ·) := by
  rw [unescape?]
  simp [plain]

theorem unescape?_append_of_isPlain {chars : List Char} (plain : ∀ c ∈ chars, isPlain c = true)
    (rest : List Char) : unescape? (chars ++ rest) = (unescape? rest).map (chars ++ ·) := by
  induction chars with
  | nil => simp
  | cons c chars ih =>
    obtain ⟨here, plain⟩ := List.forall_mem_cons.mp plain
    rw [List.cons_append, unescape?_cons (ne_of_isPlain here).2, ih plain, Option.map_map]
    rfl

theorem unescape_append_of_isPlain {chars : List Char} (plain : ∀ c ∈ chars, isPlain c = true)
    (rest : List Char) : unescape (chars ++ rest) = chars ++ unescape rest := by
  rw [unescape, unescape, unescape?_append_of_isPlain plain]
  cases unescape? rest <;> rfl

/-! ## Stretches -/

theorem decodeText_of_nil {cs : List Char} (ends : cs.dropWhile (fun c => c != '<') = []) :
    decodeText cs = unescape (cs.takeWhile fun c => c != '<') := by
  rw [decodeText]
  split
  · rfl
  · simp_all

theorem decodeText_of_cons {cs rest : List Char} {c : Char}
    (starts : cs.dropWhile (fun c => c != '<') = c :: rest) :
    decodeText cs = unescape (cs.takeWhile fun c => c != '<') ++ (skipMarkup (c :: rest)).1 ++
      decodeText (skipMarkup (c :: rest)).2 := by
  rw [decodeText]
  split <;> simp_all

/-- A text without brackets is one run. -/
theorem decodeText_of_not_mem {cs : List Char} (noTag : '<' ∉ cs) :
    decodeText cs = unescape cs := by
  have outside : ∀ c ∈ cs, (c != '<') = true := by
    intro c mem
    rw [bne_iff_ne]
    rintro rfl
    exact noTag mem
  rw [decodeText_of_nil (List.dropWhile_eq_nil_iff.mpr outside),
    List.takeWhile_eq_self_iff.mpr outside]

theorem decodeText_nil : decodeText [] = [] := by
  rw [decodeText_of_not_mem (List.not_mem_nil), unescape, unescape?]
  rfl

/-- Plain characters say what they are. -/
theorem decodeText_append_of_isPlain {chars : List Char} (plain : ∀ c ∈ chars, isPlain c = true)
    (rest : List Char) : decodeText (chars ++ rest) = chars ++ decodeText rest := by
  have outside : ∀ c ∈ chars, (c != '<') = true := fun c mem =>
    bne_iff_ne.mpr (ne_of_isPlain (plain c mem)).1
  have front : (chars ++ rest).takeWhile (fun c => c != '<') =
      chars ++ rest.takeWhile fun c => c != '<' := List.takeWhile_append_of_pos outside
  have back : (chars ++ rest).dropWhile (fun c => c != '<') =
      rest.dropWhile fun c => c != '<' := List.dropWhile_append_of_pos outside
  cases later : rest.dropWhile fun c => c != '<' with
  | nil =>
    rw [decodeText_of_nil later, decodeText_of_nil (back.trans later), front,
      unescape_append_of_isPlain plain]
  | cons c more =>
    rw [decodeText_of_cons later, decodeText_of_cons (back.trans later), front,
      unescape_append_of_isPlain plain]
    simp only [List.append_assoc]

/-- What begins at a bracket says what it says, before what follows it. -/
theorem decodeText_bracket (cs : List Char) :
    decodeText ('<' :: cs) =
      (skipMarkup ('<' :: cs)).1 ++ decodeText (skipMarkup ('<' :: cs)).2 := by
  have starts : ('<' :: cs).dropWhile (fun c => c != '<') = '<' :: cs := rfl
  have nothing : ('<' :: cs).takeWhile (fun c => c != '<') = [] := rfl
  rw [decodeText_of_cons starts, nothing, unescape, unescape?]
  rfl

theorem skipMarkup_cdataOpening (cs : List Char) :
    skipMarkup (cdataOpening ++ cs) = (splitAtFirst? "]]>".toList cs).getD (cs, []) := by
  have opens : cdataOpening.isPrefixOf (cdataOpening ++ cs) = true := by simp
  rw [skipMarkup, if_pos opens, List.drop_left]

/-- A CDATA section says what it holds, before what follows it. -/
theorem decodeText_cdataOpening (cs : List Char) :
    decodeText (cdataOpening ++ cs) =
      (skipMarkup (cdataOpening ++ cs)).1 ++ decodeText (skipMarkup (cdataOpening ++ cs)).2 :=
  decodeText_bracket ("![CDATA[".toList ++ cs)

/-! ## Rows of parts -/

/-- Rows of parts of which none is longer in the first are the same only if all parts are. -/
theorem flatMap_eq_flatMap_iff {α β : Type} {f g : α → List β} {row : List α}
    (le : ∀ a ∈ row, (f a).length ≤ (g a).length) :
    row.flatMap f = row.flatMap g ↔ ∀ a ∈ row, f a = g a := by
  induction row with
  | nil => simp
  | cons a row ih =>
    obtain ⟨here, le⟩ := List.forall_mem_cons.mp le
    have later : (row.flatMap f).length ≤ (row.flatMap g).length := by
      rw [List.length_flatMap, List.length_flatMap]
      exact List.sum_le_sum le
    rw [List.flatMap_cons, List.flatMap_cons, List.forall_mem_cons, ← ih le]
    constructor
    · intro same
      have lengths := congrArg List.length same
      rw [List.length_append, List.length_append] at lengths
      exact List.append_inj same (by omega)
    · rintro ⟨first, rest⟩
      rw [first, rest]

end IconForge.Markup
