import IconForge.Text.Search
import Mathlib

/-!
# Pieces of a text

A text that is cut at every character of a class falls into pieces that hold none of them. Such a
character is a place where two texts can be put together, piece by piece; and where several of them
stand in a row, there are empty pieces between them. So cutting at longest runs of such characters
gives the same pieces, but for empty ones.

## Main statements

- `splitWhere_append_cons`: a character of the class cuts a text in two.
- `filter_splitWhere_append`: characters of the class at the beginning make empty pieces only.
- `filter_splitAtRuns`: cutting at longest runs.
-/

namespace IconForge

open IconForge.Text

variable {p : Char → Bool} {cs : List Char}

theorem splitWhere_eq_splitOnP (p : Char → Bool) (cs : List Char) :
    splitWhere p cs = cs.splitOnP p := by
  induction cs with
  | nil => rfl
  | cons c cs ih =>
    rw [splitWhere, List.splitOnP_cons_eq_if_modifyHead, ← ih]
    obtain ⟨piece, pieces, eq⟩ := List.exists_cons_of_ne_nil (splitWhere_ne_nil p cs)
    rw [eq]
    rfl

/-- A character of the class cuts a text into the pieces before and the pieces after it. -/
theorem splitWhere_append_cons {c : Char} (cut : p c = true) (before after : List Char) :
    splitWhere p (before ++ c :: after) = splitWhere p before ++ splitWhere p after := by
  simp only [splitWhere_eq_splitOnP]
  exact List.splitOnP_append_cons before after cut

/-- A text without characters of the class is one piece. -/
theorem splitWhere_of_forall (none : ∀ c ∈ cs, p c = false) : splitWhere p cs = [cs] := by
  rw [splitWhere_eq_splitOnP]
  exact List.splitOnP_eq_singleton none

/-- The pieces between the characters of a class hold none of them. -/
theorem not_of_mem_splitWhere {piece : List Char} (mem : piece ∈ splitWhere p cs) :
    ∀ c ∈ piece, p c = false := by
  induction cs generalizing piece with
  | nil => simp_all [splitWhere]
  | cons c cs ih =>
    rw [splitWhere] at mem
    split at mem
    · -- a character of the class ends a piece and belongs to none
      rcases List.mem_cons.mp mem with rfl | mem
      · simp
      · exact ih mem
    · -- any other one goes on with the first piece of the rest
      rename_i outside
      split at mem
      · exact absurd ‹_› (splitWhere_ne_nil p cs)
      · rename_i first pieces eq
        rcases List.mem_cons.mp mem with rfl | mem
        · intro d hd
          rcases List.mem_cons.mp hd with rfl | hd
          · simpa using outside
          · exact ih (eq ▸ List.mem_cons_self) d hd
        · exact ih (eq ▸ List.mem_cons_of_mem first mem)

/-- The pieces of a text in a row are the text without the characters that cut it. -/
theorem flatten_splitWhere (p : Char → Bool) (cs : List Char) :
    (splitWhere p cs).flatten = cs.filter fun c => !p c := by
  induction cs with
  | nil => simp [splitWhere]
  | cons c cs ih =>
    rw [splitWhere]
    split
    · rename_i cuts
      simp [ih, cuts]
    · rename_i kept
      rw [List.filter_cons_of_pos (by simpa using kept), ← ih]
      cases splitWhere p cs <;> simp

/-! ## Runs of cuts -/

/-- Characters of the class at the beginning of a text make empty pieces only. -/
theorem filter_splitWhere_append {run : List Char} (cuts : ∀ c ∈ run, p c = true)
    (rest : List Char) :
    (splitWhere p (run ++ rest)).filter (fun piece => !piece.isEmpty) =
      (splitWhere p rest).filter fun piece => !piece.isEmpty := by
  induction run with
  | nil => rfl
  | cons c run ih =>
    obtain ⟨here, later⟩ := List.forall_mem_cons.mp cuts
    rw [List.cons_append, splitWhere, if_pos here, List.filter_cons_of_neg (by simp), ih later]

/-- The pieces of a text between its longest runs of characters of a class. The first piece is empty
if the text begins with such a run, and the last one if it ends with one. -/
def splitAtRuns (p : Char → Bool) (cs : List Char) : List (List Char) :=
  match h : cs.dropWhile fun c => !p c with
  | [] => [cs]
  | _ :: rest =>
    have : (rest.dropWhile p).length < cs.length :=
      (List.dropWhile_sublist p).length_le.trans_lt (length_lt_of_dropWhile_eq h)
    cs.takeWhile (fun c => !p c) :: splitAtRuns p (rest.dropWhile p)
termination_by cs.length

/-- Cut at longest runs or at every character, a text has the same pieces, but for empty ones. -/
theorem filter_splitAtRuns (p : Char → Bool) (cs : List Char) :
    (splitAtRuns p cs).filter (fun piece => !piece.isEmpty) =
      (splitWhere p cs).filter fun piece => !piece.isEmpty := by
  fun_induction splitAtRuns p cs with
  | case1 cs none =>
    have noCut : ∀ c ∈ cs, p c = false := by simpa using List.dropWhile_eq_nil_iff.mp none
    rw [splitWhere_of_forall noCut]
  | case2 cs c rest eq shorter ih =>
    let piece := cs.takeWhile fun c => !p c
    have whole : cs = piece ++ c :: rest := by rw [← eq, List.takeWhile_append_dropWhile]
    have noCut : ∀ c ∈ piece, p c = false := fun c isIn => by
      simpa using List.mem_takeWhile_imp isIn
    have cut : p c = true := by
      simpa [eq] using List.head?_dropWhile_not (fun c => !p c) cs
    have later : (splitWhere p rest).filter (fun piece => !piece.isEmpty) =
        (splitWhere p (rest.dropWhile p)).filter fun piece => !piece.isEmpty := by
      conv_lhs => rw [← List.takeWhile_append_dropWhile (p := p) (l := rest)]
      exact filter_splitWhere_append (fun c isIn => List.mem_takeWhile_imp isIn) _
    have cutHere : splitWhere p cs = piece :: splitWhere p rest := by
      rw [whole, splitWhere_append_cons cut, splitWhere_of_forall noCut, List.singleton_append]
    rw [cutHere, List.filter_cons, List.filter_cons, ih, later]

end IconForge
