import IconForge.Progress.Console
import IconForge.Proofs.Naming

/-!
# Colours are only colours

What a console writes for an event is made up of fragments, some of which stand out in a style. The
fragments do not depend on whether there are colours; with colours, a fragment in a style stands
between the sequence that switches the style on and the one that switches it off. So whoever takes
such sequences out of the text has the text without colours, as long as the texts in the events hold
no escape character of their own.

## Main statements

- `Shows`: what is left of a text in front of any other text.
- `Console.text_eq_write`: the text for an event is made up of its fragments.
- `Console.shows_reportAll`: coloured and uncoloured texts.
-/

namespace IconForge.Progress

open IconForge.Text

/-! ## Taking out colours -/

/-- What follows a colour sequence, if a text begins with one: an escape character, a bracket, digits
and semicolons, and the letter m. -/
def afterColour? : List Char → Option (List Char)
  | '\x1b' :: '[' :: cs =>
    match cs.dropWhile fun c => c.isDigit || c == ';' with
    | 'm' :: rest => some rest
    | _ => none
  | _ => none

theorem length_lt_of_afterColour? {cs rest : List Char} (h : afterColour? cs = some rest) :
    rest.length < cs.length := by
  unfold afterColour? at h
  split at h
  · rename_i cs
    split at h
    · rename_i eq
      obtain rfl := Option.some.inj h
      have shorter := length_lt_of_dropWhile_eq eq
      simp only [List.length_cons]
      omega
    · simp at h
  · simp at h

/-- A text without its colour sequences. -/
def withoutColours : List Char → List Char
  | [] => []
  | c :: cs =>
    match h : afterColour? (c :: cs) with
    | some rest =>
      have : rest.length < cs.length + 1 := length_lt_of_afterColour? h
      withoutColours rest
    | none => c :: withoutColours cs
termination_by cs => cs.length

theorem withoutColours_of_afterColour? {cs rest : List Char} (h : afterColour? cs = some rest) :
    withoutColours cs = withoutColours rest := by
  cases cs with
  | nil => simp [afterColour?] at h
  | cons c cs =>
    rw [withoutColours]
    split <;> simp_all

theorem withoutColours_cons {c : Char} (noEscape : c ≠ '\x1b') (cs : List Char) :
    withoutColours (c :: cs) = c :: withoutColours cs := by
  have noColour : afterColour? (c :: cs) = none := by
    unfold afterColour?
    split <;> simp_all
  rw [withoutColours]
  split <;> simp_all

/-! ## What a text shows -/

/-- A text holds no escape character. -/
def IsPlain (s : String) : Prop := '\x1b' ∉ s.toList

instance (s : String) : Decidable (IsPlain s) := inferInstanceAs (Decidable (¬ _))

/-- In front of any other text, a text shows this without its colour sequences. -/
def Shows (coloured plain : String) : Prop :=
  ∀ rest, withoutColours (coloured.toList ++ rest) = plain.toList ++ withoutColours rest

theorem IsPlain.shows {s : String} (plain : IsPlain s) : Shows s s := by
  intro rest
  unfold IsPlain at plain
  generalize s.toList = cs at plain
  induction cs with
  | nil => rfl
  | cons c cs ih =>
    obtain ⟨here, later⟩ := not_or.mp (mt List.mem_cons.mpr plain)
    rw [List.cons_append, withoutColours_cons (Ne.symm here), ih later, List.cons_append]

theorem Shows.append {s s' t t' : String} (h : Shows s s') (h' : Shows t t') :
    Shows (s ++ t) (s' ++ t') := by
  intro rest
  rw [String.toList_append, String.toList_append, List.append_assoc, h, h', List.append_assoc]

theorem Shows.eq {coloured plain : String} (h : Shows coloured plain) :
    String.ofList (withoutColours coloured.toList) = plain := by
  have all := h []
  rw [List.append_nil, withoutColours, List.append_nil] at all
  rw [all, String.ofList_toList]

theorem isPlain_append_iff {s t : String} : IsPlain (s ++ t) ↔ IsPlain s ∧ IsPlain t := by
  simp [IsPlain]

theorem isPlain_repr (n : Nat) : IsPlain n.repr :=
  fun escape => absurd (isDigit_of_mem_toString escape) (by decide)

theorem isPlain_durationText (ms : Nat) : IsPlain (durationText ms) := by
  unfold durationText
  split_ifs <;> simp +decide [isPlain_append_iff, isPlain_repr]

/-! ## Events in fragments -/

/-- The texts in an event hold no escape character. -/
def Event.IsPlain (e : Event) : Prop :=
  ∀ field ∈ e.fields, ∀ s, field.2 = .text s → Progress.IsPlain s

namespace Console

/-- A text, in a style or in none. -/
abbrev Fragment := Option Style × String

/-- What a console writes fragment by fragment. -/
def write (c : Console) (fragments : List Fragment) : String :=
  String.join (fragments.map fun (style, s) =>
    match style with
    | some style => c.paint style s
    | none => s)

/-- The fragments of the last line about a run, for these counts. -/
def summaryFragments (processed failed skipped : Nat) (duration : String) : List Fragment :=
  if failed = 0 then
    [(some .green, "[done]"), (none, " "), (some .bold, toString processed),
      (none, (if processed = 1 then " icon" else " icons") ++ " generated, " ++ toString skipped ++
        " skipped in " ++ duration)]
  else
    [(some .yellow, "[done]"),
      (none, " " ++ toString processed ++ " generated, " ++ toString skipped ++ " skipped, " ++
        toString failed ++ (if failed = 1 then " failure" else " failures") ++ " in " ++ duration)]

/-- The fragments of the text for an event. -/
def fragments (c : Console) : Event → List Fragment
  | .started total =>
    [(some .cyan, "[generate]"),
      (none, " Generating " ++ toString total ++ " icon" ++ (if total = 1 then "" else "s") ++ "...\n")]
  | .processing file =>
    if c.verbose then [(some .cyan, "[generate]"), (none, " Processing " ++ file ++ "...\n")] else []
  | .succeeded file identifier ms =>
    if c.verbose then
      [(some .cyan, "[generate]"), (none, " " ++ c.step ++ " "), (some .green, "ok"),
        (none, " " ++ file ++ " -> " ++ identifier ++ " (" ++ durationText ms ++ ")\n")]
    else []
  | .failed file error =>
    [(some .cyan, "[generate]"), (none, " " ++ c.step ++ " "), (some .red, "FAILED"),
      (none, " " ++ file ++ "\n        "), (some .red, error), (none, "\n")]
  | .skipped file reason =>
    if c.verbose then
      [(some .cyan, "[generate]"), (none, " "), (some .yellow, "skipped"),
        (none, " " ++ file ++ " (" ++ reason ++ ")\n")]
    else []
  | .aborted message => [(some .red, "[error]"), (none, " " ++ message ++ "\n")]
  | .finished processed failed skipped output ms =>
    (none, "\n") :: summaryFragments processed failed skipped (durationText ms) ++
      [(none, (match output with
        | some path => " -> " ++ path
        | none => "") ++ "\n")]

theorem text_eq_write (c : Console) (e : Event) : c.text e = c.write (c.fragments e) := by
  cases e with
  | finished processed failed skipped output ms =>
    by_cases none : failed = 0 <;> cases output <;>
      simp [text, fragments, write, summary, summaryFragments, none, String.append_assoc]
  | processing | succeeded | skipped =>
    cases verbose : c.verbose <;>
      simp [text, fragments, write, tag, verbose, String.append_assoc]
  | _ => simp [text, fragments, write, tag, String.append_assoc]

/-- A fragment shows its text, whether there are colours or not. -/
theorem shows_paint {s : String} (plain : IsPlain s) (c : Console) (style : Style) :
    Shows (c.paint style s) s := by
  have on : Shows style.code "" := by
    intro rest
    cases style <;> exact withoutColours_of_afterColour? rfl
  have off : Shows "\x1b[0m" "" := fun rest => withoutColours_of_afterColour? rfl
  unfold paint
  split
  · simpa using (on.append plain.shows).append off
  · exact plain.shows

/-- What is written with colours shows what is written without. -/
theorem shows_write {fragments : List Fragment} (plain : ∀ f ∈ fragments, IsPlain f.2)
    (c : Console) : Shows (c.write fragments) (write { c with colors := false } fragments) := by
  unfold write
  induction fragments with
  | nil => exact fun rest => rfl
  | cons f fragments ih =>
    obtain ⟨here, later⟩ := List.forall_mem_cons.mp plain
    simp only [List.map_cons, String.join_cons]
    refine Shows.append ?_ (ih later)
    obtain ⟨style | style, s⟩ := f
    · exact here.shows
    · exact shows_paint here c style

theorem isPlain_of_mem_summaryFragments (processed failed skipped : Nat) {duration : String}
    (plain : IsPlain duration) :
    ∀ f ∈ summaryFragments processed failed skipped duration, IsPlain f.2 := by
  unfold summaryFragments
  split
  · split_ifs <;> simp +decide [isPlain_append_iff, isPlain_repr, plain]
  · split_ifs <;> simp +decide [isPlain_append_iff, isPlain_repr, plain]

/-- The fragments of an event are as plain as its texts. -/
theorem isPlain_of_mem_fragments {c : Console} {e : Event} (plain : e.IsPlain) :
    ∀ f ∈ c.fragments e, IsPlain f.2 := by
  have step : IsPlain c.step := by simp +decide [step, isPlain_append_iff, isPlain_repr]
  cases e with
  | started total =>
    by_cases one : total = 1 <;> simp +decide [fragments, one, isPlain_append_iff, isPlain_repr]
  | finished processed failed skipped output ms =>
    simp only [fragments, List.cons_append, List.forall_mem_cons, List.forall_mem_append]
    refine ⟨by decide, isPlain_of_mem_summaryFragments _ _ _ (isPlain_durationText ms), ?_⟩
    cases output with
    | none => decide
    | some path =>
      have path : IsPlain path := by simpa [Event.IsPlain, Event.fields] using plain
      simp +decide [isPlain_append_iff, path]
  | failed file error =>
    obtain ⟨file, error⟩ : IsPlain file ∧ IsPlain error := by
      simpa [Event.IsPlain, Event.fields] using plain
    simp +decide [fragments, isPlain_append_iff, step, file, error]
  | aborted message =>
    have message : IsPlain message := by simpa [Event.IsPlain, Event.fields] using plain
    simp +decide [fragments, isPlain_append_iff, message]
  | processing file =>
    have file : IsPlain file := by simpa [Event.IsPlain, Event.fields] using plain
    cases verbose : c.verbose <;> simp +decide [fragments, verbose, isPlain_append_iff, file]
  | succeeded file identifier ms =>
    obtain ⟨file, identifier⟩ : IsPlain file ∧ IsPlain identifier := by
      simpa [Event.IsPlain, Event.fields] using plain
    cases verbose : c.verbose <;>
      simp +decide [fragments, verbose, isPlain_append_iff, step, file, identifier,
        isPlain_durationText]
  | skipped file reason =>
    obtain ⟨file, reason⟩ : IsPlain file ∧ IsPlain reason := by
      simpa [Event.IsPlain, Event.fields] using plain
    cases verbose : c.verbose <;>
      simp +decide [fragments, verbose, isPlain_append_iff, file, reason]

/-- The fragments of an event do not depend on colours. -/
theorem fragments_of_colours (c : Console) (colours : Bool) (e : Event) :
    fragments { c with colors := colours } e = c.fragments e := by
  cases e <;> rfl

theorem shows_text {e : Event} (plain : e.IsPlain) (c : Console) :
    Shows (text { c with colors := true } e) (text { c with colors := false } e) := by
  rw [text_eq_write, text_eq_write, fragments_of_colours, fragments_of_colours]
  exact shows_write (isPlain_of_mem_fragments plain) { c with colors := true }

/-- What is counted does not depend on colours. -/
theorem next_of_colours (c : Console) (colours : Bool) (e : Event) :
    next { c with colors := colours } e = { c.next e with colors := colours } := by
  cases e <;> rfl

/-- What a console writes in colours for some events shows what it writes without. -/
theorem shows_reportAll {events : List Event} (plain : ∀ e ∈ events, e.IsPlain) (c : Console) :
    Shows (reportAll { c with colors := true } events)
      (reportAll { c with colors := false } events) := by
  induction events generalizing c with
  | nil => exact fun rest => rfl
  | cons e events ih =>
    obtain ⟨here, later⟩ := List.forall_mem_cons.mp plain
    rw [reportAll, reportAll]
    simp only [report, next_of_colours]
    exact (shows_text here (c.next e)).append (ih later (c.next e))

end Console

end IconForge.Progress
