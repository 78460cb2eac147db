import IconForge.Progress.Event
import IconForge.Proofs.Text.Pieces

/-!
# Events line by line

An event in its form for programs is an object on one line: whatever texts it holds, they are
written without a line feed. So the stream of some events, cut at its line feeds, gives back the
forms of the events in order, and each of them begins as an object does.

## Main statements

- `Event.newline_not_mem_json`, `Event.head?_json`: the form of an event.
- `isLines_jsonLines`, `not_isLines_json`: what is a stream of events in lines, and what is not.
-/

namespace IconForge

open IconForge.Text

/-! ## JSON without line feeds -/

namespace Text

/-- The digits of a number are no line feeds. -/
theorem newline_not_mem_hexPadded (width n : Nat) : '\n' ∉ hexPadded width n := by
  have digits : ∀ k < 16, hexDigit k ≠ '\n' := by decide
  exact fun mem => forall_mem_hexPadded (p := fun c => c ≠ '\n') digits width n _ mem rfl

theorem newline_not_mem_jsonChar (c : Char) : '\n' ∉ jsonChar c := by
  by_cases isNewline : c = '\n'
  · subst isNewline
    decide
  · unfold jsonChar
    split
    -- what is escaped by a letter is not written with a line feed, and all else is not one
    all_goals try decide
    split
    · simpa using newline_not_mem_hexPadded 4 c.toNat
    · simpa using fun eq : '\n' = c => isNewline eq.symm

theorem newline_not_mem_jsonString (s : String) : '\n' ∉ (jsonString s).toList := by
  simpa [jsonString] using fun c _ => newline_not_mem_jsonChar c

theorem newline_not_mem_render (value : JsonScalar) : '\n' ∉ value.render.toList := by
  cases value with
  | text s => exact newline_not_mem_jsonString s
  | number n =>
    intro newline
    have isDigit : '\n'.isDigit = true := Nat.isDigit_of_mem_toDigits (by decide) le_rfl
      (show '\n' ∈ Nat.toDigits 10 n by simpa [JsonScalar.render] using newline)
    exact absurd isDigit (by decide)

/-- A text between texts and in them is all there is when they are strung together. -/
theorem newline_not_mem_intercalate {rows : List (List Char)} {between : List Char}
    (noneBetween : '\n' ∉ between) (none : ∀ row ∈ rows, '\n' ∉ row) :
    '\n' ∉ between.intercalate rows := by
  induction rows with
  | nil => simp
  | cons row rows ih =>
    obtain ⟨noneFirst, noneLater⟩ := List.forall_mem_cons.mp none
    cases rows with
    | nil => simpa using noneFirst
    | cons next rows =>
      rw [List.intercalate_cons_cons, List.mem_append, List.mem_append]
      rintro ((here | here) | here)
      · exact noneFirst here
      · exact noneBetween here
      · exact ih noneLater here

/-- An object stands on one line. -/
theorem newline_not_mem_jsonObject (fields : List (String × JsonScalar)) :
    '\n' ∉ (jsonObject fields).toList := by
  have inside : '\n' ∉ ",".toList.intercalate ((fields.map fun field =>
      jsonString field.1 ++ ":" ++ field.2.render).map String.toList) := by
    apply newline_not_mem_intercalate (by decide)
    intro row isField
    obtain ⟨text, isText, rfl⟩ := List.mem_map.mp isField
    obtain ⟨⟨key, value⟩, -, rfl⟩ := List.mem_map.mp isText
    simp only [String.toList_append, List.mem_append, not_or]
    exact ⟨⟨newline_not_mem_jsonString key, by decide⟩, newline_not_mem_render value⟩
  simp only [jsonObject, String.toList_append, String.toList_intercalate, List.mem_append, not_or]
  exact ⟨⟨by decide, inside⟩, by decide⟩

/-! ## Lines -/

/-- These are the lines of a text: each is ended by a line feed, and nothing follows the last. -/
def IsLines (text : String) (lines : List String) : Prop :=
  splitWhere (fun c => c == '\n') text.toList = lines.map String.toList ++ [[]]

/-- Texts on one line, each ended by a line feed, are the lines of what they make up. -/
theorem isLines_join {lines : List String} (single : ∀ line ∈ lines, '\n' ∉ line.toList) :
    IsLines (String.join (lines.map fun line => line ++ "\n")) lines := by
  unfold IsLines
  induction lines with
  | nil => rfl
  | cons line lines ih =>
    obtain ⟨here, later⟩ := List.forall_mem_cons.mp single
    have whole : splitWhere (fun c => c == '\n') line.toList = [line.toList] := by
      apply splitWhere_of_forall
      intro c isIn
      simpa using fun newline : c = '\n' => here (newline ▸ isIn)
    have cut : (String.join ((line :: lines).map fun line => line ++ "\n")).toList =
        line.toList ++ '\n' ::
          (String.join (lines.map fun line => line ++ "\n")).toList := by
      simp [String.toList_join]
    rw [cut, splitWhere_append_cons (by decide), whole, ih later]
    rfl

/-- The first line begins as the text does. -/
theorem IsLines.head? {text : String} {lines : List String} (isLines : IsLines text lines) {c : Char}
    (first : text.toList.head? = some c) (noNewline : c ≠ '\n') :
    ∃ line rest, lines = line :: rest ∧ line.toList.head? = some c := by
  unfold IsLines at isLines
  cases chars : text.toList with
  | nil => simp [chars] at first
  | cons c' cs =>
    obtain rfl : c' = c := by simpa [chars] using first
    obtain ⟨piece, pieces, eq⟩ := List.exists_cons_of_ne_nil
      (splitWhere_ne_nil (fun c => c == '\n') cs)
    have cut : splitWhere (fun c => c == '\n') text.toList = (c' :: piece) :: pieces := by
      simp [chars, splitWhere, noNewline, eq]
    rw [cut] at isLines
    cases lines with
    | nil => simp at isLines
    | cons line rest =>
      obtain ⟨isFirst, -⟩ := List.cons.inj isLines
      exact ⟨line, rest, rfl, by rw [← isFirst]; rfl⟩

end Text

/-! ## Events -/

namespace Progress

theorem Event.newline_not_mem_json (e : Event) : '\n' ∉ e.json.toList :=
  newline_not_mem_jsonObject _

theorem Event.head?_json (e : Event) : e.json.toList.head? = some '\x7b' := by
  unfold Event.json jsonObject
  rw [String.append_assoc, String.toList_append]
  rfl

/-- The lines of the stream of some events are the events, in order. -/
theorem isLines_jsonLines (events : List Event) :
    IsLines (jsonLines events) (events.map Event.json) := by
  have single : ∀ line ∈ events.map Event.json, '\n' ∉ line.toList := by
    intro line isLine
    obtain ⟨e, -, rfl⟩ := List.mem_map.mp isLine
    exact e.newline_not_mem_json
  have lines := isLines_join single
  rwa [List.map_map] at lines

/-- A text that does not begin as an object does is no stream of events, unless it is empty. -/
theorem not_isLines_json {text : String} {c : Char} (first : text.toList.head? = some c)
    (noObject : c ≠ '\x7b') (noNewline : c ≠ '\n') (events : List Event) :
    ¬ IsLines text (events.map Event.json) := by
  intro isLines
  obtain ⟨line, rest, eq, begins⟩ := isLines.head? first noNewline
  have isEvent : line ∈ events.map Event.json := by simp [eq]
  obtain ⟨e, -, rfl⟩ := List.mem_map.mp isEvent
  exact noObject (Option.some.inj (begins.symm.trans e.head?_json))

end Progress

end IconForge
