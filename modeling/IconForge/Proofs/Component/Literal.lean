import IconForge.Component.Literal
import Mathlib

/-!
# Values are told from what follows them

A value that is written into source ends where its quotes end, whatever it holds and whatever comes
after it. Each character of it is read back before the next one is looked at, and no character is
written in a way that begins like the closing quote.

## Main statements

- `readLiteral?_literalChar`, `readAttribute?_attributeChar`: single characters are read back.
- `selfDelimiting_of_reads`: so are texts, up to the character that ends them.
- `selfDelimiting_stringLiteral`, `selfDelimiting_attributeText`: the two ways to write a value.
-/

namespace IconForge.Component

open IconForge.Text

/-! ## Texts that end by themselves -/

/-- What is written this way is told from whatever follows it. -/
def SelfDelimiting {α : Type} (written : α → String) : Prop :=
  ∀ a b s t, written a ++ s = written b ++ t → a = b ∧ s = t

theorem SelfDelimiting.after {α : Type} {written : α → String} (ends : SelfDelimiting written)
    (before : String) : SelfDelimiting fun a => before ++ written a := by
  intro a b s t h
  rw [String.append_assoc, String.append_assoc, String.append_right_inj] at h
  exact ends a b s t h

/-- Characters that are read back one by one, up to a character that is read as none of them, are
told from what follows that character. -/
theorem eq_of_reads {code : Char → List Char} {read : List Char → Option (Char × List Char)}
    {stop : Char} (reads : ∀ c rest, read (code c ++ rest) = some (c, rest))
    (stops : ∀ rest, read (stop :: rest) = none) {cs ds after after' : List Char}
    (h : cs.flatMap code ++ stop :: after = ds.flatMap code ++ stop :: after') :
    cs = ds ∧ after = after' := by
  induction cs generalizing ds with
  | nil =>
    cases ds with
    | nil => simpa using h
    | cons d ds =>
      -- a text that ends at once does not go on with a character
      have first := reads d (ds.flatMap code ++ stop :: after')
      rw [← List.append_assoc, ← List.flatMap_cons, ← h, List.flatMap_nil, List.nil_append,
        stops] at first
      contradiction
  | cons c cs ih =>
    have first := reads c (cs.flatMap code ++ stop :: after)
    rw [← List.append_assoc, ← List.flatMap_cons, h] at first
    cases ds with
    | nil =>
      rw [List.flatMap_nil, List.nil_append, stops] at first
      contradiction
    | cons d ds =>
      rw [List.flatMap_cons, List.append_assoc, reads] at first
      obtain ⟨rfl, rest⟩ := Prod.mk.inj (Option.some.inj first)
      obtain ⟨rfl, rfl⟩ := ih rest.symm
      exact ⟨rfl, rfl⟩

theorem selfDelimiting_of_reads {code : Char → List Char}
    {read : List Char → Option (Char × List Char)} {stop : Char}
    (reads : ∀ c rest, read (code c ++ rest) = some (c, rest))
    (stops : ∀ rest, read (stop :: rest) = none) :
    SelfDelimiting fun value : String => String.ofList (value.toList.flatMap code ++ [stop]) := by
  intro v w s t h
  have chars := congrArg String.toList h
  simp only [String.toList_append, String.toList_ofList, List.append_assoc,
    List.singleton_append] at chars
  obtain ⟨value, after⟩ := eq_of_reads reads stops chars
  exact ⟨String.toList_inj.mp value, String.toList_inj.mp after⟩

/-! ## String literals -/

/-- The character that a letter after a backslash stands for. -/
def unescaped (c : Char) : Char :=
  match c with
  | 'n' => '\n'
  | 'r' => '\r'
  | 't' => '\t'
  | c => c

/-- The first character of what is left of a string literal, if that does not end here, and what
follows it. -/
def readLiteral? : List Char → Option (Char × List Char)
  | [] | '"' :: _ => none
  | '\\' :: 'u' :: cs => (readDigits? 16 (cs.take 4)).map fun n => (Char.ofNat n, cs.drop 4)
  | '\\' :: c :: cs => some (unescaped c, cs)
  | c :: cs => some (c, cs)

/-- The number of a control character is read back from its digits. -/
theorem readDigits?_hexPadded {c : Char} (control : isControl c = true) :
    readDigits? 16 (hexPadded 4 c.toNat) = some c.toNat := by
  have all : ∀ n < 0xA0, readDigits? 16 (hexPadded 4 n) = some n := by decide +kernel
  apply all
  simp only [isControl, Bool.or_eq_true, Bool.and_eq_true, decide_eq_true_eq] at control
  omega

/-- A character of a literal is read back. -/
theorem readLiteral?_literalChar (c : Char) (rest : List Char) :
    readLiteral? (literalChar c ++ rest) = some (c, rest) := by
  unfold literalChar
  split
  · rfl
  · rfl
  · rfl
  · rfl
  · rfl
  · rename_i quote backslash _ _ _
    split
    · -- the four digits after the backslash are those of the character
      rename_i control
      have four := length_hexPadded 4 c.toNat
      rw [List.cons_append, List.cons_append, readLiteral?, List.take_left' four,
        List.drop_left' four, readDigits?_hexPadded control, Option.map_some, Char.ofNat_toNat]
    · rw [List.singleton_append, readLiteral?]
      all_goals simp_all

theorem stringLiteral_eq (value : String) :
    stringLiteral value =
      "\"" ++ String.ofList (value.toList.flatMap literalChar ++ ['"']) := by
  apply String.toList_inj.mp
  simp [stringLiteral]

theorem selfDelimiting_stringLiteral : SelfDelimiting stringLiteral := by
  rw [funext stringLiteral_eq]
  exact (selfDelimiting_of_reads readLiteral?_literalChar fun _ => rfl).after "\""

/-! ## Attributes -/

/-- The first character of what is left of an attribute, if that does not end here, and what follows
it. -/
def readAttribute? : List Char → Option (Char × List Char)
  | [] | '"' :: _ => none
  | '&' :: 'a' :: 'm' :: 'p' :: ';' :: cs => some ('&', cs)
  | '&' :: 'q' :: 'u' :: 'o' :: 't' :: ';' :: cs => some ('"', cs)
  | c :: cs => some (c, cs)

/-- A character of an attribute is read back. -/
theorem readAttribute?_attributeChar (c : Char) (rest : List Char) :
    readAttribute? (attributeChar c ++ rest) = some (c, rest) := by
  unfold attributeChar
  split
  · rfl
  · rfl
  · rename_i ampersand quote
    rw [List.singleton_append, readAttribute?]
    all_goals simp_all

theorem selfDelimiting_attributeText :
    SelfDelimiting fun value => attributeText value ++ "\"" := by
  have written (value : String) : attributeText value ++ "\"" =
      String.ofList (value.toList.flatMap attributeChar ++ ['"']) := by
    rw [attributeText, String.ofList_append]
  rw [funext written]
  exact selfDelimiting_of_reads readAttribute?_attributeChar fun _ => rfl

end IconForge.Component
