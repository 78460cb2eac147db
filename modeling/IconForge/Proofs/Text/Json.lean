import IconForge.Proofs.Component.StringValue
import IconForge.Text.Json

/-!
# JSON objects are read back

A reader of flat objects on one line. A string is a row of code units in UTF-16, as characters that
stand for themselves and as escapes; it ends at the first quote that is not escaped, and may not
hold a control character as it is. A number is a row of digits that does not begin with a zero,
unless it is nothing else. Fields are read one after the other, in the order in which they stand.

Only objects without blanks, and only strings and whole numbers in their fields, are known to the
reader. To accept more of JSON would not change what it makes of these.

## Main definitions

- `readObject?`: the fields of an object.

## Main statements

- `readString?_jsonString`, `readNumber?_toString`: values are read back, whatever follows a string
  and up to the first character after a number that is no digit.
- `readObject?_jsonObject`: so are objects.
-/

namespace IconForge.Text

open IconForge.Component

/-! ## Reading -/

/-- The unit that a character after a backslash stands for, if it does not announce digits. -/
def unescaped? : Char → Option UInt16
  | '"' => some 0x22
  | '\\' => some 0x5C
  | '/' => some 0x2F
  | 'b' => some 0x08
  | 'f' => some 0x0C
  | 'n' => some 0x0A
  | 'r' => some 0x0D
  | 't' => some 0x09
  | _ => none

/-- Reads on after the first quote of a string: its code units, and what follows its last quote. -/
def stringUnits? : List Char → Option (List UInt16 × List Char)
  | [] => none
  | '"' :: rest => some ([], rest)
  | '\\' :: 'u' :: a :: b :: c :: d :: rest =>
    (readDigits? 16 [a, b, c, d]).bind fun unit =>
      (stringUnits? rest).map fun (units, after) => (unit.toUInt16 :: units, after)
  | '\\' :: c :: rest =>
    (unescaped? c).bind fun unit =>
      (stringUnits? rest).map fun (units, after) => (unit :: units, after)
  | c :: rest =>
    if c.toNat < 0x20 || c == '\\' then none
    else (stringUnits? rest).map fun (units, after) => (codeUnits c ++ units, after)

/-- The string at the front of a text, and what follows it. -/
def readString? : List Char → Option (String × List Char)
  | '"' :: cs =>
    (stringUnits? cs).bind fun (units, after) =>
      (ofCodeUnits? units).map fun value => (String.ofList value, after)
  | _ => none

/-- The whole number at the front of a text, and what follows it. -/
def readNumber? (cs : List Char) : Option (Nat × List Char) :=
  let digits := cs.takeWhile Char.isDigit
  if digits = [] ∨ digits.head? = some '0' ∧ digits ≠ ['0'] then none
  else some (Nat.ofDigitChars 10 digits 0, cs.dropWhile Char.isDigit)

def readScalar? (cs : List Char) : Option (JsonScalar × List Char) :=
  if cs.head? = some '"' then (readString? cs).map fun (s, after) => (.text s, after)
  else (readNumber? cs).map fun (n, after) => (.number n, after)

/-- The field at the front of a text, and what follows it. -/
def readField? (cs : List Char) : Option ((String × JsonScalar) × List Char) :=
  (readString? cs).bind fun (key, after) =>
    match after with
    | ':' :: after => (readScalar? after).map fun (value, after) => ((key, value), after)
    | _ => none

/-! ## What is left is shorter -/

section Lengths

variable {α β : Type} {bound : Nat}

/-- What is left stays as it is when only the value that was read is changed. -/
theorem length_le_of_map {read : Option (α × List Char)} {f : α → β} {b : β} {after : List Char}
    (le : ∀ a rest, read = some (a, rest) → rest.length ≤ bound)
    (h : (read.map fun (a, rest) => (f a, rest)) = some (b, after)) : after.length ≤ bound := by
  obtain ⟨⟨a, rest⟩, isRead, eq⟩ := Option.map_eq_some_iff.mp h
  obtain ⟨-, rfl⟩ := Prod.mk.inj eq
  exact le a rest isRead

variable {cs after : List Char}

theorem length_stringUnits?_le {units : List UInt16} (h : stringUnits? cs = some (units, after)) :
    after.length ≤ cs.length := by
  fun_induction stringUnits? cs generalizing units after with
  | case1 => simp at h
  | case2 rest => simp_all
  | case3 a b c d rest ih =>
    obtain ⟨unit, -, h⟩ := Option.bind_eq_some_iff.mp h
    exact (length_le_of_map (fun _ _ => ih) h).trans (by simp only [List.length_cons]; omega)
  | case4 c rest _ ih =>
    obtain ⟨unit, -, h⟩ := Option.bind_eq_some_iff.mp h
    exact (length_le_of_map (fun _ _ => ih) h).trans (by simp only [List.length_cons]; omega)
  | case5 => simp at h
  | case6 c rest _ _ _ _ ih =>
    exact (length_le_of_map (fun _ _ => ih) h).trans (by simp only [List.length_cons]; omega)

theorem length_readString?_le {s : String} (h : readString? cs = some (s, after)) :
    after.length ≤ cs.length := by
  unfold readString? at h
  split at h
  · obtain ⟨⟨units, rest⟩, isRead, h⟩ := Option.bind_eq_some_iff.mp h
    obtain ⟨value, -, eq⟩ := Option.map_eq_some_iff.mp h
    obtain ⟨-, rfl⟩ := Prod.mk.inj eq
    exact (length_stringUnits?_le isRead).trans (Nat.le_succ _)
  · simp at h

theorem length_readNumber?_le {n : Nat} (h : readNumber? cs = some (n, after)) :
    after.length ≤ cs.length := by
  simp only [readNumber?] at h
  split at h
  · simp at h
  · obtain ⟨-, rfl⟩ := Prod.mk.inj (Option.some.inj h)
    exact (List.dropWhile_sublist _).length_le

theorem length_readScalar?_le {value : JsonScalar} (h : readScalar? cs = some (value, after)) :
    after.length ≤ cs.length := by
  unfold readScalar? at h
  split at h
  · exact length_le_of_map (fun _ _ => length_readString?_le) h
  · exact length_le_of_map (fun _ _ => length_readNumber?_le) h

theorem length_readField?_le {field : String × JsonScalar}
    (h : readField? cs = some (field, after)) : after.length ≤ cs.length := by
  obtain ⟨⟨key, rest⟩, isRead, h⟩ := Option.bind_eq_some_iff.mp h
  have shorter := length_readString?_le isRead
  dsimp only at h
  split at h
  · rename_i more
    exact (length_le_of_map (fun _ _ => length_readScalar?_le) h).trans
      ((Nat.le_succ _).trans shorter)
  · simp at h

end Lengths

/-- Reads the fields of an object up to its end, with which the text ends too. -/
def readFields? (cs : List Char) : Option (List (String × JsonScalar)) :=
  match h : readField? cs with
  | some (field, ['\x7d']) => some [field]
  | some (field, ',' :: more) =>
    have : more.length < cs.length := length_readField?_le h
    (readFields? more).map (field :: ·)
  | _ => none
termination_by cs.length

/-- The fields of the object that a text is. -/
def readObject? (text : String) : Option (List (String × JsonScalar)) :=
  match text.toList with
  | '\x7b' :: cs => if cs = ['\x7d'] then some [] else readFields? cs
  | _ => none

/-! ## Strings -/

/-- A character that is written into a string is read as its code units. -/
theorem stringUnits?_jsonChar (c : Char) (rest : List Char) :
    stringUnits? (jsonChar c ++ rest) =
      (stringUnits? rest).map fun (units, after) => (codeUnits c ++ units, after) := by
  unfold jsonChar
  split
  -- what is escaped by a letter is one unit
  iterate 7 rfl
  · rename_i quote backslash _ _ _ _ _
    split
    · rename_i small
      have control : isControl c = true := by simp [isControl]; omega
      -- there are four digits after the backslash and the letter
      obtain ⟨a, b, c', d, digits⟩ := List.length_eq_four.mp (length_hexPadded 4 c.toNat)
      have read := readDigits?_hexPadded control
      rw [digits] at read
      rw [codeUnits_of_isControl control, digits]
      simp only [List.cons_append, List.nil_append, stringUnits?, read, Option.bind_some]
    · rename_i large
      have plain : (decide (c.toNat < 0x20) || c == '\\') = false := by
        simpa using ⟨Nat.le_of_not_lt large, backslash⟩
      rw [List.singleton_append, stringUnits?, plain]
      · rfl
      all_goals simp_all

/-- A string is read back, whatever follows it. -/
theorem readString?_jsonString (s : String) (rest : List Char) :
    readString? ((jsonString s).toList ++ rest) = some (s, rest) := by
  have units (cs : List Char) : stringUnits? (cs.flatMap jsonChar ++ '"' :: rest) =
      some (cs.flatMap codeUnits, rest) := by
    induction cs with
    | nil => rfl
    | cons c cs ih =>
      rw [List.flatMap_cons, List.append_assoc, stringUnits?_jsonChar, ih]
      rfl
  have text : (jsonString s).toList ++ rest = '"' :: (s.toList.flatMap jsonChar ++ '"' :: rest) := by
    simp [jsonString]
  rw [text, readString?, units]
  simp only [Option.bind_some, ofCodeUnits?_flatMap, Option.map_some, String.ofList_toList]

/-! ## Numbers -/

/-- A number does not begin with a zero, unless it is one. -/
theorem head?_toDigits_ne {n : Nat} (positive : 0 < n) :
    (Nat.toDigits 10 n).head? ≠ some '0' := by
  induction n using Nat.strongRecOn with
  | ind n ih =>
    by_cases single : n < 10
    · rw [Nat.toDigits_of_lt_base single]
      simp only [List.head?_cons, ne_eq, Option.some.injEq, Nat.digitChar_eq_zero]
      omega
    · -- the first digit is that of what is left of the last one
      rw [Nat.toDigits_of_base_le (by decide) (by omega),
        List.head?_append_of_ne_nil _ Nat.toDigits_ne_nil]
      exact ih (n / 10) (by omega) (by omega)

/-- A number is read back up to what follows it, if that is no digit. -/
theorem readNumber?_toString (n : Nat) {c : Char} (ends : c.isDigit = false) (rest : List Char) :
    readNumber? ((toString n).toList ++ c :: rest) = some (n, c :: rest) := by
  have digits : (toString n).toList = Nat.toDigits 10 n := by simp
  have isDigit : ∀ d ∈ Nat.toDigits 10 n, d.isDigit = true := fun d mem =>
    Nat.isDigit_of_mem_toDigits (by decide) le_rfl mem
  have taken : (Nat.toDigits 10 n ++ c :: rest).takeWhile Char.isDigit = Nat.toDigits 10 n := by
    rw [List.takeWhile_append_of_pos isDigit, List.takeWhile_cons_of_neg (by simp [ends]),
      List.append_nil]
  have left : (Nat.toDigits 10 n ++ c :: rest).dropWhile Char.isDigit = c :: rest := by
    rw [List.dropWhile_append_of_pos isDigit, List.dropWhile_cons_of_neg (by simp [ends])]
  have noZero : ¬ ((Nat.toDigits 10 n).head? = some '0' ∧ Nat.toDigits 10 n ≠ ['0']) := by
    rintro ⟨zero, more⟩
    rcases Nat.eq_zero_or_pos n with rfl | positive
    · exact more (Nat.toDigits_zero 10)
    · exact head?_toDigits_ne positive zero
  rw [digits, readNumber?]
  simp only [taken, left]
  rw [if_neg (not_or.mpr ⟨Nat.toDigits_ne_nil, noZero⟩), Nat.ofDigitChars_ten_toDigits]

/-! ## Objects -/

/-- A value is read back up to what follows it, if that is no digit. -/
theorem readScalar?_render (value : JsonScalar) {c : Char} (ends : c.isDigit = false)
    (rest : List Char) :
    readScalar? (value.render.toList ++ c :: rest) = some (value, c :: rest) := by
  cases value with
  | text s =>
    have first : ((jsonString s).toList ++ c :: rest).head? = some '"' := by simp [jsonString]
    rw [JsonScalar.render, readScalar?, if_pos first, readString?_jsonString]
    rfl
  | number n =>
    have first : ((toString n).toList ++ c :: rest).head? ≠ some '"' := by
      intro quote
      -- a quote is no digit
      have isDigit : '"'.isDigit = true := by
        refine Nat.isDigit_of_mem_toDigits (n := n) (by decide) le_rfl (List.mem_of_mem_head? ?_)
        simpa [List.head?_append_of_ne_nil _ Nat.toDigits_ne_nil] using quote
      exact absurd isDigit (by decide)
    rw [JsonScalar.render, readScalar?, if_neg first, readNumber?_toString n ends]
    rfl

/-- A field as it stands in an object. -/
def fieldText (field : String × JsonScalar) : String := jsonString field.1 ++ ":" ++ field.2.render

theorem readField?_fieldText (field : String × JsonScalar) {c : Char} (ends : c.isDigit = false)
    (rest : List Char) :
    readField? ((fieldText field).toList ++ c :: rest) = some (field, c :: rest) := by
  have text : (fieldText field).toList ++ c :: rest =
      (jsonString field.1).toList ++ ':' :: (field.2.render.toList ++ c :: rest) := by
    simp [fieldText]
  simp only [text, readField?, readString?_jsonString, readScalar?_render field.2 ends,
    Option.bind_some, Option.map_some]

theorem readFields?_of_last {cs : List Char} {field : String × JsonScalar}
    (h : readField? cs = some (field, ['\x7d'])) : readFields? cs = some [field] := by
  rw [readFields?]
  split <;> simp_all

theorem readFields?_of_comma {cs more : List Char} {field : String × JsonScalar}
    (h : readField? cs = some (field, ',' :: more)) :
    readFields? cs = (readFields? more).map (field :: ·) := by
  rw [readFields?]
  split <;> simp_all

/-- Fields between commas are read back in order, if there are any. -/
theorem readFields?_intercalate (field : String × JsonScalar) (fields : List (String × JsonScalar)) :
    readFields? ([','].intercalate ((field :: fields).map fun f => (fieldText f).toList) ++
      ['\x7d']) = some (field :: fields) := by
  induction fields generalizing field with
  | nil => exact readFields?_of_last (by simpa using readField?_fieldText field (by decide) [])
  | cons next fields ih =>
    have text : [','].intercalate ((field :: next :: fields).map fun f => (fieldText f).toList) ++
        ['\x7d'] = (fieldText field).toList ++ ',' ::
          ([','].intercalate ((next :: fields).map fun f => (fieldText f).toList) ++ ['\x7d']) := by
      simp [List.intercalate_cons_cons]
    rw [text, readFields?_of_comma (readField?_fieldText field (by decide) _), ih]
    rfl

/-- An object is read back: its fields with their values, in order. -/
theorem readObject?_jsonObject (fields : List (String × JsonScalar)) :
    readObject? (jsonObject fields) = some fields := by
  have text : (jsonObject fields).toList = '\x7b' ::
      ([','].intercalate (fields.map fun f => (fieldText f).toList) ++ ['\x7d']) := by
    simp [jsonObject, fieldText, String.toList_intercalate, Function.comp_def]
  cases fields with
  | nil => rfl
  | cons field fields =>
    have read := readFields?_intercalate field fields
    have noField : readFields? ['\x7d'] = none := by
      rw [readFields?]
      rfl
    simp only [readObject?, text]
    rw [if_neg, read]
    intro single
    rw [single, noField] at read
    cases read

end IconForge.Text
