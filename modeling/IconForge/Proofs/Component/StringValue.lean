import IconForge.Proofs.Component.Literal

/-!
# What a string literal evaluates to

The literals in the source of a component are JavaScript. A string there is a row of code units in
UTF-16: a character that stands for itself is one unit or two, and an escape is one. Reading ends at
the first quote that is not escaped, and fails at a line end or at an escape that it does not know.
Read in this way, a literal comes to the value that was written, whatever follows the literal.

Only the escapes that are written are known to the reader. To accept more of them would not change
what it makes of these.

## Main definitions

- `evaluate?`: the value of the literal at the front of a text.
- `Enclosed`: what may stand between two quotes.

## Main statements

- `ofCodeUnits?_append`: characters are told by their code units.
- `contents?_literalChar`: a literal is read one character after the other.
- `enclosed_flatMap_literalChar`: no character of a value ends its literal.
- `stringLiteral_evaluates`: the value of a literal.
-/

namespace IconForge.Component

open IconForge.Text

/-! ## Code units -/

/-- The code units of a character: its code, or a pair of surrogates if that is too large for one
unit. -/
def codeUnits (c : Char) : List UInt16 :=
  if c.toNat < 0x10000 then [c.toNat.toUInt16]
  else [(0xD800 + (c.toNat - 0x10000) / 0x400).toUInt16,
    (0xDC00 + (c.toNat - 0x10000) % 0x400).toUInt16]

/-- The characters with these code units, if every surrogate among them is in a pair. -/
def ofCodeUnits? : List UInt16 → Option (List Char)
  | [] => some []
  | unit :: units =>
    if unit.toNat.isValidChar then (ofCodeUnits? units).map (Char.ofNat unit.toNat :: ·)
    else
      match units with
      | [] => none
      | low :: units =>
        if unit.toNat < 0xDC00 ∧ 0xDC00 ≤ low.toNat ∧ low.toNat < 0xE000 then
          (ofCodeUnits? units).map
            (Char.ofNat (0x10000 + (unit.toNat - 0xD800) * 0x400 + (low.toNat - 0xDC00)) :: ·)
        else none

/-- The code units of a character are read as this character. -/
theorem ofCodeUnits?_append (c : Char) (units : List UInt16) :
    ofCodeUnits? (codeUnits c ++ units) = (ofCodeUnits? units).map (c :: ·) := by
  have valid : c.toNat.isValidChar := c.valid
  unfold codeUnits
  split
  · rename_i small
    have unit : c.toNat.toUInt16.toNat = c.toNat := by
      simpa using small
    rw [List.singleton_append, ofCodeUnits?.eq_def]
    simp only [unit, if_pos valid, Char.ofNat_toNat]
  · rename_i large
    -- the code is taken apart into the two surrogates
    obtain ⟨n, code⟩ : ∃ n, c.toNat = 0x10000 + n := ⟨c.toNat - 0x10000, by omega⟩
    have bound : n < 0x100000 := by
      rcases valid with below | ⟨-, below⟩ <;> omega
    have high : (0xD800 + n / 0x400).toUInt16.toNat = 0xD800 + n / 0x400 := by
      simp
      omega
    have low : (0xDC00 + n % 0x400).toUInt16.toNat = 0xDC00 + n % 0x400 := by
      simp
      omega
    have surrogate : ¬ (0xD800 + n / 0x400).isValidChar := by
      unfold Nat.isValidChar
      omega
    have whole : 0x10000 + (0xD800 + n / 0x400 - 0xD800) * 0x400 + (0xDC00 + n % 0x400 - 0xDC00) =
        c.toNat := by
      omega
    rw [code, Nat.add_sub_cancel_left, List.cons_append, List.singleton_append, ofCodeUnits?, high,
      if_neg surrogate]
    simp only [low, whole]
    rw [if_pos (by omega), Char.ofNat_toNat]

theorem ofCodeUnits?_flatMap (cs : List Char) : ofCodeUnits? (cs.flatMap codeUnits) = some cs := by
  induction cs with
  | nil => rfl
  | cons c cs ih => rw [List.flatMap_cons, ofCodeUnits?_append, ih, Option.map_some]

/-! ## Evaluation -/

/-- The unit that a character after a backslash stands for, if it does not announce digits. -/
def escapedUnit? : Char → Option UInt16
  | '"' => some 0x22
  | '\\' => some 0x5C
  | 'n' => some 0x0A
  | 'r' => some 0x0D
  | 't' => some 0x09
  | _ => none

/-- A character that a literal may not hold as it is. -/
def isLineEnd (c : Char) : Bool := c == '\n' || c == '\r'

/-- Reads on after the first quote of a literal: its code units, and what follows its last quote. -/
def contents? : List Char → Option (List UInt16 × List Char)
  | [] => none
  | '"' :: rest => some ([], rest)
  | '\\' :: 'u' :: a :: b :: c :: d :: rest =>
    (readDigits? 16 [a, b, c, d]).bind fun unit =>
      (contents? rest).map fun (units, after) => (unit.toUInt16 :: units, after)
  | '\\' :: c :: rest =>
    (escapedUnit? c).bind fun unit =>
      (contents? rest).map fun (units, after) => (unit :: units, after)
  | c :: rest =>
    if isLineEnd c || c == '\\' then none
    else (contents? rest).map fun (units, after) => (codeUnits c ++ units, after)

/-- The value of the literal at the front of a text, and what follows it. -/
def evaluate? (text : String) : Option (String × String) :=
  match text.toList with
  | '"' :: cs =>
    (contents? cs).bind fun (units, after) =>
      (ofCodeUnits? units).map fun value => (String.ofList value, String.ofList after)
  | _ => none

/-- A control character is one unit. -/
theorem codeUnits_of_isControl {c : Char} (control : isControl c = true) :
    codeUnits c = [c.toNat.toUInt16] := by
  have small : c.toNat < 0x10000 := by
    simp only [isControl, Bool.or_eq_true, Bool.and_eq_true, decide_eq_true_eq] at control
    omega
  rw [codeUnits, if_pos small]

/-- A character that is written into a literal is evaluated to its code units. -/
theorem contents?_literalChar (c : Char) (rest : List Char) :
    contents? (literalChar c ++ rest) =
      (contents? rest).map fun (units, after) => (codeUnits c ++ units, after) := by
  unfold literalChar
  split
  · rfl
  · rfl
  · rfl
  · rfl
  · rfl
  · rename_i quote backslash lineFeed carriageReturn _
    split
    · rename_i control
      -- there are four digits after the backslash and the letter
      have length := length_hexPadded 4 c.toNat
      match digits : hexPadded 4 c.toNat, length with
      | [a, b, c', d], _ =>
        have read := readDigits?_hexPadded control
        rw [digits] at read
        rw [codeUnits_of_isControl control]
        simp only [List.cons_append, List.nil_append, contents?, read, Option.bind_some]
    · have plain : (isLineEnd c || c == '\\') = false := by
        simpa [isLineEnd] using ⟨⟨lineFeed, carriageReturn⟩, backslash⟩
      rw [List.singleton_append, contents?, plain]
      · rfl
      all_goals simp_all

theorem contents?_flatMap (cs rest : List Char) :
    contents? (cs.flatMap literalChar ++ '"' :: rest) = some (cs.flatMap codeUnits, rest) := by
  induction cs with
  | nil => rfl
  | cons c cs ih =>
    rw [List.flatMap_cons, List.append_assoc, contents?_literalChar, ih]
    rfl

/-! ## Between the quotes -/

/-- A character that comes next is escaped: the text ends with a backslash that is not escaped
itself. -/
def escapesNext (cs : List Char) : Bool :=
  cs.foldl (fun escaped c => !escaped && c == '\\') false

/-- A text that can stand between two quotes on one line. -/
structure Enclosed (cs : List Char) : Prop where
  /-- Every quote in it is escaped. -/
  quotes : ∀ before after, cs = before ++ '"' :: after → escapesNext before = true
  noControl : ∀ c ∈ cs, isControl c = false
  /-- The quote that follows it is not escaped. -/
  ends : escapesNext cs = false

/-- What comes after a text that ends without a backslash is escaped as it would be by itself. -/
theorem escapesNext_append {cs : List Char} (ends : escapesNext cs = false) (more : List Char) :
    escapesNext (cs ++ more) = escapesNext more := by
  rw [escapesNext, List.foldl_append]
  exact congrArg (more.foldl _) ends

theorem enclosed_nil : Enclosed [] where
  quotes before after eq := by simp at eq
  noControl := by simp
  ends := rfl

theorem Enclosed.append {cs ds : List Char} (first : Enclosed cs) (second : Enclosed ds) :
    Enclosed (cs ++ ds) where
  quotes before after eq := by
    rcases List.append_eq_append_iff.mp eq with ⟨more, rfl, later⟩ | ⟨more, here, later⟩
    · rw [escapesNext_append first.ends]
      exact second.quotes more after later
    · cases more with
      | nil =>
        -- the quote is the first character of the second text
        rw [List.append_nil] at here
        subst here
        simpa [escapesNext_append first.ends, escapesNext] using second.quotes [] after later.symm
      | cons c more =>
        obtain ⟨rfl, -⟩ := List.cons.inj later
        exact first.quotes before more here
  noControl c mem := by
    rcases List.mem_append.mp mem with mem | mem
    · exact first.noControl c mem
    · exact second.noControl c mem
  ends := (escapesNext_append first.ends ds).trans second.ends

/-- Characters that are neither quotes nor backslashes. -/
theorem enclosed_of_plain {cs : List Char}
    (plain : ∀ c ∈ cs, isControl c = false ∧ c ≠ '"' ∧ c ≠ '\\') : Enclosed cs where
  quotes before after eq := absurd rfl (plain '"' (by simp [eq])).2.1
  noControl c mem := (plain c mem).1
  ends := by
    induction cs with
    | nil => rfl
    | cons c cs ih =>
      obtain ⟨⟨-, -, noBackslash⟩, plain⟩ := List.forall_mem_cons.mp plain
      have first : escapesNext [c] = false := by simpa [escapesNext] using noBackslash
      rw [← List.singleton_append, escapesNext_append first]
      exact ih plain

/-- A backslash and the character that it escapes. -/
theorem enclosed_escape {c : Char} (noControl : isControl c = false) : Enclosed ['\\', c] where
  quotes before after eq := by
    -- the backslash is no quote, so only the second character can be one
    match before, eq with
    | [], eq => simp at eq
    | [b], eq =>
      obtain ⟨rfl, -⟩ := List.cons.inj eq
      rfl
    | b :: b' :: before, eq => simp at eq
  noControl := by
    have backslash : isControl '\\' = false := by decide
    simpa [backslash] using noControl
  ends := rfl

theorem enclosed_literalChar (c : Char) : Enclosed (literalChar c) := by
  unfold literalChar
  split
  · exact enclosed_escape (by decide)
  · exact enclosed_escape (by decide)
  · exact enclosed_escape (by decide)
  · exact enclosed_escape (by decide)
  · exact enclosed_escape (by decide)
  · rename_i quote backslash _ _ _
    split
    · have digits : ∀ k < 16, isControl (hexDigit k) = false ∧ hexDigit k ≠ '"' ∧
          hexDigit k ≠ '\\' := by decide
      exact (enclosed_escape (c := 'u') (by decide)).append (enclosed_of_plain
        (forall_mem_hexPadded (p := fun d => isControl d = false ∧ d ≠ '"' ∧ d ≠ '\\') digits 4 _))
    · rename_i noControl
      refine enclosed_of_plain fun d mem => ?_
      obtain rfl := List.mem_singleton.mp mem
      exact ⟨by simpa using noControl, quote, backslash⟩

theorem enclosed_flatMap_literalChar (cs : List Char) : Enclosed (cs.flatMap literalChar) := by
  induction cs with
  | nil => exact enclosed_nil
  | cons c cs ih => exact (enclosed_literalChar c).append ih

/-! ## Literals -/

/-- A value is written as a literal that stands between two quotes, and that is evaluated to the
value whatever follows it. -/
theorem stringLiteral_evaluates (value : String) :
    (∃ inside, stringLiteral value = "\"" ++ String.ofList inside ++ "\"" ∧ Enclosed inside) ∧
      ∀ rest, evaluate? (stringLiteral value ++ rest) = some (value, rest) := by
  constructor
  · refine ⟨value.toList.flatMap literalChar, ?_, enclosed_flatMap_literalChar _⟩
    apply String.toList_inj.mp
    simp [stringLiteral]
  · intro rest
    have text : (stringLiteral value ++ rest).toList =
        '"' :: (value.toList.flatMap literalChar ++ '"' :: rest.toList) := by
      simp [stringLiteral]
    rw [evaluate?, text]
    simp only [contents?_flatMap, Option.bind_some, ofCodeUnits?_flatMap, Option.map_some,
      String.ofList_toList]

end IconForge.Component
