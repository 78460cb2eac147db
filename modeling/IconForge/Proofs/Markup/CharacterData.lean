import IconForge.Proofs.Markup.Decoding
import IconForge.Proofs.Markup.Shapes
import IconForge.Proofs.Markup.Subtrees

/-!
# What an element says

The text of an element is decoded from its markup once more, and decoding does not see the tokens
that markup is read in. It agrees with them on plain characters and on CDATA sections. Of a tag, a
comment, an instruction or a declaration it passes over what is up to the first `>`, wherever that
stands, and it takes the rest for text.

So an element says its character data and nothing else exactly if nothing is said by what is left of
the tokens inside. What is left may also open a section, in which the tokens behind it are taken for
text up to the first end of a section. No more than this end is lost then, and it weighs less than
what the section was opened with, so that what is said is still not the character data.

## Main statements

- `yields_lexeme`: what decoding makes of one lexeme, and what is left of it.
- `course_of_remainder`: what is left of a lexeme is decoded by itself or leaves a section open.
- `outweighs_written`: what a row of lexemes says weighs no less than its character data.
- `decodeText_eq_characterData_iff`: when a row of lexemes says its character data.
- `Document.read_characterData`: the elements of a document.
-/

namespace IconForge.Markup

open IconForge.Text

/-! ## Character data -/

/-- The character data of a lexeme: plain characters, and what a CDATA section holds. -/
def dataOf : Lexeme → List Char
  | (.characters, lexeme) => lexeme
  | (.cdata, lexeme) => (lexeme.drop cdataOpening.length).rdrop "]]>".toList.length
  | _ => []

/-- The character data of a row, where no reference is in it. -/
def characterData (row : List Lexeme) : List Char := row.flatMap dataOf

/-- A text after the first closing bracket. -/
def afterBracket (cs : List Char) : List Char := (cs.dropWhile fun c => c != '>').drop 1

/-- What is left of a lexeme after it has been passed over. -/
def leftover (l : Lexeme) : List Char := if l.1.isMarkup then afterBracket l.2 else []

/-- What decoding makes of a lexeme. -/
def heard (l : Lexeme) : List Char := dataOf l ++ decodeText (leftover l)

theorem dataOf_cdata (body : List Char) :
    dataOf (.cdata, cdataOpening ++ body ++ "]]>".toList) = body := by
  simp [dataOf, List.append_assoc, List.rdrop]

theorem dataOf_of_isMarkup {token : Token} (isMarkup : token.isMarkup) (lexeme : List Char) :
    dataOf (token, lexeme) = [] := by
  cases token <;> first | rfl | contradiction

theorem eq_append_afterBracket {cs : List Char} (closes : '>' ∈ cs) :
    ∃ front, cs = front ++ '>' :: afterBracket cs := by
  have parts := List.takeWhile_append_dropWhile (p := fun c => c != '>') (l := cs)
  cases later : cs.dropWhile fun c => c != '>' with
  | nil =>
    have outside := List.dropWhile_eq_nil_iff.mp later '>' closes
    simp at outside
  | cons c rest =>
    have isBracket := List.head?_dropWhile_not (fun c => c != '>') cs
    rw [later] at isBracket
    obtain rfl : c = '>' := by simpa using isBracket
    refine ⟨cs.takeWhile fun c => c != '>', ?_⟩
    rw [afterBracket, later]
    rw [later] at parts
    exact parts.symm

theorem afterBracket_suffix (cs : List Char) : afterBracket cs <:+ cs :=
  (List.drop_suffix _ _).trans (List.dropWhile_suffix _)

theorem leftover_suffix (l : Lexeme) : leftover l <:+ l.2 := by
  rw [leftover]
  split
  · exact afterBracket_suffix l.2
  · exact List.nil_suffix

/-! ## Passing over constructs -/

theorem isPlain_of_not_mem {chars : List Char} (noTag : '<' ∉ chars) (noReference : '&' ∉ chars) :
    ∀ c ∈ chars, isPlain c = true := by
  intro c mem
  simp only [isPlain, Bool.and_eq_true, bne_iff_ne]
  exact ⟨fun eq => noTag (eq ▸ mem), fun eq => noReference (eq ▸ mem)⟩

/-- Decoding says `said` of a text, and then goes on with `rest` and what follows it. -/
def Yields (cs said rest : List Char) : Prop :=
  ∀ more, decodeText (cs ++ more) = said ++ decodeText (rest ++ more)

/-- Whatever follows a text, it says what it says by itself. -/
abbrev Apart (cs : List Char) : Prop := Yields cs (decodeText cs) []

namespace Yields

variable {cs said rest : List Char}

theorem trans {later final : List Char} (yields : Yields cs said rest)
    (goesOn : Yields rest later final) : Yields cs (said ++ later) final := by
  intro more
  rw [yields, goesOn, List.append_assoc]

theorem decodeText_eq (yields : Yields cs said rest) : decodeText cs = said ++ decodeText rest := by
  simpa using yields []

theorem apart (yields : Yields cs said []) : Apart cs := by
  have alone := yields.decodeText_eq
  rw [decodeText_nil, List.append_nil] at alone
  rw [Apart, alone]
  exact yields

end Yields

theorem yields_plain {chars : List Char} (plain : ∀ c ∈ chars, isPlain c = true)
    (rest : List Char) : Yields (chars ++ rest) chars rest := by
  intro more
  rw [List.append_assoc]
  exact decodeText_append_of_isPlain plain _

/-- A section says what it holds, up to the first place where it is closed. -/
theorem yields_closed {cs body rest : List Char}
    (found : splitAtFirst? "]]>".toList cs = some (body, rest)) :
    Yields (cdataOpening ++ cs) body rest := by
  intro more
  rw [List.append_assoc, decodeText_cdataOpening, skipMarkup_cdataOpening,
    splitAtFirst?_followed found, Option.getD_some]

/-- Nothing in a text closes a section. -/
abbrev Unclosed (cs : List Char) : Prop := splitAtFirst? "]]>".toList cs = none

/-- A section that is not closed goes on to the end of the text. -/
theorem decodeText_unclosed {cs : List Char} (unclosed : Unclosed cs) :
    decodeText (cdataOpening ++ cs) = cs := by
  rw [decodeText_cdataOpening, skipMarkup_cdataOpening, unclosed, Option.getD_none, decodeText_nil,
    List.append_nil]

/-- No section is opened across a closing bracket. -/
theorem not_cdataOpening_append {cs : List Char} (noSection : ¬ cdataOpening <+: cs)
    (closes : '>' ∈ cs) (more : List Char) : ¬ cdataOpening <+: cs ++ more := by
  intro opens
  rcases List.prefix_or_prefix_of_prefix opens (List.prefix_append cs more) with within | across
  · exact noSection within
  · exact absurd (across.subset closes) (by decide)

theorem afterBracket_append {cs : List Char} (closes : '>' ∈ cs) (more : List Char) :
    afterBracket (cs ++ more) = afterBracket cs ++ more := by
  have found : cs.dropWhile (fun c => c != '>') ≠ [] := by
    intro none
    have outside := List.dropWhile_eq_nil_iff.mp none '>' closes
    simp at outside
  rw [afterBracket, (span_followed found more).2,
    List.drop_append_of_le_length (List.length_pos_iff.mpr found)]
  rfl

theorem skipMarkup_markup {cs : List Char} (noSection : ¬ cdataOpening <+: cs) (closes : '>' ∈ cs)
    (more : List Char) : skipMarkup (cs ++ more) = ([], afterBracket cs ++ more) := by
  have noOpening := not_cdataOpening_append noSection closes more
  rw [← List.isPrefixOf_iff_prefix] at noOpening
  rw [skipMarkup, if_neg noOpening, ← afterBracket_append closes]
  rfl

/-- Markup says nothing up to its first closing bracket. -/
theorem yields_markup {cs : List Char} (noSection : ¬ cdataOpening <+: '<' :: cs)
    (closes : '>' ∈ '<' :: cs) : Yields ('<' :: cs) [] (afterBracket ('<' :: cs)) := by
  intro more
  have bracket := decodeText_bracket (cs ++ more)
  rw [← List.cons_append, skipMarkup_markup noSection closes] at bracket
  exact bracket

/-- Of a lexeme without references its character data is said, and then decoding goes on with what
is left of it. -/
theorem yields_lexeme {l : Lexeme} (shape : Shape l) (noReference : '&' ∉ l.2) :
    Yields l.2 (dataOf l) (leftover l) := by
  cases shape with
  | @characters chars noTag =>
    have yields := yields_plain (isPlain_of_not_mem noTag noReference) []
    rwa [List.append_nil] at yields
  | reference => exact absurd List.mem_cons_self noReference
  | @cdata body isBody =>
    have found := isBody []
    rw [List.append_nil] at found
    rw [dataOf_cdata, List.append_assoc]
    exact yields_closed found
  | @markup token body isMarkup noSection =>
    rw [dataOf_of_isMarkup isMarkup, leftover, if_pos isMarkup]
    exact yields_markup noSection (by simp)

/-- A row of lexemes without references says what is heard of each, if what is left of each is
decoded by itself. -/
theorem decodeText_written {row : List Lexeme} (shapes : ∀ l ∈ row, Shape l)
    (noReference : '&' ∉ written row) (apart : ∀ l ∈ row, Apart (leftover l)) :
    decodeText (written row) = row.flatMap heard := by
  induction row with
  | nil => exact decodeText_nil
  | cons l row ih =>
    obtain ⟨shape, shapes⟩ := List.forall_mem_cons.mp shapes
    obtain ⟨here, apart⟩ := List.forall_mem_cons.mp apart
    have parts : written (l :: row) = l.2 ++ written row := rfl
    rw [parts, List.mem_append, not_or] at noReference
    rw [parts, yields_lexeme shape noReference.1, here, List.nil_append,
      ih shapes noReference.2 apart, List.flatMap_cons, heard, List.append_assoc]

/-! ## Weights -/

/-- The weight of a text: each mark weighs as much as three other characters. -/
def weight (cs : List Char) : Nat := (cs.map fun c => if isMark c then 3 else 1).sum

@[simp] theorem weight_nil : weight [] = 0 := rfl

@[simp] theorem weight_cons (c : Char) (cs : List Char) :
    weight (c :: cs) = (if isMark c then 3 else 1) + weight cs := by
  simp [weight]

@[simp] theorem weight_append (cs more : List Char) :
    weight (cs ++ more) = weight cs + weight more := by
  simp [weight]

theorem weight_eq_zero {cs : List Char} : weight cs = 0 ↔ cs = [] := by
  cases cs with
  | nil => simp
  | cons c cs =>
    rw [weight_cons]
    split <;> simp

theorem three_le_weight {c : Char} {cs : List Char} (mem : c ∈ cs) (mark : isMark c = true) :
    3 ≤ weight cs := by
  obtain ⟨front, back, rfl⟩ := List.append_of_mem mem
  rw [weight_append, weight_cons, if_pos mark]
  omega

theorem weight_closing : weight "]]>".toList = 5 := by decide

theorem weight_dataOf_le {l : Lexeme} (shape : Shape l) : weight (dataOf l) ≤ weight l.2 := by
  cases shape with
  | characters => exact le_rfl
  | reference => simp [dataOf]
  | @cdata body isBody =>
    rw [dataOf_cdata, weight_append, weight_append]
    omega
  | @markup token body isMarkup => simp [dataOf_of_isMarkup isMarkup]

theorem weight_characterData_cons (l : Lexeme) (row : List Lexeme) :
    weight (characterData (l :: row)) = weight (dataOf l) + weight (characterData row) := by
  simp [characterData]

/-! ## What is left of markup -/

/-- What comes after a closing bracket of markup: nothing, or a text that ends with a bracket. -/
inductive Remainder : List Char → Prop where
  | nil : Remainder []
  | concat {init : List Char} (marked : Marked ('>' :: init)) : Remainder (init ++ ['>'])

theorem Marked.remainder {cs front rest : List Char} (marked : Marked cs)
    (eq : cs ++ ['>'] = front ++ '>' :: rest) : Remainder rest := by
  rcases List.eq_nil_or_concat' rest with rfl | ⟨init, last, rfl⟩
  · exact .nil
  · rw [← List.cons_append, ← List.append_assoc] at eq
    obtain ⟨rfl, last_eq⟩ := List.append_inj' eq rfl
    obtain rfl := List.singleton_injective last_eq
    exact .concat (marked.of_suffix (List.suffix_append _ _))

namespace Remainder

theorem exists_concat {cs : List Char} (remainder : Remainder cs) (filled : cs ≠ []) :
    ∃ init, cs = init ++ ['>'] ∧ Marked ('>' :: init) := by
  cases remainder with
  | nil => contradiction
  | concat marked => exact ⟨_, rfl, marked⟩

/-- What comes after a closing bracket in a remainder is a remainder. -/
theorem after {front rest : List Char} (remainder : Remainder (front ++ '>' :: rest)) :
    Remainder rest := by
  obtain ⟨init, eq, marked⟩ := remainder.exists_concat (by simp)
  have whole : '>' :: init ++ ['>'] = '>' :: front ++ '>' :: rest := by
    rw [List.cons_append, List.cons_append, eq]
  exact marked.remainder whole

/-- A remainder ends with a closing bracket, so all of its ends do. -/
theorem exists_concat_of_append {front rest : List Char} (remainder : Remainder (front ++ rest))
    (filled : rest ≠ []) : ∃ init, rest = init ++ ['>'] := by
  obtain ⟨init, eq, -⟩ := remainder.exists_concat (List.append_ne_nil_of_right_ne_nil front filled)
  rcases List.eq_nil_or_concat' rest with rfl | ⟨inner, last, rfl⟩
  · contradiction
  · rw [← List.append_assoc] at eq
    obtain rfl := List.singleton_injective (List.append_inj' eq rfl).2
    exact ⟨inner, rfl⟩

/-- A section that stays open in a remainder holds its last bracket, and a mark stands before it. -/
theorem heavy {chars inner : List Char}
    (remainder : Remainder (chars ++ (cdataOpening ++ inner))) :
    6 ≤ weight chars + weight inner := by
  have filled : cdataOpening ≠ [] := by decide
  have noBracket : '>' ∉ cdataOpening := by decide
  rcases List.eq_nil_or_concat' inner with rfl | ⟨inner, last, rfl⟩
  · -- the text would end with the opening
    rw [List.append_nil] at remainder
    obtain ⟨init, eq⟩ := remainder.exists_concat_of_append filled
    exact absurd (eq ▸ List.mem_concat_self) noBracket
  · rw [← List.append_assoc, ← List.append_assoc] at remainder
    obtain ⟨init, eq, marked⟩ := remainder.exists_concat (by simp)
    obtain ⟨rfl, last_eq⟩ := List.append_inj' eq rfl
    obtain rfl := List.singleton_injective last_eq
    have opens : '<' ∈ cdataOpening := by decide
    have noMark : cdataOpening.all (fun c => !isMark c) = true := by decide
    have among : '<' ∈ chars ++ cdataOpening ++ inner :=
      List.mem_append_left _ (List.mem_append_right _ opens)
    -- the bracket of the opening asks for a mark, which the opening itself does not have
    obtain ⟨c, mem, mark⟩ := marked [] (chars ++ cdataOpening ++ inner) rfl among
    have three : 3 ≤ weight chars + weight inner := by
      simp only [List.mem_append] at mem
      rcases mem with (before | opening) | inside
      · have := three_le_weight before mark
        omega
      · have plain := List.all_eq_true.mp noMark c opening
        rw [mark] at plain
        contradiction
      · have := three_le_weight inside mark
        omega
    have bracket : weight ['>'] = 3 := rfl
    rw [weight_append, bracket]
    omega

end Remainder

theorem remainder_leftover {l : Lexeme} (shape : Shape l) : Remainder (leftover l) := by
  rw [leftover]
  split
  · rename_i isMarkup
    cases shape with
    | characters | reference | cdata => contradiction
    | @markup token body _ _ marked =>
      have closes : '>' ∈ '<' :: (body ++ ['>']) := by simp
      obtain ⟨front, eq⟩ := eq_append_afterBracket closes
      exact marked.remainder eq
  · exact .nil

/-- How a text is decoded before what follows it. -/
inductive Course (cs : List Char) : Prop where
  | apart (apart : Apart cs)
  /-- A section is opened and stays open. What is said before it and what is in it weighs more than
  the end of a section. -/
  | opens {said inner : List Char} (yields : Yields cs said (cdataOpening ++ inner))
      (unclosed : Unclosed inner) (heavy : 6 ≤ weight said + weight inner)
      (opening : cdataOpening <:+: cs)

namespace Course

variable {cs : List Char}

/-- A text that says nothing leaves no section open. -/
theorem apart_of_silent (course : Course cs) (silent : decodeText cs = []) : Apart cs := by
  cases course with
  | apart apart => exact apart
  | opens yields unclosed heavy =>
    have decoded := yields.decodeText_eq
    rw [decodeText_unclosed unclosed, silent] at decoded
    have weights := congrArg weight decoded
    rw [weight_nil, weight_append] at weights
    omega

theorem apart_of_noSection (course : Course cs) (noSection : ¬ cdataOpening <:+: cs) :
    Apart cs := by
  cases course with
  | apart apart => exact apart
  | opens _ _ _ opening => exact absurd opening noSection

/-- A text goes the course of what is left after a part of it has been said. -/
theorem of_yields {said rest : List Char} (yields : Yields cs said rest)
    (suffix : rest <:+ cs) (course : Course rest) : Course cs := by
  cases course with
  | apart apart => exact .apart (yields.trans apart).apart
  | opens goesOn unclosed heavy opening =>
    refine .opens (yields.trans goesOn) unclosed ?_ (opening.trans suffix.isInfix)
    rw [weight_append]
    omega

end Course

/-- Up to its first bracket a text without ampersands is plain. -/
theorem exists_plain_of_dropWhile {cs rest : List Char} {c : Char} (noReference : '&' ∉ cs)
    (starts : cs.dropWhile (fun c => c != '<') = c :: rest) :
    c = '<' ∧ ∃ chars, cs = chars ++ '<' :: rest ∧ ∀ d ∈ chars, isPlain d = true := by
  have parts := List.takeWhile_append_dropWhile (p := fun c => c != '<') (l := cs)
  have isBracket := List.head?_dropWhile_not (fun c => c != '<') cs
  rw [starts] at parts isBracket
  obtain rfl : c = '<' := by simpa using isBracket
  refine ⟨rfl, cs.takeWhile fun c => c != '<', parts.symm, fun d mem => ?_⟩
  have noTag := List.mem_takeWhile_imp mem
  have inText := (List.takeWhile_prefix _).subset mem
  simp only [isPlain, Bool.and_eq_true]
  exact ⟨noTag, by rw [bne_iff_ne]; exact fun eq => noReference (eq ▸ inText)⟩

/-- What is left of markup is decoded by itself or leaves a section open. -/
theorem course_of_remainder {cs : List Char} (remainder : Remainder cs) (noReference : '&' ∉ cs) :
    Course cs := by
  -- by the recursion of decoding: what it goes on with comes after a closing bracket again
  induction cs using decodeText.induct with
  | case1 cs ends =>
    have noTag : '<' ∉ cs := fun mem => by simpa using List.dropWhile_eq_nil_iff.mp ends '<' mem
    have yields := yields_plain (isPlain_of_not_mem noTag noReference) []
    rw [List.append_nil] at yields
    exact .apart yields.apart
  | case2 cs c rest starts shorter ih =>
    obtain ⟨rfl, chars, rfl, plain⟩ := exists_plain_of_dropWhile noReference starts
    have front := yields_plain plain ('<' :: rest)
    have noReference' : '&' ∉ '<' :: rest := fun mem => noReference (List.mem_append_right _ mem)
    by_cases opens : cdataOpening <+: '<' :: rest
    · obtain ⟨inner, text⟩ := opens
      rw [← text] at front remainder noReference' ih ⊢
      cases found : splitAtFirst? "]]>".toList inner with
      | none => exact .opens front found remainder.heavy ⟨chars, inner, by simp⟩
      | some halves =>
        -- the section is closed, and decoding goes on after it
        obtain ⟨body, after⟩ := halves
        rw [skipMarkup_cdataOpening, found, Option.getD_some] at ih
        have whole := eq_of_splitAtFirst? found
        have later : after <:+ cdataOpening ++ inner :=
          ⟨cdataOpening ++ body ++ "]]>".toList, by simp [whole]⟩
        have left : Remainder after := by
          rw [whole] at remainder
          exact @Remainder.after (chars ++ cdataOpening ++ body ++ "]]".toList) after
            (by simpa using remainder)
        exact (ih left fun mem => noReference' (later.subset mem)).of_yields
          (front.trans (yields_closed found)) (later.trans (List.suffix_append _ _))
    · -- anything else is passed over up to a closing bracket, and there is one
      have closes : '>' ∈ '<' :: rest := by
        obtain ⟨init, eq⟩ := remainder.exists_concat_of_append (List.cons_ne_nil '<' rest)
        rw [eq]
        exact List.mem_concat_self
      obtain ⟨before, eq⟩ := eq_append_afterBracket closes
      have passed := skipMarkup_markup opens closes []
      rw [List.append_nil, List.append_nil] at passed
      rw [passed] at ih
      have later := afterBracket_suffix ('<' :: rest)
      have left : Remainder (afterBracket ('<' :: rest)) := by
        rw [eq, ← List.append_assoc] at remainder
        exact remainder.after
      exact (ih left fun mem => noReference' (later.subset mem)).of_yields
        (front.trans (yields_markup opens closes)) (later.trans (List.suffix_append _ _))

/-! ## Rows weigh no less than their character data -/

/-- In an open section a row weighs no less than its character data, up to the end of a section. -/
def Swallows (row : List Lexeme) : Prop :=
  ∀ inner, Unclosed inner → weight inner + weight (characterData row) ≤
    weight (decodeText (cdataOpening ++ (inner ++ written row))) + 5

/-- A text and a row after it weigh no less than the character data of the row. -/
structure Outweighs (cs : List Char) (row : List Lexeme) : Prop where
  le : weight (characterData row) ≤ weight (decodeText (cs ++ written row))
  /-- They weigh the same only if nothing is said but the character data. -/
  silent : weight (characterData row) = weight (decodeText (cs ++ written row)) →
    decodeText cs = [] ∧ ∀ l ∈ row, decodeText (leftover l) = []

section Steps

variable {l : Lexeme} {row : List Lexeme}

theorem swallows_nil : Swallows [] := by
  intro inner unclosed
  simp [decodeText_unclosed unclosed, characterData]

/-- In an open section a CDATA section is text up to its end. -/
theorem splitAtFirst?_cdata {inner body : List Char} (unclosed : Unclosed inner)
    (isBody : IsBody body) :
    splitAtFirst? "]]>".toList (inner ++ (cdataOpening ++ body ++ "]]>".toList)) =
      some (inner ++ (cdataOpening ++ body), []) := by
  have opening : cdataOpening ++ body ++ "]]>".toList =
      '<' :: ("![CDATA".toList ++ '[' :: (body ++ "]]>".toList)) := rfl
  have closed := isBody []
  rw [List.append_nil] at closed
  rw [opening, splitAtFirst?_append_of_none unclosed (by decide),
    splitAtFirst?_append_of_none (by decide) (by decide), closed]
  rfl

/-- A section that stays open goes on with a lexeme, or is closed in it. -/
theorem swallows_cons (shape : Shape l) (noReference : '&' ∉ l.2) (goesOn : Swallows row)
    (ends : ∀ cs, Remainder cs → '&' ∉ cs →
      weight (characterData row) ≤ weight (decodeText (cs ++ written row))) :
    Swallows (l :: row) := by
  intro inner unclosed
  have text : inner ++ written (l :: row) = inner ++ l.2 ++ written row := by
    simp [written]
  rw [weight_characterData_cons, text]
  cases found : splitAtFirst? "]]>".toList (inner ++ l.2) with
  | none =>
    -- all of the lexeme is in the section, and its data is no more than that
    have later := goesOn _ found
    have := weight_dataOf_le shape
    rw [weight_append] at later
    omega
  | some halves =>
    obtain ⟨said, after⟩ := halves
    have yields := yields_closed found (written row)
    rw [List.append_assoc] at yields
    rw [yields, weight_append]
    have behind := suffix_of_splitAtFirst? unclosed found
    have left := fun remainder => ends after remainder fun mem => noReference (behind.subset mem)
    cases shape with
    | @characters chars noTag =>
      -- no more than the end of the section is lost
      have weights := congrArg weight (eq_of_splitAtFirst? found)
      rw [weight_append inner chars, weight_append, weight_append, weight_closing] at weights
      have plain := isPlain_of_not_mem noTag noReference
      rw [decodeText_append_of_isPlain fun c mem => plain c (behind.subset mem), weight_append]
      have alone := ends [] .nil List.not_mem_nil
      rw [List.nil_append] at alone
      change weight inner + (weight chars + _) ≤ _
      omega
    | reference => exact absurd List.mem_cons_self noReference
    | @cdata body isBody =>
      -- the section is closed where the one that is not seen in it ends
      rw [splitAtFirst?_cdata unclosed isBody] at found
      obtain ⟨rfl, rfl⟩ := Prod.mk.inj (Option.some.inj found)
      have alone := left .nil
      rw [dataOf_cdata, weight_append, weight_append]
      omega
    | @markup token body isMarkup _ marked =>
      -- the section is closed in the lexeme, and what is behind it is left
      rw [splitAtFirst?_append_of_none unclosed (by decide)] at found
      obtain ⟨⟨before, after⟩, within, eq⟩ := Option.map_eq_some_iff.mp found
      obtain ⟨rfl, rfl⟩ := Prod.mk.inj eq
      have whole : '<' :: body ++ ['>'] = '<' :: before ++ "]]".toList ++ '>' :: after := by
        rw [List.cons_append, eq_of_splitAtFirst? within]
        simp
      have later := left (marked.remainder whole)
      rw [dataOf_of_isMarkup isMarkup, weight_nil, weight_append]
      omega

theorem outweighs_nil : Outweighs [] [] := by
  constructor <;> simp [characterData, decodeText_nil]

theorem outweighs_cons (shape : Shape l) (noReference : '&' ∉ l.2)
    (left : Outweighs (leftover l) row) : Outweighs [] (l :: row) := by
  have decoded : weight (decodeText ([] ++ written (l :: row))) =
      weight (dataOf l) + weight (decodeText (leftover l ++ written row)) := by
    rw [← weight_append, ← yields_lexeme shape noReference]
    rfl
  have data := weight_characterData_cons l row
  have le := left.le
  refine ⟨by omega, fun same => ⟨decodeText_nil, ?_⟩⟩
  exact List.forall_mem_cons.mpr (left.silent (by omega))

/-- What a text does to the row after it depends on its course. -/
theorem Course.outweighs {cs : List Char} (course : Course cs)
    (swallows : Swallows row) (alone : Outweighs [] row) : Outweighs cs row := by
  have le := alone.le
  cases course with
  | apart apart =>
    have decoded : weight (decodeText (cs ++ written row)) =
        weight (decodeText cs) + weight (decodeText ([] ++ written row)) := by
      rw [apart, weight_append]
    refine ⟨by omega, fun same => ⟨weight_eq_zero.mp (by omega), ?_⟩⟩
    exact (alone.silent (by omega)).2
  | @opens said inner yields unclosed heavy =>
    have swallowed := swallows inner unclosed
    have decoded : weight (decodeText (cs ++ written row)) =
        weight said + weight (decodeText (cdataOpening ++ (inner ++ written row))) := by
      rw [yields, weight_append, List.append_assoc]
    exact ⟨by omega, fun same => by omega⟩

end Steps

/-- A row of lexemes weighs no less than its character data, in an open section and after a
remainder. -/
theorem outweighs_written {row : List Lexeme} (shapes : ∀ l ∈ row, Shape l)
    (noReference : '&' ∉ written row) :
    Swallows row ∧ ∀ cs, Remainder cs → '&' ∉ cs → Outweighs cs row := by
  -- the two go together: a section that is closed in a lexeme leaves a remainder of it, and a
  -- remainder may leave a section open
  induction row with
  | nil =>
    exact ⟨swallows_nil, fun cs remainder noReference =>
      (course_of_remainder remainder noReference).outweighs swallows_nil outweighs_nil⟩
  | cons l row ih =>
    obtain ⟨shape, shapes⟩ := List.forall_mem_cons.mp shapes
    have parts : written (l :: row) = l.2 ++ written row := rfl
    rw [parts, List.mem_append, not_or] at noReference
    obtain ⟨goesOn, outweighs⟩ := ih shapes noReference.2
    have swallows := swallows_cons shape noReference.1 goesOn fun cs remainder noReference' =>
      (outweighs cs remainder noReference').le
    have left := outweighs (leftover l) (remainder_leftover shape) fun mem =>
      noReference.1 ((leftover_suffix l).subset mem)
    exact ⟨swallows, fun cs remainder noReference' =>
      (course_of_remainder remainder noReference').outweighs swallows
        (outweighs_cons shape noReference.1 left)⟩

/-! ## What elements say -/

theorem course_leftover {row : List Lexeme} (shapes : ∀ l ∈ row, Shape l)
    (noReference : '&' ∉ written row) {l : Lexeme} (mem : l ∈ row) : Course (leftover l) := by
  refine course_of_remainder (remainder_leftover (shapes l mem)) fun reference => noReference ?_
  exact List.mem_flatMap.mpr ⟨l, mem, (leftover_suffix l).subset reference⟩

/-- A row of lexemes without references says its character data exactly if nothing is said by what
is left of any of them. -/
theorem decodeText_eq_characterData_iff {row : List Lexeme} (shapes : ∀ l ∈ row, Shape l)
    (noReference : '&' ∉ written row) :
    decodeText (written row) = characterData row ↔ ∀ l ∈ row, decodeText (leftover l) = [] := by
  constructor
  · intro same
    have outweighs := (outweighs_written shapes noReference).2 [] .nil List.not_mem_nil
    exact (outweighs.silent (by rw [List.nil_append, same])).2
  · intro silent
    have apart : ∀ l ∈ row, Apart (leftover l) := fun l mem =>
      (course_leftover shapes noReference mem).apart_of_silent (silent l mem)
    rw [decodeText_written shapes noReference apart]
    refine List.flatMap_congr fun l mem => ?_
    rw [heard, silent l mem, List.append_nil]

/-- The text that is decoded from what is inside an element, against its character data. -/
structure Hears (inside : List Lexeme) (text : String) : Prop where
  /-- The character data is all that is said exactly if nothing is said by what is left of tags,
  comments, instructions and declarations. -/
  faithful : text = String.ofList (characterData inside) ↔
    ∀ l ∈ inside, decodeText (leftover l) = []
  /-- Otherwise what is left comes in addition, if no section is opened in it. -/
  added : (∀ l ∈ inside, ¬ cdataOpening <:+: leftover l) →
    text = String.ofList (inside.flatMap heard)

theorem hears_decodeText {inside : List Lexeme} (shapes : ∀ l ∈ inside, Shape l)
    (noReference : '&' ∉ written inside) :
    Hears inside (String.ofList (decodeText (written inside))) := by
  constructor
  · rw [String.ofList_inj]
    exact decodeText_eq_characterData_iff shapes noReference
  · intro noSection
    rw [decodeText_written shapes noReference fun l mem =>
      (course_leftover shapes noReference mem).apart_of_noSection (noSection l mem)]

theorem Subtree.mem {group inside : List Lexeme} (subtree : Subtree group inside) {l : Lexeme}
    (mem : l ∈ inside) : l ∈ group := by
  cases subtree with
  | empty => contradiction
  | closed => simp [mem]
  | unclosed => simp [mem]

/-- The children of a document are stretches of the lexemes of its text. An element whose content
has no ampersand says its character data, and what is left of the other lexemes inside. -/
def ElementsHeard (text : List Char) (doc : Document) : Prop :=
  ∃ before groups rest, (lexemes text).1 = before ++ groups.flatten ++ rest ∧
    List.Forall₂ (fun group child => child.markup = String.ofList (written group) ∧
      (child.kind = .element → ∃ inside, Subtree group inside ∧
        ('&' ∉ written inside → Hears inside child.text))) groups doc.children

/-- In a document that does not begin with two byte order marks, an element without ampersands says
its character data and nothing else exactly if nothing is said by what stands after the first
closing bracket of the tags, comments, instructions and declarations inside. -/
theorem Document.read_characterData {text : String} {doc : Document}
    (single : ¬ [byteOrderMark, byteOrderMark] <+: text.toList)
    (read : Document.read text = .ok doc) : ElementsHeard (withoutMark text.toList) doc := by
  have holds := (Document.ofChars_ok_iff single).mp read
  obtain ⟨before, groups, rest, parts, spans⟩ := holds.groups
  have shapes : ∀ l ∈ before ++ groups.flatten ++ rest, Shape l := by
    intro l mem
    rw [← parts] at mem
    obtain ⟨_, _, h⟩ := exists_scan_of_mem mem
    exact shape_of_scan h
  refine ⟨before, groups, rest, parts, ?_⟩
  -- each child is decoded from lexemes of the text
  rw [List.forall₂_iff_zip] at spans ⊢
  refine ⟨spans.1, fun {group child} mem => ?_⟩
  have here := spans.2 mem
  refine ⟨here.markup, fun element => ?_⟩
  obtain ⟨inside, subtree, text⟩ := here.element element
  refine ⟨inside, subtree, fun noReference => ?_⟩
  rw [text]
  refine hears_decodeText (fun l within => shapes l ?_) noReference
  have inGroups := List.mem_flatten_of_mem (List.of_mem_zip mem).1 (subtree.mem within)
  exact List.mem_append_left _ (List.mem_append_right _ inGroups)

/-- A title with brackets in a comment and in a value, both of which are heard, and an element that
says its character data only. -/
theorem Document.read_characterData_of_title :
    let content := "A<!-- > --><b c='>'/>B<![CDATA[<C>]]>"
    let text := "<svg><title>" ++ content ++ "</title><g>D<!-- - -->E</g></svg>"
    ∃ doc, Document.read text = .ok doc ∧
      doc.children.map Node.text = ["A -->'/>B<C>", "DE"] ∧
      characterData (lexemes content.toList).1 = "AB<C>".toList ∧
      (lexemes content.toList).1.map leftover = [[], " -->".toList, "'/>".toList, [], []] ∧
      ElementsHeard (withoutMark text.toList) doc := by
  intro content text
  have texts : ((Document.read text).toOption.map fun doc => doc.children.map Node.text) =
      some ["A -->'/>B<C>", "DE"] := by
    decide +kernel
  cases read : Document.read text with
  | error e => simp [read, Except.toOption] at texts
  | ok doc =>
    rw [read] at texts
    exact ⟨doc, rfl, Option.some.inj texts, by decide +kernel, by decide +kernel,
      Document.read_characterData (by decide +kernel) read⟩

end IconForge.Markup
