import IconForge.Proofs.Markup.Decoding

/-!
# References are replaced run by run

Character data is a row of pieces: plain text, references that stand for a character, by name or by
number, and references with a name that stands for none. A piece by itself is decoded as one
expects, to its character or as it is written. A run of pieces is decoded piece by piece only as
long as all of its references are understood. A single one that is not leaves the whole run as it is
written, also the references next to it.

So what a reference comes to depends on what else stands in its run, and characters that are joined
into one node do not always say what they say apart.

## Main statements

- `readDigits?_numeral`: numerals in both bases are read as the numbers they write.
- `Piece.unescape?_written`: one piece, before anything else.
- `decodeText_writtenRun`: a run.
- `decodeText_writtenRun_eq_iff`: when a run says what its pieces say.
- `textOf_joinCharacters_eq_iff`: when joined runs say what they say apart.
- `references_replaced_by_runs`: pieces, runs, and runs that are joined.
-/

namespace IconForge.Markup

open IconForge.Text

/-! ## Numerals -/

/-- The bases in which a reference can write the code of a character. -/
inductive Base where
  | decimal | hexadecimal

namespace Base

def value : Base → Nat
  | decimal => 10
  | hexadecimal => 16

/-- What stands between the number sign and the digits. -/
def mark : Base → List Char
  | decimal => []
  | hexadecimal => ['x']

end Base

/-- A digit, its letter in either case. -/
structure Digit (base : Base) where
  value : Fin base.value
  capital : Bool

def Digit.char {base : Base} (d : Digit base) : Char :=
  if d.capital then (Nat.digitChar d.value).toUpper else Nat.digitChar d.value

/-- Digits in a row, the highest first; there may be zeros in front. -/
structure Numeral where
  base : Base
  digits : List (Digit base)

namespace Numeral

def value (n : Numeral) : Nat :=
  Nat.ofDigits n.base.value (n.digits.map fun d => d.value.val).reverse

/-- The numeral with the signs before it. -/
def written (n : Numeral) : List Char := '#' :: (n.base.mark ++ n.digits.map Digit.char)

end Numeral

theorem digitOf?_char {base : Base} (d : Digit base) :
    digitOf? base.value d.char = some d.value.val := by
  have all (base : Base) : ∀ (n : Fin base.value) (capital : Bool),
      digitOf? base.value (Digit.char ⟨n, capital⟩) = some n.val := by
    cases base <;> decide +kernel
  exact all base d.value d.capital

/-- What is no digit is not among the digits of a numeral. -/
theorem not_mem_map_char {base : Base} (digits : List (Digit base)) {c : Char}
    (other : digitOf? base.value c = none) : c ∉ digits.map Digit.char := by
  intro mem
  obtain ⟨d, -, rfl⟩ := List.mem_map.mp mem
  rw [digitOf?_char] at other
  contradiction

/-- Reading digits one after the other goes on from the number that has been read before them. -/
theorem foldlM_digits {base : Base} (digits : List (Digit base)) (before : Nat) :
    (digits.map Digit.char).foldlM (fun value c =>
        (digitOf? base.value c).map fun digit => value * base.value + digit) before =
      some ((digits.map fun d => d.value.val).foldl (fun n digit => n * base.value + digit)
        before) := by
  induction digits generalizing before with
  | nil => rfl
  | cons d digits ih =>
    rw [List.map_cons, List.foldlM_cons, digitOf?_char]
    exact ih _

/-- Numerals are read as the numbers they write. -/
theorem readDigits?_numeral {n : Numeral} (filled : n.digits ≠ []) :
    readDigits? n.base.value (n.digits.map Digit.char) = some n.value := by
  have notEmpty : ¬ (n.digits.map Digit.char).isEmpty = true := by simpa using filled
  have value : n.value =
      (n.digits.map fun d => d.value.val).foldl (fun m digit => m * n.base.value + digit) 0 := by
    rw [Numeral.value, Nat.ofDigits_eq_foldr, List.foldr_reverse]
    congr 1
    funext m digit
    rw [Nat.mul_comm, Nat.add_comm]
    rfl
  rw [readDigits?, if_neg notEmpty, foldlM_digits, value]

/-- The code of a character other than the null character is that of the character. -/
theorem characterOfCode?_toNat {c : Char} (notNull : c ≠ '\x00') :
    characterOfCode? c.toNat = some c := by
  have valid : c.toNat.isValidChar := c.valid
  have nonzero : c.toNat ≠ 0 := by
    intro zero
    apply notNull
    rw [← Char.ofNat_toNat c, zero]
  rw [characterOfCode?, if_pos ⟨nonzero, valid⟩, Char.ofNat_toNat]

/-- A reference by number stands for the character with that code. -/
theorem referenced?_numeral {n : Numeral} {c : Char} (isCode : n.value = c.toNat)
    (notNull : c ≠ '\x00') : referenced? n.written = some c := by
  have code := characterOfCode?_toNat notNull
  rw [← isCode] at code
  have filled : n.digits ≠ [] := by
    intro none
    simp [Numeral.value, none, characterOfCode?] at code
  have read := readDigits?_numeral filled
  obtain ⟨base, digits⟩ := n
  cases base with
  | hexadecimal =>
    show (readDigits? 16 (digits.map Digit.char)).bind characterOfCode? = some c
    rw [show readDigits? 16 (digits.map Digit.char) = _ from read]
    exact code
  | decimal =>
    -- no decimal digit is the letter that announces a hexadecimal numeral
    have noMark : 'x' ∉ digits.map Digit.char :=
      not_mem_map_char digits (show digitOf? 10 'x' = none by decide)
    show referenced? ('#' :: digits.map Digit.char) = some c
    rw [referenced?]
    · rw [show readDigits? 10 (digits.map Digit.char) = _ from read]
      exact code
    · intro more hexadecimal
      exact noMark (hexadecimal ▸ List.mem_cons_self)

/-! ## Pieces -/

/-- The names that stand for a character. -/
inductive Predefined where
  | lt | gt | amp | apos | quot

namespace Predefined

def name : Predefined → String
  | lt => "lt"
  | gt => "gt"
  | amp => "amp"
  | apos => "apos"
  | quot => "quot"

def char : Predefined → Char
  | lt => '<'
  | gt => '>'
  | amp => '&'
  | apos => '\x27'
  | quot => '"'

end Predefined

/-- A piece of character data. -/
inductive Piece where
  /-- Characters that are neither brackets nor ampersands. -/
  | text (chars : List Char) (plain : ∀ c ∈ chars, isPlain c = true)
  | named (name : Predefined)
  /-- A reference to a character by its code. -/
  | numeric (n : Numeral) (c : Char) (isCode : n.value = c.toNat) (notNull : c ≠ '\x00')
  /-- A reference with a name that stands for nothing. -/
  | unknown (name : List Char) (inside : ∀ c ∈ name, c ≠ ';' ∧ c ≠ '&' ∧ c ≠ '<')
    (noNumber : name.head? ≠ some '#') (other : ∀ p : Predefined, p.name.toList ≠ name)

namespace Piece

/-- A reference with this text between its ampersand and its semicolon. -/
def reference (inside : List Char) : List Char := '&' :: (inside ++ [';'])

def written : Piece → List Char
  | text chars _ => chars
  | named name => reference name.name.toList
  | numeric n .. => reference n.written
  | unknown name .. => reference name

/-- What a piece says: a reference that is not understood says what is written. -/
def said : Piece → List Char
  | text chars _ => chars
  | named name => [name.char]
  | numeric _ c .. => [c]
  | unknown name .. => reference name

def isUnderstood : Piece → Bool
  | unknown .. => false
  | _ => true

def isText : Piece → Bool
  | text .. => true
  | _ => false

end Piece

/-- A run of pieces as it is written. -/
def writtenRun (run : List Piece) : List Char := run.flatMap Piece.written

/-- What the pieces of a run say, each by itself. -/
def saidRun (run : List Piece) : List Char := run.flatMap Piece.said

/-- All references of a run are understood. -/
def isUnderstoodRun (run : List Piece) : Bool := run.all Piece.isUnderstood

/-! ## Decoding pieces -/

theorem referenced?_predefined (p : Predefined) : referenced? p.name.toList = some p.char := by
  cases p <;> rfl

theorem predefined_name_inside (p : Predefined) :
    ∀ c ∈ p.name.toList, c ≠ ';' ∧ c ≠ '&' ∧ c ≠ '<' := by
  cases p <;> simp [Predefined.name]

/-- A name that is none of the predefined ones stands for nothing. -/
theorem referenced?_unknown {name : List Char} (noNumber : name.head? ≠ some '#')
    (other : ∀ p : Predefined, p.name.toList ≠ name) : referenced? name = none := by
  have ne (p : Predefined) : String.ofList name ≠ p.name := by
    intro same
    apply other p
    rw [← same, String.toList_ofList]
  have missing : predefined.lookup (String.ofList name) = none := by
    have lt := ne .lt
    have gt := ne .gt
    have amp := ne .amp
    have apos := ne .apos
    have quot := ne .quot
    simp only [Predefined.name] at lt gt amp apos quot
    simp [predefined, List.lookup, beq_eq_false_iff_ne.mpr, lt, gt, amp, apos, quot]
  rw [referenced?]
  · exact missing
  · rintro digits rfl
    exact noNumber rfl
  · rintro digits rfl
    exact noNumber rfl

theorem Numeral.written_inside (n : Numeral) : ∀ c ∈ n.written, c ≠ ';' ∧ c ≠ '&' ∧ c ≠ '<' := by
  have outside : ∀ c ∈ [';', '&', '<'], digitOf? n.base.value c = none := by
    cases n.base <;> simp [digitOf?, digitValue?, Base.value]
  have marks : ∀ c ∈ n.base.mark, c ≠ ';' ∧ c ≠ '&' ∧ c ≠ '<' := by
    cases n.base <;> simp [Base.mark]
  intro c mem
  rcases List.mem_cons.mp mem with rfl | mem
  · decide
  · rcases List.mem_append.mp mem with mark | digit
    · exact marks c mark
    · refine ⟨?_, ?_, ?_⟩ <;> rintro rfl
      all_goals exact not_mem_map_char n.digits (outside _ (by decide)) digit

/-- A reference is replaced by what it stands for, or there is no way to replace it. -/
theorem unescape?_writtenReference {name : List Char}
    (inside : ∀ c ∈ name, c ≠ ';' ∧ c ≠ '&' ∧ c ≠ '<') (rest : List Char) :
    unescape? (Piece.reference name ++ rest) =
      (referenced? name).bind fun c => (unescape? rest).map (c :: ·) := by
  have closed := unescape?_named name (fun c mem => ⟨(inside c mem).1, (inside c mem).2.1⟩) rest
  simpa [Piece.reference] using closed

/-- A piece that is understood is replaced by what it says, whatever comes after it. One that is not
leaves nothing to be replaced. -/
theorem Piece.unescape?_written (p : Piece) (rest : List Char) :
    unescape? (p.written ++ rest) =
      if p.isUnderstood then (unescape? rest).map (p.said ++ ·) else none := by
  cases p with
  | text chars plain => exact unescape?_append_of_isPlain plain rest
  | named name =>
    rw [written, unescape?_writtenReference (predefined_name_inside name),
      referenced?_predefined]
    rfl
  | numeric n c isCode notNull =>
    rw [written, unescape?_writtenReference n.written_inside, referenced?_numeral isCode notNull]
    rfl
  | unknown name inside noNumber other =>
    rw [written, unescape?_writtenReference inside, referenced?_unknown noNumber other]
    rfl

/-! ## Decoding runs -/

theorem unescape?_writtenRun (run : List Piece) :
    unescape? (writtenRun run) = if isUnderstoodRun run then some (saidRun run) else none := by
  induction run with
  | nil =>
    simp [writtenRun, saidRun, isUnderstoodRun, unescape?]
  | cons p run ih =>
    have here := p.unescape?_written (writtenRun run)
    rw [ih] at here
    have parts : writtenRun (p :: run) = p.written ++ writtenRun run := rfl
    have said : saidRun (p :: run) = p.said ++ saidRun run := rfl
    have understood : isUnderstoodRun (p :: run) = (p.isUnderstood && isUnderstoodRun run) := rfl
    rw [parts, here, said, understood]
    cases p.isUnderstood <;> cases isUnderstoodRun run <;> rfl

theorem not_mem_reference {name : List Char} (inside : ∀ c ∈ name, c ≠ ';' ∧ c ≠ '&' ∧ c ≠ '<') :
    '<' ∉ Piece.reference name := by
  intro mem
  rcases List.mem_cons.mp mem with eq | mem
  · exact absurd eq (by decide)
  · rcases List.mem_append.mp mem with mem | last
    · exact (inside _ mem).2.2 rfl
    · exact absurd (List.mem_singleton.mp last) (by decide)

theorem Piece.not_mem_written (p : Piece) : '<' ∉ p.written := by
  cases p with
  | text chars plain =>
    intro mem
    exact absurd (plain _ mem) (by decide)
  | named name => exact not_mem_reference (predefined_name_inside name)
  | numeric n => exact not_mem_reference n.written_inside
  | unknown name inside => exact not_mem_reference inside

/-- A run says what its pieces say, or all of it stays as it is written. -/
theorem decodeText_writtenRun (run : List Piece) :
    decodeText (writtenRun run) = if isUnderstoodRun run then saidRun run else writtenRun run := by
  have noTag : '<' ∉ writtenRun run := by
    intro mem
    obtain ⟨p, -, here⟩ := List.mem_flatMap.mp mem
    exact p.not_mem_written here
  rw [decodeText_of_not_mem noTag, unescape, unescape?_writtenRun]
  cases isUnderstoodRun run <;> rfl

/-! ## Joining runs -/

namespace Piece

/-- A reference that is replaced gets shorter. -/
theorem length_said_le (p : Piece) : p.said.length ≤ p.written.length := by
  cases p <;> simp [said, written, reference]

theorem said_eq_written_iff (p : Piece) : p.said = p.written ↔ (p.isUnderstood → p.isText) := by
  cases p with
  | text | unknown => simp [said, written, isUnderstood, isText]
  | named | numeric =>
    simp only [isUnderstood, isText, true_implies, Bool.false_eq_true, iff_false]
    intro same
    have lengths := congrArg List.length same
    simp [said, written, reference] at lengths

end Piece

/-- A run says what is written if its references are not understood. -/
theorem saidRun_eq_writtenRun_iff (run : List Piece) :
    saidRun run = writtenRun run ↔ ∀ p ∈ run, p.isUnderstood → p.isText := by
  rw [saidRun, writtenRun, flatMap_eq_flatMap_iff fun p _ => p.length_said_le]
  exact forall₂_congr fun p _ => p.said_eq_written_iff

theorem length_decodeText_writtenRun_le (run : List Piece) :
    (decodeText (writtenRun run)).length ≤ (writtenRun run).length := by
  rw [decodeText_writtenRun]
  split
  · rw [saidRun, writtenRun, List.length_flatMap, List.length_flatMap]
    exact List.sum_le_sum fun p _ => p.length_said_le
  · rfl

/-- A run as a node of its own. -/
def nodeOfRun (run : List Piece) : Node := .characters (String.ofList (writtenRun run))

/-- What some nodes say, one after the other. -/
def textOf (nodes : List Node) : List Char := nodes.flatMap fun node => node.text.toList

/-- Runs in a row are joined into one run. -/
theorem textOf_joinCharacters (runs : List (List Piece)) :
    textOf (Node.joinCharacters none (runs.map nodeOfRun)) =
      decodeText (writtenRun runs.flatten) := by
  have joined (before : List Char) (more : List (List Piece)) :
      Node.joinCharacters (some (String.ofList before)) (more.map nodeOfRun) =
        [.characters (String.ofList (before ++ writtenRun more.flatten))] := by
    induction more generalizing before with
    | nil => simp [Node.joinCharacters, writtenRun]
    | cons run more ih =>
      rw [List.map_cons, nodeOfRun, Node.joinCharacters, Option.getD_some, ← String.ofList_append,
        ih]
      simp [writtenRun]
  cases runs with
  | nil => simp [Node.joinCharacters, textOf, writtenRun, decodeText_nil]
  | cons run more =>
    have all := joined (writtenRun run) more
    rw [List.map_cons, nodeOfRun, Node.joinCharacters, Option.getD_none, String.empty_append, all]
    simp [textOf, Node.text, writtenRun]

theorem textOf_map_nodeOfRun (runs : List (List Piece)) :
    textOf (runs.map nodeOfRun) = runs.flatMap fun run => decodeText (writtenRun run) := by
  simp [textOf, nodeOfRun, Node.text, List.flatMap_map]

/-- A piece by itself is decoded to what it says. -/
theorem Piece.decodeText_written (p : Piece) : decodeText p.written = p.said := by
  have alone := decodeText_writtenRun [p]
  simp only [writtenRun, saidRun, isUnderstoodRun, List.flatMap_singleton, List.all_cons,
    List.all_nil, Bool.and_true] at alone
  rw [alone]
  split
  · rfl
  · rename_i unknown
    exact (p.said_eq_written_iff.mpr fun understood => absurd understood unknown).symm

/-- A run is decoded piece by piece if all of its references are understood or none is. -/
theorem decodeText_writtenRun_eq_iff (run : List Piece) :
    decodeText (writtenRun run) = run.flatMap (fun p => decodeText p.written) ↔
      isUnderstoodRun run ∨ ∀ p ∈ run, p.isUnderstood → p.isText := by
  have pieces : (run.flatMap fun p => decodeText p.written) = saidRun run :=
    List.flatMap_congr fun p _ => p.decodeText_written
  rw [pieces, decodeText_writtenRun]
  cases understood : isUnderstoodRun run with
  | true => simp
  | false =>
    rw [if_neg Bool.false_ne_true, eq_comm, saidRun_eq_writtenRun_iff]
    simp

/-- Runs that are joined say what they say apart if all of them are understood, or those that are
hold no reference. -/
theorem textOf_joinCharacters_eq_iff (runs : List (List Piece)) :
    textOf (Node.joinCharacters none (runs.map nodeOfRun)) = textOf (runs.map nodeOfRun) ↔
      (∀ run ∈ runs, isUnderstoodRun run) ∨
        ∀ run ∈ runs, isUnderstoodRun run → ∀ p ∈ run, p.isText := by
  have written : writtenRun runs.flatten = runs.flatMap writtenRun := by
    rw [writtenRun, ← List.flatMap_id, List.flatMap_assoc]
    rfl
  have said : saidRun runs.flatten = runs.flatMap saidRun := by
    rw [saidRun, ← List.flatMap_id, List.flatMap_assoc]
    rfl
  rw [textOf_joinCharacters, textOf_map_nodeOfRun, decodeText_writtenRun]
  by_cases understood : ∀ run ∈ runs, isUnderstoodRun run = true
  · -- all runs are decoded piece by piece, joined or apart
    have all : isUnderstoodRun runs.flatten = true := by
      simpa [isUnderstoodRun] using understood
    have apart : (runs.flatMap fun run => decodeText (writtenRun run)) =
        runs.flatMap saidRun := by
      refine List.flatMap_congr fun run mem => ?_
      rw [decodeText_writtenRun, understood run mem, if_pos rfl]
    rw [all, if_pos rfl, apart, said]
    exact iff_of_true rfl (Or.inl understood)
  · -- joined they stay as they are written, and apart the ones that are understood do not
    have notAll : isUnderstoodRun runs.flatten = false := by
      simpa [isUnderstoodRun] using understood
    rw [notAll, if_neg Bool.false_ne_true, written, eq_comm,
      flatMap_eq_flatMap_iff fun run _ => length_decodeText_writtenRun_le run,
      or_iff_right understood]
    refine forall₂_congr fun run _ => ?_
    rw [decodeText_writtenRun]
    cases here : isUnderstoodRun run with
    | false => simp
    | true =>
      have allHere : ∀ p ∈ run, p.isUnderstood = true := List.all_eq_true.mp here
      have text : (∀ p ∈ run, p.isUnderstood → p.isText) ↔ ∀ p ∈ run, p.isText :=
        forall₂_congr fun p mem => imp_iff_right (allHere p mem)
      rw [if_pos rfl, saidRun_eq_writtenRun_iff, text]
      exact (imp_iff_right rfl).symm

/-- The pieces of a run are decoded to what they say, each by itself. The run is decoded piece by
piece if all of its references are understood, and stays as it is written if one is not, so that
the two agree if and only if all are understood or none is. For the same reason runs that are joined
say what they say apart if and only if all of them are understood, or those that are hold no
reference. -/
theorem references_replaced_by_runs (run : List Piece) (runs : List (List Piece)) :
    (∀ p ∈ run, decodeText p.written = p.said) ∧
      decodeText (writtenRun run) =
        (if isUnderstoodRun run then saidRun run else writtenRun run) ∧
      (decodeText (writtenRun run) = run.flatMap (fun p => decodeText p.written) ↔
        isUnderstoodRun run ∨ ∀ p ∈ run, p.isUnderstood → p.isText) ∧
      (textOf (Node.joinCharacters none (runs.map nodeOfRun)) = textOf (runs.map nodeOfRun) ↔
        (∀ run ∈ runs, isUnderstoodRun run) ∨
          ∀ run ∈ runs, isUnderstoodRun run → ∀ p ∈ run, p.isText) :=
  ⟨fun p _ => p.decodeText_written, decodeText_writtenRun run, decodeText_writtenRun_eq_iff run,
    textOf_joinCharacters_eq_iff runs⟩

/-- A reference to a known name next to one that is not. -/
example : decodeText "&lt;".toList = ['<'] ∧
    decodeText "&lt;&foo;".toList = "&lt;&foo;".toList := by
  decide +kernel

end IconForge.Markup
