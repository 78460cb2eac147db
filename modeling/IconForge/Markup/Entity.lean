import IconForge.Text.Digits
import IconForge.Text.Search

/-!
# Character data

What a stretch of markup says once its references are replaced. `unescape?` replaces the
references of a run of characters and fails on the first one it does not know; `decodeText` reads a
whole stretch, in which tags say nothing and CDATA sections say what they hold.
-/

namespace IconForge.Markup

open IconForge.Text

/-! ## References -/

def predefined : List (String × Char) :=
  [("lt", '<'), ("gt", '>'), ("amp", '&'), ("apos", '\x27'), ("quot", '"')]

/-- The character with a code point, unless it is zero or none has it. -/
def characterOfCode? (code : Nat) : Option Char :=
  if code ≠ 0 ∧ code.isValidChar then some (Char.ofNat code) else none

/-- The character that the reference with this text between `&` and `;` stands for: decimal after
`#`, hexadecimal after `#x`, or a predefined name. -/
def referenced? : List Char → Option Char
  | '#' :: 'x' :: digits => (readDigits? 16 digits).bind characterOfCode?
  | '#' :: digits => (readDigits? 10 digits).bind characterOfCode?
  | name => predefined.lookup (String.ofList name)

/-- A run of characters with every reference replaced; none if an ampersand starts no reference or
an unknown one. -/
def unescape? : List Char → Option (List Char)
  | [] => some []
  | c :: cs =>
    if c == '&' then
      match h : cs.dropWhile fun c => c != ';' && c != '&' with
      | ';' :: rest =>
        have := length_lt_of_dropWhile_eq h
        (referenced? (cs.takeWhile fun c => c != ';' && c != '&')).bind fun c =>
          (unescape? rest).map (c :: ·)
      | _ => none
    else (unescape? cs).map (c :: ·)
termination_by cs => cs.length
decreasing_by
  · exact Nat.lt_succ_of_lt this
  · exact Nat.lt_succ_self cs.length

/-- A run of characters with its references replaced, or as it is written if one of them is not
understood. -/
def unescape (cs : List Char) : List Char := (unescape? cs).getD cs

/-! ## Stretches of markup -/

def cdataOpening : List Char := "<![CDATA[".toList

/-- What a text that begins at a bracket says, and what follows: a CDATA section says what it holds
(to the end of the text if it is not closed), any other markup nothing. -/
def skipMarkup (cs : List Char) : List Char × List Char :=
  if cdataOpening.isPrefixOf cs then
    (splitAtFirst? "]]>".toList (cs.drop cdataOpening.length)).getD
      (cs.drop cdataOpening.length, [])
  else ([], (cs.dropWhile fun c => c != '>').drop 1)

theorem length_skipMarkup_lt {cs : List Char} (h : cs ≠ []) :
    (skipMarkup cs).2.length < cs.length := by
  have pos := List.length_pos_iff.mpr h
  unfold skipMarkup
  split
  · cases hs : splitAtFirst? "]]>".toList (cs.drop cdataOpening.length) with
    | none => simpa using pos
    | some parts =>
      have := congrArg List.length (eq_of_splitAtFirst? hs)
      simp only [List.length_append, List.length_drop] at this
      simp only [Option.getD_some]
      have : "]]>".toList.length = 3 := rfl
      omega
  · have := (List.dropWhile_sublist (fun c => c != '>') (l := cs)).length_le
    simp only [List.length_drop]
    omega

/-- The character data of a stretch of markup: plain runs with their references replaced, CDATA
sections as they are, and nothing for what else stands between a `<` and the next `>`. -/
def decodeText (cs : List Char) : List Char :=
  let plain := unescape (cs.takeWhile fun c => c != '<')
  match h : cs.dropWhile fun c => c != '<' with
  | [] => plain
  | c :: rest =>
    have : (skipMarkup (c :: rest)).2.length < cs.length :=
      Nat.lt_of_le_of_lt (Nat.le_of_lt_succ (length_skipMarkup_lt (List.cons_ne_nil c rest)))
        (length_lt_of_dropWhile_eq h)
    plain ++ (skipMarkup (c :: rest)).1 ++ decodeText (skipMarkup (c :: rest)).2
termination_by cs.length

end IconForge.Markup
