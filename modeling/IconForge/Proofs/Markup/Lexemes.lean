import IconForge.Markup.Document
import Mathlib

/-!
# Reading without places

Tokens know their places as byte offsets, and documents are cut from the text by these. Here the
same row of tokens is seen without offsets: each token with its lexeme, the very characters it was
written with. The lexemes make up the text (`flatten_lexemes`), and placing them one after the other
gives the tokens back (`ofChars_eq_place`), so that what is cut between two tokens is known to be
the lexemes between them.

## Main statements

- `flatten_lexemes`: lexemes and what cannot be read make up the text.
- `Tokens.ofChars_eq_place`: tokens are lexemes with their places.
- `slice?_middle`, `cut_middle`: cutting where a part begins and ends gives that part.
- `Tokens.root_place`: the root is the first tag.
-/

namespace IconForge.Markup

open IconForge.Text

/-! ## Lexemes -/

/-- A token with the characters it was written with. -/
abbrev Lexeme := Token × List Char

/-- The characters of a row of lexemes. -/
def written (row : List Lexeme) : List Char := row.flatMap Prod.snd

@[simp] theorem written_nil : written [] = [] := rfl

@[simp] theorem written_cons (token : Token) (lexeme : List Char) (row : List Lexeme) :
    written ((token, lexeme) :: row) = lexeme ++ written row := rfl

@[simp] theorem written_append (row more : List Lexeme) :
    written (row ++ more) = written row ++ written more := by
  simp [written]

/-- The lexemes of a text in order, and the fault that ends them, if one does. -/
def lexemes (cs : List Char) : List Lexeme × Option Fault :=
  match h : scan cs with
  | .done => ([], none)
  | .fault fault => ([], some fault)
  | .token token lexeme rest =>
    have := length_rest_lt h
    ((token, lexeme) :: (lexemes rest).1, (lexemes rest).2)
termination_by cs.length

theorem lexemes_of_done {cs : List Char} (h : scan cs = .done) : lexemes cs = ([], none) := by
  rw [lexemes]
  split <;> simp_all

theorem lexemes_of_fault {cs : List Char} {fault : Fault} (h : scan cs = .fault fault) :
    lexemes cs = ([], some fault) := by
  rw [lexemes]
  split <;> simp_all

theorem lexemes_of_token {cs lexeme rest : List Char} {token : Token}
    (h : scan cs = .token token lexeme rest) :
    lexemes cs = ((token, lexeme) :: (lexemes rest).1, (lexemes rest).2) := by
  rw [lexemes]
  split <;> simp_all

/-- Only the empty text has nothing to read. -/
theorem eq_nil_of_scan_done {cs : List Char} (h : scan cs = .done) : cs = [] := by
  unfold scan at h
  split at h
  · rfl
  · -- no construct that starts at a bracket is nothing
    exfalso
    unfold scanMarkup scanBang scanInstruction at h
    repeat' split at h
    all_goals exact Scan.noConfusion h
  · exfalso
    unfold scanAmpersand at h
    split at h <;> exact Scan.noConfusion h
  · exact Scan.noConfusion h

/-- Lexemes and what cannot be read make up the text; without a fault all is read. -/
theorem flatten_lexemes (cs : List Char) :
    ∃ unread, cs = written (lexemes cs).1 ++ unread ∧ ((lexemes cs).2 = none → unread = []) := by
  induction cs using lexemes.induct with
  | case1 cs h =>
    refine ⟨[], ?_, fun _ => rfl⟩
    rw [lexemes_of_done h, eq_nil_of_scan_done h]
    rfl
  | case2 cs fault h => exact ⟨cs, by simp [lexemes_of_fault h], by simp [lexemes_of_fault h]⟩
  | case3 cs token lexeme rest h _ ih =>
    -- one lexeme is read, and the rest is made up as the induction says
    obtain ⟨unread, eq, ends⟩ := ih
    refine ⟨unread, ?_, by rwa [lexemes_of_token h]⟩
    rw [lexemes_of_token h, written_cons, List.append_assoc, ← eq]
    exact (scan_append h).2

/-- Each lexeme has been read at the front of a text. -/
theorem exists_scan_of_mem {cs : List Char} {l : Lexeme} (mem : l ∈ (lexemes cs).1) :
    ∃ text rest, scan text = .token l.1 l.2 rest := by
  induction cs using lexemes.induct with
  | case1 cs h => simp [lexemes_of_done h] at mem
  | case2 cs fault h => simp [lexemes_of_fault h] at mem
  | case3 cs token lexeme rest h _ ih =>
    rw [lexemes_of_token h] at mem
    rcases List.mem_cons.mp mem with rfl | mem
    · exact ⟨cs, rest, h⟩
    · exact ih mem

/-- No lexeme is empty. -/
theorem lexeme_ne_nil {cs : List Char} {l : Lexeme} (mem : l ∈ (lexemes cs).1) : l.2 ≠ [] := by
  obtain ⟨text, rest, h⟩ := exists_scan_of_mem mem
  exact (scan_append h).1

/-! ## Places -/

/-- A row of lexemes that starts at an offset, each with its place. -/
def Tokens.place (fault : Option Fault) : (offset : Nat) → List Lexeme → Tokens
  | offset, [] =>
    match fault with
    | none => .ended offset
    | some fault => .broken fault offset
  | offset, (token, lexeme) :: row =>
    .next token offset (offset + byteSize lexeme) (place fault (offset + byteSize lexeme) row)

/-- The tokens of a text are its lexemes with their places. -/
theorem Tokens.ofChars_eq_place (offset : Nat) (cs : List Char) :
    Tokens.ofChars offset cs = .place (lexemes cs).2 offset (lexemes cs).1 := by
  induction cs using lexemes.induct generalizing offset with
  | case1 cs h => rw [ofChars_eq, h, lexemes_of_done h, place]
  | case2 cs fault h => rw [ofChars_eq, h, lexemes_of_fault h, place]
  | case3 cs token lexeme rest h _ ih =>
    -- the next token stands after this lexeme
    rw [ofChars_eq, h, lexemes_of_token h, place]
    exact congrArg _ (ih _)

/-! ## Cutting -/

/-- A text holds each part of it between the offsets where the part begins and ends. -/
theorem slice?_middle (before middle after : List Char) :
    slice? (String.ofList (before ++ middle ++ after)) (byteSize before)
      (byteSize (before ++ middle)) = some (String.ofList middle) := by
  rw [slice?_eq_some_iff]
  refine ⟨String.ofList before, String.ofList after, ?_, ?_, ?_⟩
  · rw [String.ofList_append, String.ofList_append]
  · rw [utf8ByteSize_ofList]
  · rw [utf8ByteSize_ofList, byteSize_append]

/-- Cutting a text where a part of it begins and ends gives that part. -/
theorem cut_middle (before middle after : List Char) :
    cut (String.ofList (before ++ middle ++ after)) (byteSize before)
      (byteSize (before ++ middle)) = .ok (String.ofList middle) := by
  rw [cut, slice?_middle]

/-! ## The root -/

def Token.isTag : Token → Bool
  | .startTag _ | .emptyTag _ | .endTag _ => true
  | _ => false

/-- What is no tag is passed over on the way to the root. -/
theorem Tokens.root_next_of_not_isTag {source : String} {token : Token}
    (h : token.isTag = false) (start stop : Nat) (rest : Tokens) :
    (Tokens.next token start stop rest).root source = rest.root source := by
  cases token <;> first | rfl | exact Bool.noConfusion h

/-- A tag is that of the root, or there is no root. -/
theorem Tokens.root_next_of_isTag {source : String} {token : Token} (h : token.isTag = true)
    {start stop : Nat} {rest : Tokens} {tag : Tag} {content : Option (Nat × Tokens)} :
    (Tokens.next token start stop rest).root source = .ok (tag, content) ↔
      localName tag.name = "svg" ∧
        ((token = .startTag tag ∧ content = some (stop, rest)) ∨
          (token = .emptyTag tag ∧ content = none)) := by
  cases token with
  | startTag t | emptyTag t =>
    rw [root]
    constructor
    · intro found
      split at found
      · rename_i svg
        obtain ⟨rfl, rfl⟩ := Prod.mk.inj (Except.ok.inj found)
        simp [svg]
      · simp at found
    · -- the root is of the kind that the token is
      rintro ⟨svg, ⟨eq, rfl⟩ | ⟨eq, rfl⟩⟩ <;> cases eq
      simp [svg]
  | endTag name => simp [root]
  | characters | reference | cdata | comment | instruction | doctype => exact Bool.noConfusion h

/-- A row that begins with a tag has nothing before its first tag. -/
theorem eq_of_first_isTag {first l : Lexeme} {row prolog rest : List Lexeme}
    (isTag : first.1.isTag = true) (noTags : ∀ l ∈ prolog, l.1.isTag = false)
    (eq : first :: row = prolog ++ l :: rest) : prolog = [] ∧ first = l ∧ row = rest := by
  cases prolog with
  | nil =>
    obtain ⟨rfl, rfl⟩ := List.cons.inj eq
    exact ⟨rfl, rfl, rfl⟩
  | cons l' prolog =>
    obtain ⟨rfl, -⟩ := List.cons.inj eq
    have noTag := noTags first (by simp)
    exact absurd (isTag.symm.trans noTag) (by simp)

/-- A row that does not begin with a tag has its first lexeme before the first tag. -/
theorem exists_of_first_not_isTag {first l : Lexeme} {row prolog rest : List Lexeme}
    (noTag : first.1.isTag = false) (isTag : l.1.isTag = true)
    (eq : first :: row = prolog ++ l :: rest) :
    ∃ more, prolog = first :: more ∧ row = more ++ l :: rest := by
  cases prolog with
  | nil =>
    obtain ⟨rfl, -⟩ := List.cons.inj eq
    exact absurd (isTag.symm.trans noTag) (by simp)
  | cons l' prolog =>
    obtain ⟨rfl, rfl⟩ := List.cons.inj eq
    exact ⟨prolog, rfl, rfl⟩

/-- The root is the first tag: what is before it is no tag, and its content begins after it. -/
theorem Tokens.root_place {source : String} {fault : Option Fault} {offset : Nat}
    {row : List Lexeme} {tag : Tag} {content : Option (Nat × Tokens)} :
    (Tokens.place fault offset row).root source = .ok (tag, content) ↔
      ∃ prolog lexeme rest, localName tag.name = "svg" ∧ (∀ l ∈ prolog, l.1.isTag = false) ∧
        let stop := offset + byteSize (written prolog ++ lexeme)
        ((row = prolog ++ (.startTag tag, lexeme) :: rest ∧
            content = some (stop, .place fault stop rest)) ∨
          (row = prolog ++ (.emptyTag tag, lexeme) :: rest ∧ content = none)) := by
  induction row generalizing offset with
  | nil => cases fault <;> simp [place, root]
  | cons l row ih =>
    obtain ⟨token, lexeme⟩ := l
    rw [place]
    cases isTag : token.isTag with
    | false =>
      -- the first lexeme goes before those that the root has before it in the rest
      rw [root_next_of_not_isTag isTag, ih]
      constructor
      · rintro ⟨prolog, lexeme', rest, svg, noTags, found⟩
        refine ⟨(token, lexeme) :: prolog, lexeme', rest, svg,
          List.forall_mem_cons.mpr ⟨isTag, noTags⟩, ?_⟩
        rcases found with ⟨rfl, eq⟩ | ⟨rfl, eq⟩
        · exact Or.inl ⟨rfl, by simpa [Nat.add_assoc] using eq⟩
        · exact Or.inr ⟨rfl, eq⟩
      · rintro ⟨prolog, lexeme', rest, svg, noTags, ⟨eq, rfl⟩ | ⟨eq, rfl⟩⟩
        all_goals
          obtain ⟨more, rfl, rfl⟩ := exists_of_first_not_isTag isTag rfl eq
          refine ⟨more, lexeme', rest, svg, (List.forall_mem_cons.mp noTags).2, ?_⟩
        · exact Or.inl ⟨rfl, by simp [Nat.add_assoc]⟩
        · exact Or.inr ⟨rfl, rfl⟩
    | true =>
      rw [root_next_of_isTag isTag]
      constructor
      · rintro ⟨svg, ⟨rfl, rfl⟩ | ⟨rfl, rfl⟩⟩
        · exact ⟨[], lexeme, row, svg, by simp, Or.inl ⟨rfl, by simp⟩⟩
        · exact ⟨[], lexeme, row, svg, by simp, Or.inr ⟨rfl, rfl⟩⟩
      · rintro ⟨prolog, lexeme', rest, svg, noTags, ⟨eq, rfl⟩ | ⟨eq, rfl⟩⟩
        all_goals
          obtain ⟨rfl, here, rfl⟩ := eq_of_first_isTag isTag noTags eq
          obtain ⟨rfl, rfl⟩ := Prod.mk.inj here
        · exact ⟨svg, Or.inl ⟨rfl, by simp⟩⟩
        · exact ⟨svg, Or.inr ⟨rfl, rfl⟩⟩

end IconForge.Markup
