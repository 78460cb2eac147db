import IconForge.Text.Search

/-!
# Glob patterns

A pattern is matched against a whole text. `?` stands for any character, `*` for any run of
characters, and `[...]` for one character of a class, or with `!` first for one outside. `**` stands
for any run of whole path components; it has to be one itself. All else stands for itself.
-/

namespace IconForge.Glob

open IconForge.Text

/-! ## Patterns -/

inductive Member where
  | single (c : Char)
  | range (low high : Char)
  deriving DecidableEq, Repr

inductive Token where
  | char (c : Char)
  | anyChar
  | anySequence
  /-- Any run of whole components. -/
  | anyComponents
  /-- One character in the class, or outside if `negated`. -/
  | oneOf (negated : Bool) (members : List Member)
  deriving DecidableEq, Repr

/-- A pattern, with the text it was read from. -/
structure Pattern where
  text : String
  tokens : List Token
  deriving DecidableEq, Repr

inductive Flaw where
  /-- More than two asterisks in a row. -/
  | wildcards
  /-- Two asterisks that are not a whole component. -/
  | components
  /-- A class that is not closed. -/
  | range
  deriving DecidableEq, Repr

/-- Why a text is no pattern, and the number of characters before the place. -/
structure PatternError where
  position : Nat
  flaw : Flaw
  deriving DecidableEq, Repr

def Flaw.message : Flaw → String
  | wildcards => "wildcards are either regular `*` or recursive `**`"
  | components => "recursive wildcards must form a single path component"
  | range => "invalid range pattern"

def PatternError.message (e : PatternError) : String :=
  "Pattern syntax error near position " ++ toString e.position ++ ": " ++ e.flaw.message

/-! ## Reading a pattern -/

/-- The members of a class, read from the left: a dash between two characters makes a range. -/
def members : List Char → List Member
  | low :: '-' :: high :: cs => .range low high :: members cs
  | c :: cs => .single c :: members cs
  | [] => []

/-- The class after an opening bracket, and what follows it. The bracket that closes it is looked
for from the second member on. -/
def charClass? : List Char → Option (Token × List Char)
  | '!' :: first :: cs =>
    (splitAtFirst? [']'] cs).map fun (more, rest) => (.oneOf true (members (first :: more)), rest)
  | ['!'] | [] => none
  | first :: cs =>
    (splitAtFirst? [']'] cs).map fun (more, rest) => (.oneOf false (members (first :: more)), rest)

theorem length_charClass?_lt {cs rest : List Char} {t : Token}
    (h : charClass? cs = some (t, rest)) : rest.length < cs.length := by
  have bound {more after tail : List Char}
      (hs : splitAtFirst? [']'] tail = some (more, after)) : after.length < tail.length := by
    rw [eq_of_splitAtFirst? hs]
    simp only [List.length_append, List.length_cons, List.length_nil]
    omega
  unfold charClass? at h
  split at h
  · simp only [Option.map_eq_some_iff, Prod.exists, Prod.mk.injEq] at h
    obtain ⟨more, after, hs, -, rfl⟩ := h
    have := bound hs
    simp only [List.length_cons]
    omega
  · simp at h
  · simp at h
  · simp only [Option.map_eq_some_iff, Prod.exists, Prod.mk.injEq] at h
    obtain ⟨more, after, hs, -, rfl⟩ := h
    have := bound hs
    simp only [List.length_cons]
    omega

/-- The tokens before, the last one first, with a run of components added. It says nothing new after
another one, and is left out there unless that is the first token of all. -/
def addComponents : List Token → List Token
  | .anyComponents :: t :: before => .anyComponents :: t :: before
  | before => .anyComponents :: before

/-- Reads the rest of a pattern, `position` characters into it, after the character `previous` and
the tokens `before`, the last one first. -/
def tokensFrom (position : Nat) (previous : Option Char) (before : List Token) (cs : List Char) :
    Except PatternError (List Token) :=
  match cs with
  | [] => .ok before.reverse
  | '?' :: cs => tokensFrom (position + 1) (some '?') (.anyChar :: before) cs
  | '*' :: '*' :: '*' :: _ => .error ⟨position + 2, .wildcards⟩
  | '*' :: '*' :: cs =>
    if previous = none ∨ previous = some '/' then
      match cs with
      | [] => .ok (addComponents before).reverse
      | '/' :: cs => tokensFrom (position + 3) (some '/') (addComponents before) cs
      | _ => .error ⟨position + 2, .components⟩
    else .error ⟨position - 1, .components⟩
  | '*' :: cs => tokensFrom (position + 1) (some '*') (.anySequence :: before) cs
  | '[' :: cs =>
    match h : charClass? cs with
    | some (token, rest) =>
      have := length_charClass?_lt h
      tokensFrom (position + 1 + (cs.length - rest.length)) (some ']') (token :: before) rest
    | none => .error ⟨position, .range⟩
  | c :: cs => tokensFrom (position + 1) (some c) (.char c :: before) cs
termination_by cs.length

def Pattern.parse (text : String) : Except PatternError Pattern :=
  (tokensFrom 0 none [] text.toList).map fun tokens => ⟨text, tokens⟩

/-! ## Matching -/

/-- A character is one that a member of a class names. -/
def Member.accepts (c : Char) : Member → Bool
  | single x => x == c
  | range low high => low ≤ c && c ≤ high

/-- A character is one that a token for a single character stands for. -/
def Token.accepts (c : Char) : Token → Bool
  | char x => x == c
  | anyChar => true
  | oneOf negated members => (members.any (Member.accepts c)) != negated
  | anySequence | anyComponents => false

/-- What can be left of a text after any run of its characters, the longest first. -/
def suffixes : List Char → List (List Char)
  | [] => [[]]
  | c :: cs => (c :: cs) :: suffixes cs

/-- What is left of a text after each of its slashes, and at its end. -/
def afterSlashes : List Char → List (List Char)
  | [] => [[]]
  | c :: cs => if c == '/' then cs :: afterSlashes cs else afterSlashes cs

/-- How an attempt to match a whole text ends. -/
inductive Outcome where
  | matched
  /-- A character is none that its token stands for, or characters are left over. -/
  | mismatched
  /-- The text ends where a token stands for a character. Leaving less of the text to the tokens
  does not help then. -/
  | exhausted
  deriving DecidableEq, Repr

/-- The outcome of the first attempt that does not end in a mismatch. -/
def firstSettled (attempt : List Char → Outcome) : List (List Char) → Outcome
  | [] => .mismatched
  | cs :: more =>
    match attempt cs with
    | .mismatched => firstSettled attempt more
    | outcome => outcome

def outcomeOf : List Token → List Char → Outcome
  | [], cs => if cs.isEmpty then .matched else .mismatched
  | .anySequence :: ts, cs => firstSettled (outcomeOf ts) (suffixes cs)
  | .anyComponents :: ts, cs => firstSettled (outcomeOf ts) (cs :: afterSlashes cs)
  | _ :: _, [] => .exhausted
  | t :: ts, c :: cs => if t.accepts c then outcomeOf ts cs else .mismatched

def Pattern.matches (p : Pattern) (text : String) : Bool :=
  outcomeOf p.tokens text.toList = .matched

end IconForge.Glob
