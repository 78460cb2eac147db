import IconForge.Markup.Token
import IconForge.Text.Slice

/-!
# Tokens and their places

The tokens of a document in order, each with the byte offsets between which it stands, up to the end
of the text or the first fault.
-/

namespace IconForge.Markup

open IconForge.Text

/-- A row of tokens with their places. -/
inductive Tokens where
  /-- The text ends here. -/
  | ended (offset : Nat)
  /-- No token can be read here. -/
  | broken (fault : Fault) (offset : Nat)
  | next (token : Token) (start stop : Nat) (rest : Tokens)
  deriving Repr

/-- The tokens of a text whose first character stands at `offset`. -/
def Tokens.ofChars (offset : Nat) (cs : List Char) : Tokens :=
  match h : scan cs with
  | .done => .ended offset
  | .fault fault => .broken fault offset
  | .token token lexeme rest =>
    have := length_rest_lt h
    .next token offset (offset + byteSize lexeme) (ofChars (offset + byteSize lexeme) rest)
termination_by cs.length

theorem Tokens.ofChars_eq (offset : Nat) (cs : List Char) :
    Tokens.ofChars offset cs =
      match scan cs with
      | .done => .ended offset
      | .fault fault => .broken fault offset
      | .token token lexeme rest =>
        .next token offset (offset + byteSize lexeme)
          (Tokens.ofChars (offset + byteSize lexeme) rest) := by
  rw [Tokens.ofChars]
  split <;> rename_i h <;> simp [h]

end IconForge.Markup
