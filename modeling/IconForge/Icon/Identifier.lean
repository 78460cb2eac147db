import IconForge.Text.Classes
import IconForge.Text.Search

/-!
# Identifiers

An identifier is an ASCII letter followed by ASCII letters and digits; the type `Identifier` holds
nothing else. `camelCase` turns any text into a word of the identifier alphabet, and
`normalizedName?` makes an identifier of it where the suffix allows.
-/

namespace IconForge

open IconForge.Text

def isIdentifier (name : String) : Bool :=
  match name.toList with
  | [] => false
  | c :: cs => c.isAlpha && cs.all isWordChar

structure Identifier where
  text : String
  isIdentifier_text : isIdentifier text = true
  deriving DecidableEq

instance : ToString Identifier := ⟨Identifier.text⟩

inductive NamingError where
  /-- The title holds no letter or digit. -/
  | emptyIdentifier (title : String)
  | invalidIdentifier (name : String)
  deriving DecidableEq, Repr

def NamingError.message : NamingError → String
  | .emptyIdentifier title => "cannot derive an identifier from '" ++ title ++ "'"
  | .invalidIdentifier name => "'" ++ name ++ "' is not a valid identifier"

def Identifier.ofString (name : String) : Except NamingError Identifier :=
  if h : isIdentifier name = true then .ok ⟨name, h⟩ else .error (.invalidIdentifier name)

/-! ## Normal form of names -/

/-- The words of a text: its longest runs of ASCII letters and digits. -/
def words (cs : List Char) : List (List Char) :=
  (splitWhere (fun c => !isWordChar c) cs).filter fun word => !word.isEmpty

/-- A word with its first letter in upper case. -/
def capitalized : List Char → List Char
  | [] => []
  | c :: cs => c.toUpper :: cs

/-- The words of a text written as one, each with a capital first letter. -/
def camelCase (s : String) : String :=
  String.ofList ((words s.toList).flatMap capitalized)

/-- What names begin with that have no letter of their own to begin with. -/
def fallbackStem : String := "Icon"

/-- A name with a suffix, unless it ends with the suffix already. -/
def withSuffix (name suffix : String) : String :=
  if suffix.toList.isSuffixOf name.toList then name else name ++ suffix

/-- A word that starts with a letter. -/
def startingWithLetter (word : String) : String :=
  if (word.toList.head?.any Char.isDigit) then fallbackStem ++ word else word

/-- The name that a text suggests: in camel case, starting with a letter, with the suffix. A text
without letters and digits suggests none. -/
def normalizedName? (text suffix : String) : Option String :=
  let camel := camelCase text
  if camel.isEmpty then none else some (withSuffix (startingWithLetter camel) suffix)

/-- The `n`-th name of those that need no text. -/
def fallbackName (n : Nat) (suffix : String) : String :=
  withSuffix (fallbackStem ++ toString n) suffix

end IconForge
