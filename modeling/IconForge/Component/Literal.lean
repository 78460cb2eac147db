import IconForge.Text.Classes
import IconForge.Text.Digits

/-!
# Values in component source

The two ways in which a value is written into the source of a component: as a string literal in
double quotes, and as an attribute in double quotes.
-/

namespace IconForge.Component

open IconForge.Text

def literalChar (c : Char) : List Char :=
  match c with
  | '"' => ['\\', '"']
  | '\\' => ['\\', '\\']
  | '\n' => ['\\', 'n']
  | '\r' => ['\\', 'r']
  | '\t' => ['\\', 't']
  | c => if isControl c then '\\' :: 'u' :: hexPadded 4 c.toNat else [c]

def stringLiteral (value : String) : String :=
  String.ofList ('"' :: value.toList.flatMap literalChar ++ ['"'])

def attributeChar (c : Char) : List Char :=
  match c with
  | '&' => "&amp;".toList
  | '"' => "&quot;".toList
  | c => [c]

/-- A value as it stands between the quotes of an attribute. -/
def attributeText (value : String) : String :=
  String.ofList (value.toList.flatMap attributeChar)

end IconForge.Component
