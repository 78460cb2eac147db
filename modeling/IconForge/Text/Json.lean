import IconForge.Text.Digits

/-!
# JSON text

Flat objects on one line, without spaces, their fields in a given order. In a string only the quote,
the backslash and the characters below the blank are escaped.
-/

namespace IconForge.Text

def jsonChar (c : Char) : List Char :=
  match c with
  | '"' => ['\\', '"']
  | '\\' => ['\\', '\\']
  | '\x08' => ['\\', 'b']
  | '\x0c' => ['\\', 'f']
  | '\n' => ['\\', 'n']
  | '\r' => ['\\', 'r']
  | '\t' => ['\\', 't']
  | c => if c.toNat < 0x20 then '\\' :: 'u' :: hexPadded 4 c.toNat else [c]

def jsonString (s : String) : String :=
  String.ofList ('"' :: s.toList.flatMap jsonChar ++ ['"'])

inductive JsonScalar where
  | text (s : String)
  | number (n : Nat)
  deriving DecidableEq, Repr

def JsonScalar.render : JsonScalar → String
  | text s => jsonString s
  | number n => toString n

def jsonObject (fields : List (String × JsonScalar)) : String :=
  "\x7b" ++
    ",".intercalate (fields.map fun (key, value) => jsonString key ++ ":" ++ value.render) ++ "\x7d"

end IconForge.Text
