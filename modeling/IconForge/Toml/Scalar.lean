import IconForge.Toml.Reader
import IconForge.Toml.Value

/-!
# Keys and simple values

The parts of a document that hold no others: blanks and comments, keys, strings, numbers, dates and
times.

Where something that has begun well goes wrong, the reader may refuse or stop before it. Either way
the document is refused, for nothing that can stand after a value begins like the rest of one.
-/

namespace IconForge.Toml

open IconForge.Text Reader

/-! ## Characters -/

def isSpace (c : Char) : Bool := c == ' ' || c == '\t'

/-- A character that may stand in a text unescaped: a tab, or none of the control characters of
ASCII. -/
def isText (c : Char) : Bool := c == '\t' || (0x20 ≤ c.toNat && c.toNat != 0x7F)

def isBasicText (c : Char) : Bool := isText c && c != '"' && c != '\\'

def isLiteralText (c : Char) : Bool := isText c && c != '\x27'

def isBareKeyChar (c : Char) : Bool := c.isAlphanum || c == '-' || c == '_'

/-! ## Blanks -/

def spaces : Reader Unit := do let _ ← run isSpace

/-- The end of a line, as a line feed. -/
def newline : Reader Char := chars ['\r', '\n'] *> pure '\n' <|> charWhere (· == '\n')

def comment : Reader Unit := do
  char '#'
  let _ ← run isText

def lineEnd : Reader Unit := do
  if (← rest).isEmpty then return
  let _ ← newline

/-- What may follow a statement on its line, and the end of the line. -/
def trailing : Reader Unit := do
  spaces
  let _ ← optional comment
  lineEnd

/-- Blanks, ends of lines and comments in a row. -/
def blanks : Reader Unit := do
  let _ ← many ((do let _ ← run1 isSpace) <|> (do let _ ← newline) <|> comment)

/-! ## Strings -/

/-- The character with a code point of so many hexadecimal digits. -/
def codePoint (count : Nat) : Reader (List Char) := do
  let n ← fixedDigits 16 count
  if n.isValidChar then return [Char.ofNat n] else refuse

/-- What stands after the backslash of an escape. -/
def escape : Reader (List Char) := do
  match ← charWhere fun _ => true with
  | 'b' => return ['\x08']
  | 't' => return ['\t']
  | 'n' => return ['\n']
  | 'f' => return ['\x0c']
  | 'r' => return ['\r']
  | '"' => return ['"']
  | '\\' => return ['\\']
  | 'u' => codePoint 4
  | 'U' => codePoint 8
  | _ => refuse

def basicPiece : Reader (List Char) := run1 isBasicText <|> (char '\\' *> escape)

/-- A string in single quotes or double quotes on one line. -/
def lineString : Reader String := do
  match ← charWhere fun c => c == '"' || c == '\x27' with
  | '"' =>
    let pieces ← many basicPiece
    char '"'
    return String.ofList pieces.flatten
  | quote =>
    let text ← run isLiteralText
    char quote
    return String.ofList text

/-- A backslash at the end of a line, with the blanks after it. -/
def lineJoin : Reader (List Char) := do
  char '\\'
  spaces
  let _ ← newline
  let _ ← many ((do let _ ← run1 isSpace) <|> (do let _ ← newline))
  return []

/-- One or two quotes that do not close a string of several lines. -/
def innerQuotes (quote : Char) : Reader (List Char) := do
  let quotes ← run fun c => c == quote
  if quotes.isEmpty ∨ 2 < quotes.length then refuse else return quotes

/-- The quotes that close a string of several lines, without the last three: one or two before them
belong to the string. -/
def closingQuotes (quote : Char) : Reader (List Char) := do
  let quotes ← run fun c => c == quote
  if quotes.length < 3 ∨ 5 < quotes.length then refuse else return quotes.drop 3

/-- A string in three quotes of a kind, with what else it may hold. A line feed right at its
beginning does not belong to it. -/
def multilineString (quote : Char) (piece : Reader (List Char)) : Reader String := do
  chars [quote, quote, quote]
  let _ ← optional newline
  let pieces ← many (piece <|> (do return [← newline]) <|> innerQuotes quote)
  let last ← closingQuotes quote
  return String.ofList (pieces.flatten ++ last)

def string : Reader String :=
  multilineString '"' (run1 isBasicText <|> lineJoin <|> (char '\\' *> escape)) <|>
    multilineString '\x27' (run1 isLiteralText) <|> lineString

/-! ## Keys -/

def simpleKey : Reader String :=
  lineString <|> (do return String.ofList (← run1 isBareKeyChar))

/-- How many parts of a key, and how many brackets around a value, are too many. -/
def depthLimit : Nat := 80

/-- A key: parts with dots between them. -/
def key : Reader (List String) := do
  let parts ← separated1 (do spaces; let k ← simpleKey; spaces; return k) (char '.')
  if depthLimit ≤ parts.length then refuse else return parts

/-! ## Numbers -/

/-- Digits of a class, the first of them of another, with underscores between them. -/
def digits (first others : Char → Bool) : Reader (List Char) := do
  let c ← charWhere first
  let cs ← many (charWhere others <|> (char '_' *> charWhere others))
  return c :: cs

def sign : Reader Bool := do
  return (← optional (charWhere fun c => c == '+' || c == '-')) == some '-'

/-- The digits of a decimal number, without leading zeros. -/
def decimalDigits : Reader (List Char) :=
  digits (fun c => c.isDigit && c != '0') Char.isDigit <|> (do return [← charWhere Char.isDigit])

def decimalValue (ds : List Char) : Nat := (readDigits? 10 ds).getD 0

/-- A number that 64 bits hold, one of them for the sign. -/
def inRange (n : Int) : Reader Value :=
  if -0x8000000000000000 ≤ n ∧ n < 0x8000000000000000 then pure (.integer n) else refuse

/-- A number in another base after its mark. -/
def basedInteger (mark : Char) (base : Nat) : Reader Value := do
  chars ['0', mark]
  let isDigit := fun c => (digitOf? base c).isSome
  let ds ← digits isDigit isDigit
  inRange ((readDigits? base ds).getD 0)

def decimalInteger : Reader Value := do
  let negative ← sign
  let n := decimalValue (← decimalDigits)
  inRange (if negative then -n else n)

/-- The exponent of a floating point number. -/
def exponent : Reader Int := do
  let _ ← charWhere fun c => c == 'e' || c == 'E'
  let negative ← sign
  let n := decimalValue (← digits Char.isDigit Char.isDigit)
  return if negative then -n else n

/-- A floating point number: it has a fraction, an exponent or both, and is not too great. -/
def float : Reader Value := do
  let negative ← sign
  let whole ← decimalDigits
  let fraction ← optional (char '.' *> digits Char.isDigit Char.isDigit)
  let power ← optional exponent
  if fraction.isNone ∧ power.isNone then refuse
  let fraction := fraction.getD []
  let x := Binary.ofDecimal negative (decimalValue (whole ++ fraction))
    (power.getD 0 - fraction.length)
  if x = .infinite false then refuse else return .float x

def specialFloat : Reader Value := do
  let negative ← sign
  (chars "inf".toList *> pure (.float (.infinite negative))) <|>
    (chars "nan".toList *> pure (.float .nan))

def boolean : Reader Value :=
  (chars "true".toList *> pure (.boolean true)) <|>
    (chars "false".toList *> pure (.boolean false))

/-! ## Dates and times -/

/-- So many decimal digits, between two bounds. -/
def boundedDigits (count low high : Nat) : Reader Nat := do
  let n ← fixedDigits 10 count
  if low ≤ n ∧ n ≤ high then return n else refuse

def daysInMonth (year month : Nat) : Nat :=
  if month = 2 then
    if year % 4 = 0 ∧ (year % 100 ≠ 0 ∨ year % 400 = 0) then 29 else 28
  else if month = 4 ∨ month = 6 ∨ month = 9 ∨ month = 11 then 30 else 31

def date : Reader Unit := do
  let year ← fixedDigits 10 4
  char '-'
  let month ← boundedDigits 2 1 12
  char '-'
  let _ ← boundedDigits 2 1 (daysInMonth year month)

def time : Reader Unit := do
  let _ ← boundedDigits 2 0 23
  char ':'
  let _ ← boundedDigits 2 0 59
  char ':'
  let _ ← boundedDigits 2 0 60
  let _ ← optional (char '.' *> run1 Char.isDigit)

def offset : Reader Unit :=
  (do let _ ← charWhere fun c => c == 'Z' || c == 'z') <|> do
    let _ ← charWhere fun c => c == '+' || c == '-'
    let _ ← boundedDigits 2 0 23
    char ':'
    let _ ← boundedDigits 2 0 59

/-- A date with or without a time, or a time. -/
def moment : Reader Unit :=
  (do
    date
    let _ ← optional do
      let _ ← charWhere fun c => c == 'T' || c == 't' || c == ' '
      time
      let _ ← optional offset) <|>
  time

def datetime : Reader Value := do
  let before ← rest
  moment
  let after ← rest
  return .datetime (String.ofList (before.take (before.length - after.length)))

/-! ## Values without parts -/

def scalar : Reader Value :=
  (do return .string (← string)) <|> datetime <|> float <|> specialFloat <|>
    basedInteger 'x' 16 <|> basedInteger 'o' 8 <|> basedInteger 'b' 2 <|> decimalInteger <|> boolean

end IconForge.Toml
