/-!
# Character classes

The classes that the rest of the library asks about: blank characters (the White_Space property),
control characters, the four spaces of markup, and the letters and digits of identifiers.
-/

namespace IconForge.Text

/-- A character with the White_Space property. The ranges are those of the Unicode Character
Database: the zero-width space, the byte order mark and the information separators are outside. -/
def isBlank (c : Char) : Bool :=
  let n := c.toNat
  (0x09 ≤ n && n ≤ 0x0D) || n == 0x20 || n == 0x85 || n == 0xA0 || n == 0x1680 ||
    (0x2000 ≤ n && n ≤ 0x200A) || n == 0x2028 || n == 0x2029 || n == 0x202F || n == 0x205F ||
    n == 0x3000

def isControl (c : Char) : Bool :=
  let n := c.toNat
  n ≤ 0x1F || (0x7F ≤ n && n ≤ 0x9F)

/-- A space as markup knows it: blank, tab, carriage return or line feed. -/
def isMarkupSpace (c : Char) : Bool :=
  c == ' ' || c == '\t' || c == '\r' || c == '\n'

/-- An ASCII letter or digit, the alphabet of identifiers. -/
def isWordChar (c : Char) : Bool := c.isAlphanum

/-- A text with all of its blank characters removed. -/
def withoutBlanks (s : String) : String :=
  String.ofList (s.toList.filter fun c => !isBlank c)

def isAllBlank (s : String) : Bool := s.toList.all isBlank

end IconForge.Text
