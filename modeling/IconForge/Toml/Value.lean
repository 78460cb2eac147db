import IconForge.Text.Binary

/-!
# TOML values

What a document holds once it has been read. A table keeps its keys in the order in which they were
first given a place.
-/

namespace IconForge.Toml

open IconForge.Text

inductive Value where
  | string (text : String)
  | integer (n : Int)
  | float (x : Binary)
  | boolean (b : Bool)
  /-- A date, a time or both, as written. -/
  | datetime (text : String)
  | array (items : List Value)
  /-- Tables written one by one under a heading in double brackets. -/
  | tables (items : List Value)
  | table (entries : List (String × Value))
  deriving Repr

abbrev Table := List (String × Value)

/-- The name of the type of a value. -/
def Value.typeName : Value → String
  | string _ => "string"
  | integer _ => "integer"
  | float _ => "float"
  | boolean _ => "boolean"
  | datetime _ => "datetime"
  | array _ => "array"
  | tables _ => "array of tables"
  | table _ => "table"

end IconForge.Toml
