import ReadLater.Json.Basic

/-! # TOML values -/

namespace ReadLater.Toml

/-- How a table came about, which decides what may still be added to it. -/
inductive Origin
  /-- By a header of its own. -/
  | header
  /-- By the header of a table inside of it. -/
  | implied
  /-- By a dotted key. -/
  | dotted
  /-- In braces. -/
  | inline
deriving DecidableEq, Repr

inductive Value
  | text (s : String)
  | integer (n : Int)
  | float (x : Float)
  | boolean (b : Bool)
  /-- A day, a time or both, as it was written. -/
  | dateTime (s : String)
  | array (elements : List Value)
  | table (origin : Origin) (entries : List (String × Value))
  /-- Tables with headers in double brackets. -/
  | tables (elements : List (List (String × Value)))

mutual

/-- The value as JSON, where a date is an object of one member. -/
def Value.toJson : Value → Json
  | .text s => .string s
  | .integer n => Json.int n
  | .float x => Json.float x
  | .boolean b => .bool b
  | .dateTime s => .object [("$datetime", .string s)]
  | .array elements => .array (elementsJson elements)
  | .table _ entries => .object (entriesJson entries)
  | .tables elements => .array (tablesJson elements)

def elementsJson : List Value → List Json
  | [] => []
  | v :: rest => v.toJson :: elementsJson rest

def entriesJson : List (String × Value) → List (String × Json)
  | [] => []
  | (key, v) :: rest => (key, v.toJson) :: entriesJson rest

def tablesJson : List (List (String × Value)) → List Json
  | [] => []
  | entries :: rest => .object (entriesJson entries) :: tablesJson rest

end

end ReadLater.Toml
