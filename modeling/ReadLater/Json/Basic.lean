/-! # JSON values -/

namespace ReadLater

inductive Json.Number
  | int (n : Int)
  | float (x : Float)
deriving DecidableEq

inductive Json
  | null
  | bool (b : Bool)
  | number (n : Json.Number)
  | string (s : String)
  | array (elements : List Json)
  | object (members : List (String × Json))

namespace Json

def int (n : Int) : Json :=
  .number (.int n)

def float (x : Float) : Json :=
  .number (.float x)

/-- A value or null. -/
def orNull (toJson : α → Json) : Option α → Json
  | none => .null
  | some a => toJson a

def strings (ss : List String) : Json :=
  .array (ss.map .string)

/-- Sets a member in a list ordered by name. -/
def setMember (name : String) (value : Json) : List (String × Json) → List (String × Json)
  | [] => [(name, value)]
  | (key, old) :: rest =>
    if name < key then (name, value) :: (key, old) :: rest
    else if name = key then (name, value) :: rest
    else (key, old) :: setMember name value rest

/-- An object ordered by name, where the last of several members with one name stays. -/
def ofMembers (members : List (String × Json)) : Json :=
  .object (members.foldl (fun sorted (name, value) => setMember name value sorted) [])

def get? (json : Json) (name : String) : Option Json :=
  match json with
  | .object members => (members.find? fun m => m.1 == name).map (·.2)
  | _ => none

end Json

end ReadLater
