import ReadLater.Json.Basic

/-!
# Values as records

What a value of a known shape holds. A record is an object, whose other members are passed over, or
an array of the values in order.
-/

namespace ReadLater.Json

def text? : Json → Option String
  | .string s => some s
  | _ => none

def flag? : Json → Option Bool
  | .bool b => some b
  | _ => none

/-- A natural number. -/
def size? : Json → Option Nat
  | .number (.int n) => if 0 ≤ n then some n.toNat else none
  | _ => none

def list? (decode : Json → Option α) : Json → Option (List α)
  | .array elements => elements.mapM decode
  | _ => none

/-- Null for none. -/
def orNull? (decode : Json → Option α) : Json → Option (Option α)
  | .null => some none
  | json => (decode json).map some

/-- A member that may be left out. -/
def given? (decode : Json → Option α) (default : α) : Option Json → Option α
  | some json => decode json
  | none => some default

/-- A word, alone or as the name of the only member of an object, which is null. -/
def word? : Json → Option String
  | .string s => some s
  | .object [(name, .null)] => some name
  | _ => none

/-- The members of a record in one of the two forms. -/
inductive Members
  | named (members : List (String × Json))
  | listed (values : List Json)

/-- The values of the known members; a member may be missing but not be given twice. -/
def Members.pick? (names : List String) : Members → Option (List (Option Json))
  | .named members =>
    names.mapM fun name =>
      match members.filter fun m => m.1 == name with
      | [] => some none
      | [m] => some (some m.2)
      | _ => none
  | .listed values =>
    if values.length ≤ names.length then
      some (values.map some ++ List.replicate (names.length - values.length) none)
    else none

/-- The members of a record by name. -/
def fields? (names : List String) : Json → Option (List (Option Json))
  | .object members => (Members.named members).pick? names
  | .array values => (Members.listed values).pick? names
  | _ => none

end ReadLater.Json
