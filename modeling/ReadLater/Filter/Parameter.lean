import ReadLater.Text.Decimal
import ReadLater.Time.Instant

/-!
# Bound parameters

Values that a filter refers to by name. A name is a prefix and the number of values bound before, so
that no two names are equal.
-/

namespace ReadLater

inductive ParameterValue
  | text (s : String)
  | list (ss : List String)
  | int (n : Int64)
  | time (t : Time.Instant)
deriving DecidableEq

structure Parameter where
  name : String
  value : ParameterValue
deriving DecidableEq

def numbered (stem : String) (n : Nat) : String :=
  stem ++ "_" ++ String.ofList (Text.decimal n)

/-- Values in the order in which they were bound. -/
structure Parameters where
  entries : List Parameter
deriving DecidableEq

namespace Parameters

def empty : Parameters := ⟨[]⟩

def get? (ps : Parameters) (name : String) : Option ParameterValue :=
  (ps.entries.find? fun p => p.name == name).map (·.value)

/-- The name that the next value bound with this prefix has. -/
def nextName (ps : Parameters) (stem : String) : String :=
  numbered stem ps.entries.length

def bind (ps : Parameters) (stem : String) (value : ParameterValue) : Parameters :=
  ⟨ps.entries ++ [⟨ps.nextName stem, value⟩]⟩

end Parameters

end ReadLater
