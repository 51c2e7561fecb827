import ReadLater.Filter.Column
import ReadLater.Filter.Parameter

/-!
# Predicates on items

A predicate holds no text of the user's. It names bound parameters, and its only own values are
constants of the program.
-/

namespace ReadLater

inductive Comparison
  | less
  | lessOrEqual
  | greater
  | greaterOrEqual
deriving DecidableEq, Repr

/-- The right-hand side of a comparison. -/
inductive Comparand
  | parameter (name : String)
  | constant (n : Int64)
deriving DecidableEq

/-- A test of one item. -/
inductive Condition
  | textMatch (index : TextIndex) (query : String)
  | iLike (column : Column) (pattern : String)
  | equalsIgnoringCase (column : Column) (value : String)
  | equals (column : Column) (value : String)
  | notEquals (column : Column) (value : String)
  | compare (column : Column) (comparison : Comparison) (value : Comparand)
  | between (column : Column) (low high : Comparand)
  /-- Some element of the columns equals the value in any letter case. -/
  | anyEquals (columns : List Column) (value : String)
  | anyLike (columns : List Column) (pattern : String)
  | inList (column : Column) (values : String)
  | isNull (column : Column)
  | isNotNull (column : Column)
  | notEmpty (column : Column)
  | isEmpty (column : Column)
  /-- The time is set and not more than some days before now. -/
  | withinDays (column : Column) (days : Int64)
deriving DecidableEq

inductive Predicate
  | test (c : Condition)
  | and (left right : Predicate)
  | or (left right : Predicate)
  | not (inner : Predicate)
  | group (inner : Predicate)
deriving DecidableEq

def Comparand.references : Comparand → List String
  | .parameter name => [name]
  | .constant _ => []

def Condition.references : Condition → List String
  | .textMatch _ p | .iLike _ p | .equalsIgnoringCase _ p | .equals _ p | .notEquals _ p
  | .anyEquals _ p | .anyLike _ p | .inList _ p => [p]
  | .compare _ _ value => value.references
  | .between _ low high => low.references ++ high.references
  | .isNull _ | .isNotNull _ | .notEmpty _ | .isEmpty _ | .withinDays _ _ => []

/-- The parameters that a predicate names, in the order of its text. -/
def Predicate.references : Predicate → List String
  | .test c => c.references
  | .and left right | .or left right => left.references ++ right.references
  | .not inner | .group inner => inner.references

/-- A predicate and its parameters; without a predicate every item passes. -/
structure Filter where
  predicate : Option Predicate
  parameters : Parameters
deriving DecidableEq

end ReadLater
