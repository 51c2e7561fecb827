import ReadLater.Filter.Column

/-! # Rank columns and sort directives -/

namespace ReadLater

/-- A full-text relevance shown beside an item under the name `name`. -/
structure RankColumn where
  index : TextIndex
  query : String
  name : String
deriving DecidableEq, Repr

inductive SortDirection
  | ascending
  | descending
deriving DecidableEq, Repr

inductive NullsOrder
  | first
  | last
deriving DecidableEq, Repr

/-- Orders by a column or by the name of a rank column. -/
structure SortDirective where
  key : String
  direction : SortDirection
  nulls : NullsOrder := .last
deriving DecidableEq, Repr

def SortDirection.name : SortDirection → String
  | .ascending => "ASC"
  | .descending => "DESC"

def NullsOrder.name : NullsOrder → String
  | .first => "NULLS FIRST"
  | .last => "NULLS LAST"

end ReadLater
