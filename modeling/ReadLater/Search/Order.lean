import ReadLater.Filter.Sort
import ReadLater.Json.Members

/-! # Default orders of a search -/

namespace ReadLater

/-- The column of a default order. -/
inductive SortBy
  | updatedTime
  | savedAt
  | publishedAt
deriving DecidableEq, Repr

inductive SortOrder
  | ascending
  | descending
deriving DecidableEq, Repr

namespace SortBy

def all : List SortBy := [.updatedTime, .savedAt, .publishedAt]

def name : SortBy → String
  | .updatedTime => "UPDATED_TIME"
  | .savedAt => "SAVED_AT"
  | .publishedAt => "PUBLISHED_AT"

def column : SortBy → Column
  | .updatedTime => .updatedAt
  | .savedAt => .savedAt
  | .publishedAt => .publishedAt

def ofJson? (json : Json) : Option SortBy := do
  let word ← json.word?
  all.find? fun b => b.name == word

end SortBy

namespace SortOrder

def all : List SortOrder := [.ascending, .descending]

def name : SortOrder → String
  | .ascending => "ASCENDING"
  | .descending => "DESCENDING"

def direction : SortOrder → SortDirection
  | .ascending => .ascending
  | .descending => .descending

def ofJson? (json : Json) : Option SortOrder := do
  let word ← json.word?
  all.find? fun o => o.name == word

end SortOrder

/-- The order of items that a query itself does not tell apart. -/
structure SortParameters where
  key : SortBy := .updatedTime
  order : SortOrder := .descending
deriving DecidableEq, Repr

namespace SortParameters

def directive (p : SortParameters) : SortDirective :=
  ⟨p.key.column.name, p.order.direction, .last⟩

def ofJson? (json : Json) : Option SortParameters := do
  let [key, order] ← json.fields? ["by", "order"] | none
  return {
    key := ← Json.given? SortBy.ofJson? .updatedTime key
    order := ← Json.given? SortOrder.ofJson? .descending order }

end SortParameters

end ReadLater
