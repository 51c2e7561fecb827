import ReadLater.Search.Order
import ReadLater.Time.Date

/-! # Search settings -/

namespace ReadLater

structure SearchSettings where
  defaultPageSize : Nat := 10
  maxPageSize : Nat := 100
  defaultSort : SortParameters := {}
  weekStart : Time.Weekday := .monday
deriving DecidableEq

namespace SearchSettings

/-- No page is larger than this. -/
def pageLimit : Nat := 100

/-- A number between two bounds, of which the lower one is taken first. The bounds are to be in
order: otherwise there is no such number, and the result stands for nothing. -/
def clamp (low high n : Nat) : Nat :=
  if n < low then low else if high < n then high else n

/-- The size of a page for which a caller asks. It is meant for settings whose largest page holds a
row, as every configuration has them. -/
def pageSize (s : SearchSettings) (first : Option Nat) : Nat :=
  clamp 1 s.maxPageSize (first.getD s.defaultPageSize)

end SearchSettings

end ReadLater
