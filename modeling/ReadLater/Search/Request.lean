import ReadLater.Search.Order

/-! # Search requests -/

namespace ReadLater

structure SearchRequest where
  userId : String := ""
  query : String := ""
  /-- The size of the page. -/
  first : Option Nat := none
  /-- The cursor that came with the page before. -/
  after : Option String := none
  useFolders : Bool := false
  includeDeleted : Bool := false
  includePending : Bool := false
  /-- Also count all matches. -/
  includeTotal : Bool := false
  sort : Option SortParameters := none
deriving DecidableEq, Repr

namespace SearchRequest

def ofJson? (json : Json) : Option SearchRequest := do
  let [userId, query, first, after, useFolders, includeDeleted, includePending, includeTotal,
      sort] ←
    json.fields? ["user_id", "query", "first", "after", "use_folders", "include_deleted",
      "include_pending", "include_total", "sort"] | none
  let text := Json.given? Json.text? ""
  let flag := Json.given? Json.flag? false
  return {
    userId := ← text userId
    query := ← text query
    first := ← Json.given? (Json.orNull? Json.size?) none first
    after := ← Json.given? (Json.orNull? Json.text?) none after
    useFolders := ← flag useFolders
    includeDeleted := ← flag includeDeleted
    includePending := ← flag includePending
    includeTotal := ← flag includeTotal
    sort := ← Json.given? (Json.orNull? SortParameters.ofJson?) none sort }

end SearchRequest

end ReadLater
