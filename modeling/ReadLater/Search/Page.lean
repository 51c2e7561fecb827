import ReadLater.Library.Selection
import ReadLater.Search.Cursor
import ReadLater.Search.Request
import ReadLater.Search.Settings
import ReadLater.Search.Visibility

/-!
# Pages of a search

A search selects one page of the items that a query matches. The order is that of the query, and
then the default order. A full page comes with the cursor of the next one.
-/

namespace ReadLater

structure Page where
  rows : List Row
  nextCursor : Option String
  total : Option Nat

namespace SearchSettings

def compile (s : SearchSettings) (query : String) (useFolders : Bool) (now : Time.Moment) :
    Except RequestError Compiled :=
  (Query.compileText ⟨useFolders, now, s.weekStart⟩ query).mapError .query

end SearchSettings

/-- Adds the default order, unless the query orders by its column already. -/
def withDefaultSort (sort : List SortDirective) (fallback : SortDirective) : List SortDirective :=
  if sort.any fun d => d.key == fallback.key then sort else sort ++ [fallback]

namespace SearchRequest

def visibility (r : SearchRequest) : Visibility :=
  ⟨r.includePending, r.includeDeleted⟩

/-- The selection that a request stands for. -/
def selection (r : SearchRequest) (s : SearchSettings) (now : Time.Moment) :
    Except RequestError Selection := do
  let offset ← Cursor.read r.after
  let compiled ← s.compile r.query r.useFolders now
  let fallback := (r.sort.getD s.defaultSort).directive
  return {
    filter := compiled.visibleTo r.userId r.visibility
    ranks := compiled.ranks
    sort := withDefaultSort compiled.sort fallback
    offset
    limit := s.pageSize r.first }

end SearchRequest

namespace Library

/-- One page of a search. `clock` is the time that the trash is measured from, `now` that of the
caller. -/
def search (l : Library) (clock : Time.Instant) (s : SearchSettings) (r : SearchRequest)
    (now : Time.Moment) : Except RequestError Page := do
  let selection ← r.selection s now
  let rows ← (l.select clock selection).mapError .store
  let total ←
    if r.includeTotal then
      pure (some (← (l.count clock selection.filter).mapError .store))
    else pure none
  let nextCursor :=
    if rows.length = selection.limit then
      some (Cursor.write (selection.offset + selection.limit))
    else none
  return ⟨rows, nextCursor, total⟩

/-- The number of all matches of a search. -/
def countMatches (l : Library) (clock : Time.Instant) (s : SearchSettings) (r : SearchRequest)
    (now : Time.Moment) : Except RequestError Nat := do
  let selection ← r.selection s now
  (l.count clock selection.filter).mapError .store

end Library

end ReadLater
