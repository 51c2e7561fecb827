import ReadLater.Bulk.Request
import ReadLater.Library.Update
import ReadLater.Search.Page

/-!
# Applying bulk actions

An action applies to every item that a search with the same query shows. The order and the ranks of
the query play no part.
-/

namespace ReadLater

structure BulkResult where
  /-- The number of items that the query matched. -/
  matched : Nat
  /-- The number of items updated, or of label links added. -/
  affected : Nat
deriving DecidableEq, Repr

namespace BulkRequest

/-- The items that a request is about. -/
def filter (r : BulkRequest) (s : SearchSettings) (now : Time.Moment) :
    Except RequestError Filter := do
  let compiled ← s.compile r.query r.useFolders now
  return compiled.visibleTo r.userId {}

end BulkRequest

namespace Library

/-- The links of some items to some labels that are not there yet, item by item. -/
def missingLinks (l : Library) (itemIds : List String) (labels : List Label) : List LabelLink :=
  let existing := l.linksOf itemIds
  itemIds.flatMap fun itemId =>
    (labels.map fun label => (⟨label.id, itemId⟩ : LabelLink)).filter fun link =>
      !existing.contains link

/-- Adds labels of a user to the matching items; every label must exist. -/
def addLabels (l : Library) (clock : Time.Instant) (userId : String) (f : Filter)
    (labelIds : List String) : Except RequestError (Library × BulkResult) := do
  let labels := l.findLabels userId labelIds
  if let some missing := labelIds.find? fun id => !labels.any fun label => label.id == id then
    throw (.unknownLabel missing)
  let itemIds ← (l.matchingIds clock f).mapError .store
  let (after, inserted) := l.insertLinks (l.missingLinks itemIds labels)
  return (after, ⟨itemIds.length, inserted⟩)

def bulk (l : Library) (clock : Time.Instant) (s : SearchSettings) (r : BulkRequest)
    (now : Time.Moment) : Except RequestError (Library × BulkResult) := do
  let f ← r.filter s now
  match r.action with
  | .addLabels labelIds => l.addLabels clock r.userId f labelIds
  | action =>
    let (after, n) ←
      (l.update clock f ((action.changes? now.instant).getD {})).mapError .store
    return (after, ⟨n, n⟩)

end Library

end ReadLater
